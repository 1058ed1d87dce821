import FlashPatch.Proofs.Task
import FlashPatch.Storage.Device

/-!
# Calls on a device

Every call is counted, and it fails exactly if the planned fault is for it. What one call does is
said once for each kind of call. Over a run the capacity and the plan stay, calls are only added,
and whether the fault has struck is decided by the counts before and after.
-/

namespace FlashPatch.Device

/-- The device after a call, as far as counting goes. -/
def called (device : Device) (call : DeviceCall) : Device :=
  { device with calls := call :: device.calls }

/-- The number that the next call of a kind will have. -/
def nextOrdinal (device : Device) (call : DeviceCall) : Nat := device.calls.count call + 1

/-- Whether the next call of a kind will fail. -/
def Fails (device : Device) (call : DeviceCall) : Prop :=
  device.fault = some ⟨call, device.nextOrdinal call⟩

instance (device : Device) (call : DeviceCall) : Decidable (device.Fails call) :=
  inferInstanceAs (Decidable (device.fault = _))

/-- The bytes that are still to be read. -/
def unread (device : Device) : List UInt8 := device.contents.drop device.position

/-! ## Single calls -/

/-- Counting fails exactly if the fault is planned for the call. -/
theorem run_count_bind {α : Type} (device : Device) (call : DeviceCall) (next : Unit → DeviceM α) :
    (count call >>= next).run.run device =
      if device.Fails call then
        (.error (.planned call (device.nextOrdinal call)), device.called call)
      else (next ()).run.run (device.called call) := by
  unfold count
  by_cases h : device.Fails call
  · have hf : device.fault = some ⟨call, device.calls.count call + 1⟩ := h
    rw [if_pos h]
    apply Task.run_bind_error
    rw [Task.run_get_bind, Task.run_set_bind, if_pos hf]
    rfl
  · have hf : ¬device.fault = some ⟨call, device.calls.count call + 1⟩ := h
    rw [if_neg h]
    apply Task.run_bind_ok
    rw [Task.run_get_bind, Task.run_set_bind, if_neg hf]
    rfl

/-- A move sets the position. -/
theorem run_seek (device : Device) (position : Nat) :
    (seek position).run.run device =
      if device.Fails .seek then
        (.error (.planned .seek (device.nextOrdinal .seek)), device.called .seek)
      else (.ok (), { device.called .seek with position }) :=
  run_count_bind device .seek _

/-- Reading to the end gives all bytes that are still to be read. -/
theorem run_readToEnd (device : Device) :
    readToEnd.run.run device =
      if device.Fails .read then
        (.error (.planned .read (device.nextOrdinal .read)), device.called .read)
      else
        (.ok device.unread,
          { device.called .read with position := max device.position device.contents.length }) :=
  run_count_bind device .read _

/-- Reading a number of bytes takes exactly these, or fails at the end of the contents. -/
theorem run_readExactly (device : Device) (length : Nat) :
    (readExactly length).run.run device =
      if device.Fails .read then
        (.error (.planned .read (device.nextOrdinal .read)), device.called .read)
      else if device.position + length ≤ device.contents.length then
        (.ok (device.unread.take length),
          { device.called .read with position := device.position + length })
      else
        (.error .endOfContents,
          { device.called .read with position := device.contents.length }) := by
  unfold readExactly
  rw [run_count_bind]
  by_cases h : device.Fails .read
  · rw [if_pos h, if_pos h]
  · rw [if_neg h, if_neg h, Task.run_get_bind]
    by_cases hl : (device.called .read).position + length ≤ (device.called .read).contents.length
    · rw [if_pos hl]
      exact (if_pos hl).symm
    · rw [if_neg hl]
      exact (if_neg hl).symm

/-- A write puts the bytes that are taken at the position and moves it behind them. -/
theorem run_write (device : Device) (bytes : List UInt8) :
    (write bytes).run.run device =
      if device.Fails .write then
        (.error (.planned .write (device.nextOrdinal .write)), device.called .write)
      else
        (.ok (device.accepted bytes).length,
          { device.called .write with
            contents := overlay device.contents device.position (device.accepted bytes)
            position := device.position + (device.accepted bytes).length }) :=
  run_count_bind device .write _

/-- Flushing changes nothing that can be read. -/
theorem run_flush (device : Device) :
    flush.run.run device =
      if device.Fails .flush then
        (.error (.planned .flush (device.nextOrdinal .flush)), device.called .flush)
      else (.ok (), device.called .flush) := by
  have h := run_count_bind device .flush (pure : Unit → DeviceM Unit)
  rw [bind_pure] at h
  exact h

/-! ## Runs -/

/-- What holds between the device before and after any run. -/
structure Continues (before after : Device) : Prop where
  /-- The capacity stays. -/
  capacity : after.capacity = before.capacity
  /-- The plan stays. -/
  fault : after.fault = before.fault
  /-- Calls are only added. -/
  calls : before.calls <:+ after.calls

/-- A run of nothing. -/
theorem Continues.refl (device : Device) : device.Continues device :=
  ⟨rfl, rfl, List.suffix_rfl⟩

/-- A run after a run. -/
theorem Continues.trans {first second third : Device} (h₁ : first.Continues second)
    (h₂ : second.Continues third) : first.Continues third :=
  ⟨h₂.capacity.trans h₁.capacity, h₂.fault.trans h₁.fault, h₁.calls.trans h₂.calls⟩

/-- Counts only grow over a run. -/
theorem Continues.count_le {before after : Device} (h : before.Continues after)
    (call : DeviceCall) : before.calls.count call ≤ after.calls.count call :=
  h.calls.sublist.count_le call

/-- Whether no fault is planned and there is room for everything. -/
def Steady (device : Device) : Prop := device.fault = none ∧ device.capacity = none

/-- A run on a steady device leaves it steady. -/
theorem Continues.steady {before after : Device} (h : before.Continues after)
    (hs : before.Steady) : after.Steady :=
  ⟨h.fault.trans hs.1, h.capacity.trans hs.2⟩

/-- A steady device serves every call. -/
theorem Steady.not_fails {device : Device} (h : device.Steady) (call : DeviceCall) :
    ¬device.Fails call := by
  intro hf
  rw [Fails, h.1] at hf
  simp at hf

/-- The planned fault struck the call of a kind with a number, in the run between two states. -/
def Struck (before after : Device) (call : DeviceCall) (ordinal : Nat) : Prop :=
  before.fault = some ⟨call, ordinal⟩ ∧ before.calls.count call < ordinal ∧
    ordinal ≤ after.calls.count call

/-- The planned fault strikes no call of the run between two states. -/
def Unhurt (before after : Device) : Prop := ∀ call ordinal, ¬before.Struck after call ordinal

/-- A fault strikes a run exactly if it strikes one of its parts. -/
theorem struck_trans {first second third : Device} (h₁ : first.Continues second)
    (h₂ : second.Continues third) {call : DeviceCall} {ordinal : Nat} :
    first.Struck third call ordinal ↔
      first.Struck second call ordinal ∨ second.Struck third call ordinal := by
  have := h₁.count_le call
  have := h₂.count_le call
  unfold Struck
  rw [h₁.fault]
  constructor
  · rintro ⟨hf, hlow, hhigh⟩
    by_cases hm : ordinal ≤ second.calls.count call
    · exact .inl ⟨hf, hlow, hm⟩
    · exact .inr ⟨hf, by omega, hhigh⟩
  · rintro (⟨hf, hlow, hhigh⟩ | ⟨hf, hlow, hhigh⟩)
    · exact ⟨hf, hlow, by omega⟩
    · exact ⟨hf, by omega, hhigh⟩

/-- Where no fault is planned none strikes. -/
theorem unhurt_of_fault_eq_none {before : Device} (h : before.fault = none) (after : Device) :
    before.Unhurt after := by
  intro call ordinal hs
  rw [hs.1] at h
  simp at h

/-- Nothing is struck in a run of nothing. -/
theorem not_struck_self (device : Device) (call : DeviceCall) (ordinal : Nat) :
    ¬device.Struck device call ordinal := by
  rintro ⟨-, hlow, hhigh⟩
  omega

/-- A single call is struck exactly if it fails. -/
theorem struck_of_calls_eq {before after : Device} {call : DeviceCall}
    (h : after.calls = call :: before.calls) {other : DeviceCall} {ordinal : Nat} :
    before.Struck after other ordinal ↔
      before.Fails call ∧ other = call ∧ ordinal = before.nextOrdinal call := by
  unfold Struck Fails nextOrdinal
  rw [h, List.count_cons]
  constructor
  · rintro ⟨hf, hlow, hhigh⟩
    by_cases he : call = other
    · subst he
      simp only [beq_self_eq_true, if_true] at hhigh
      obtain rfl : ordinal = before.calls.count call + 1 := by omega
      exact ⟨hf, rfl, rfl⟩
    · simp only [beq_iff_eq, he, if_false] at hhigh
      omega
  · rintro ⟨hf, rfl, rfl⟩
    simp only [beq_self_eq_true, if_true]
    exact ⟨hf, by omega, by omega⟩

/-- A run that gives a planned failure exactly if the planned fault struck it. -/
structure Reports {α : Type} (before : Device) (result : Except StorageError α) (after : Device) :
    Prop extends Continues before after where
  /-- The failure of the call that was struck is the result. -/
  planned_iff : ∀ call ordinal,
    result = .error (.planned call ordinal) ↔ before.Struck after call ordinal

/-- A run is unhurt exactly if its result is not a planned failure. -/
theorem Reports.unhurt_iff {α : Type} {before after : Device} {result : Except StorageError α}
    (h : before.Reports result after) :
    before.Unhurt after ↔ ∀ call ordinal, result ≠ .error (.planned call ordinal) := by
  unfold Unhurt
  simp only [Ne, h.planned_iff]

/-- The kind of result that a failed run would have had does not matter. -/
theorem Reports.of_error {α β : Type} {before after : Device} {cause : StorageError}
    (h : before.Reports (.error cause : Except StorageError α) after) :
    before.Reports (.error cause : Except StorageError β) after := by
  refine ⟨h.toContinues, fun call ordinal ↦ ?_⟩
  rw [← h.planned_iff call ordinal]
  simp only [Except.error.injEq]

/-- A run that goes on behind one with a result. -/
theorem Reports.trans {α β : Type} {before middle after : Device} {a : α}
    {result : Except StorageError β} (h₁ : before.Reports (.ok a) middle)
    (h₂ : middle.Reports result after) : before.Reports result after := by
  refine ⟨h₁.toContinues.trans h₂.toContinues, fun call ordinal ↦ ?_⟩
  rw [struck_trans h₁.toContinues h₂.toContinues, h₂.planned_iff, ← h₁.planned_iff]
  simp only [reduceCtorEq, false_or]

/-- An action whose every run reports. -/
def Reporting {α : Type} (action : DeviceM α) : Prop :=
  ∀ device : Device, device.Reports (action.run.run device).1 (action.run.run device).2

private theorem reports_of_call {α : Type} {before after : Device} {call : DeviceCall}
    {served : Except StorageError α} {result : Except StorageError α × Device}
    (hresult : result =
      if before.Fails call then
        (.error (.planned call (before.nextOrdinal call)), before.called call)
      else (served, after))
    (hcapacity : after.capacity = before.capacity) (hfault : after.fault = before.fault)
    (hcalls : after.calls = call :: before.calls)
    (hserved : ∀ call ordinal, served ≠ .error (.planned call ordinal)) :
    before.Reports result.1 result.2 := by
  subst hresult
  by_cases hf : before.Fails call
  · rw [if_pos hf]
    refine ⟨⟨rfl, rfl, List.suffix_cons _ _⟩, fun other ordinal ↦ ?_⟩
    rw [struck_of_calls_eq rfl]
    simp only [Except.error.injEq, StorageError.planned.injEq, hf, true_and]
    exact and_congr eq_comm eq_comm
  · rw [if_neg hf]
    refine ⟨⟨hcapacity, hfault, hcalls ▸ List.suffix_cons _ _⟩, fun other ordinal ↦ ?_⟩
    rw [struck_of_calls_eq hcalls]
    exact iff_of_false (hserved other ordinal) (fun h ↦ hf h.1)

/-- Moving reports. -/
theorem reporting_seek (position : Nat) : Reporting (seek position) :=
  fun device ↦ reports_of_call (run_seek device position) rfl rfl rfl (by simp)

/-- Reading to the end reports. -/
theorem reporting_readToEnd : Reporting readToEnd :=
  fun device ↦ reports_of_call (run_readToEnd device) rfl rfl rfl (by simp)

/-- Writing reports. -/
theorem reporting_write (bytes : List UInt8) : Reporting (write bytes) :=
  fun device ↦ reports_of_call (run_write device bytes) rfl rfl rfl (by simp)

/-- Flushing reports. -/
theorem reporting_flush : Reporting flush :=
  fun device ↦ reports_of_call (run_flush device) rfl rfl rfl (by simp)

/-- Doing nothing reports. -/
theorem reporting_pure {α : Type} (a : α) : Reporting (pure a) := by
  intro device
  refine ⟨.refl device, fun call ordinal ↦ ?_⟩
  change (Except.ok a : Except StorageError α) = _ ↔ _
  exact iff_of_false (by simp) (not_struck_self device call ordinal)

/-- Failing for another reason reports. -/
theorem reporting_throw {α : Type} {cause : StorageError}
    (h : ∀ call ordinal, cause ≠ .planned call ordinal) :
    Reporting (throw cause : DeviceM α) := by
  intro device
  refine ⟨.refl device, fun call ordinal ↦ ?_⟩
  change (Except.error cause : Except StorageError α) = _ ↔ _
  refine iff_of_false ?_ (not_struck_self device call ordinal)
  intro he
  exact h call ordinal (Except.error.inj he)

/-- A sequence of actions that report does so: it stops where its first action failed, and goes on
otherwise. -/
theorem reporting_bind {α β : Type} {first : DeviceM α} {next : α → DeviceM β}
    (hfirst : Reporting first) (hnext : ∀ a, Reporting (next a)) : Reporting (first >>= next) := by
  intro device
  have h := hfirst device
  rw [Task.run_bind]
  generalize first.run.run device = outcome at h
  obtain ⟨cause | a, middle⟩ := outcome
  · exact h.of_error
  · exact h.trans (hnext a middle)

end FlashPatch.Device
