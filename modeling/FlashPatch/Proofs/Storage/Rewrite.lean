import FlashPatch.Proofs.Storage.Transfer

/-!
# Rewriting a device

Contents are read from the start to the end, and then other bytes are written from the start on.
Wherever this stops, a first part of the new bytes stands in place of as many old ones, and
everything behind it is as it was.
-/

namespace FlashPatch.Device

/-! ## Reading everything -/

/-- Reads all contents, wherever the position is. -/
def reread : DeviceM (List UInt8) := do
  seek 0
  readToEnd

/-- Reading everything reports. -/
theorem reporting_reread : Reporting reread :=
  reporting_bind (reporting_seek 0) fun _ ↦ reporting_readToEnd

/-- A run that reads everything, or fails at one of its two calls. -/
structure Reread (before : Device) (result : Except StorageError (List UInt8)) (after : Device) :
    Prop where
  /-- The contents stay. -/
  contents : after.contents = before.contents
  /-- Nothing is written. -/
  calls : after.calls.count .write = before.calls.count .write
  /-- All contents are read, and the position is at their end. -/
  ok : ∀ payload, result = .ok payload →
    payload = before.contents ∧ after.position = before.contents.length
  /-- Only a planned fault stops the run. -/
  error : ∀ cause, result = .error cause →
    ∃ call ordinal, cause = .planned call ordinal ∧ (call = .seek ∨ call = .read)

/-- Reading everything does so. -/
theorem reread_run (device : Device) :
    device.Reread (reread.run.run device).1 (reread.run.run device).2 := by
  rw [reread, Task.run_bind, run_seek]
  by_cases hs : device.Fails .seek
  · rw [if_pos hs]
    refine ⟨rfl, rfl, ?_, ?_⟩
    · intro payload h
      simp at h
    · intro cause h
      exact ⟨.seek, _, (Except.error.inj h).symm, .inl rfl⟩
  · rw [if_neg hs]
    simp only [run_readToEnd]
    by_cases hr : ({ device.called .seek with position := 0 } : Device).Fails .read
    · rw [if_pos hr]
      refine ⟨rfl, rfl, ?_, ?_⟩
      · intro payload h
        simp at h
      · intro cause h
        exact ⟨.read, _, (Except.error.inj h).symm, .inr rfl⟩
    · rw [if_neg hr]
      refine ⟨rfl, rfl, ?_, ?_⟩
      · intro payload h
        exact ⟨(Except.ok.inj h).symm, Nat.zero_max _⟩
      · intro cause h
        simp at h

/-! ## Writing from the start -/

/-- Writes some bytes and others behind them. -/
def writeBoth (front back : List UInt8) : DeviceM Unit := do
  writeAll front
  writeAll back

/-- Writes some bytes and others behind them from the start on, and makes sure that they are
kept. -/
def rewrite (front back : List UInt8) : DeviceM Unit := do
  seek 0
  writeBoth front back
  flush

/-- Writing both reports. -/
theorem reporting_writeBoth (front back : List UInt8) : Reporting (writeBoth front back) :=
  reporting_bind (reporting_writeAll front) fun _ ↦ reporting_writeAll back

/-- Writing from the start reports. -/
theorem reporting_rewrite (front back : List UInt8) : Reporting (rewrite front back) := by
  apply reporting_bind (reporting_seek 0)
  intro _
  exact reporting_bind (reporting_writeBoth front back) fun _ ↦ reporting_flush

/-- The device after a move to the start, as far as it is served. -/
def rewound (device : Device) : Device := { device.called .seek with position := 0 }

/-- Writing both is one transfer. -/
theorem transferred_writeBoth (front back : List UInt8) (device : Device) :
    ∃ count, device.Transferred (front ++ back) count ((writeBoth front back).run.run device).1
      ((writeBoth front back).run.run device).2 := by
  obtain ⟨count, hfront⟩ := transferred_writeAll front device
  rw [writeBoth, Task.run_bind]
  generalize (writeAll front).run.run device = outcome at hfront
  obtain ⟨cause | ⟨⟩, middle⟩ := outcome
  · exact ⟨count, hfront.cut back⟩
  · obtain rfl := hfront.ok_iff.mp rfl
    obtain ⟨rest, hback⟩ := transferred_writeAll back middle
    exact ⟨_, hfront.append hback⟩

private theorem run_rewrite (front back : List UInt8) (device : Device) :
    (rewrite front back).run.run device =
      if device.Fails .seek then
        (.error (.planned .seek (device.nextOrdinal .seek)), device.called .seek)
      else (writeBoth front back >>= fun _ ↦ flush).run.run device.rewound := by
  rw [rewrite, Task.run_bind, run_seek]
  by_cases hf : device.Fails .seek
  · simp only [if_pos hf]
  · simp only [if_neg hf]
    rfl

/-! ## How far it went -/

/-- How many bytes were taken in a run that writes from the start only: the position is behind
them, but it says so only once there was a call for writing. -/
def taken (before after : Device) : Nat :=
  if after.calls.count .write = before.calls.count .write then 0 else after.position

/-- How many of so many bytes there is room for from the start. -/
def limit (device : Device) (length : Nat) : Nat :=
  match device.capacity with
  | some capacity => min capacity length
  | none => length

/-- There is never room for more than is asked for. -/
theorem limit_le (device : Device) (length : Nat) : device.limit length ≤ length := by
  unfold limit
  cases device.capacity with
  | none => exact Nat.le_refl length
  | some capacity => exact Nat.min_le_right _ _

/-- There is room for all bytes exactly if they do not pass the capacity. -/
theorem limit_eq_iff {device : Device} {length : Nat} :
    device.limit length = length ↔
      ∀ capacity, device.capacity = some capacity → length ≤ capacity := by
  unfold limit
  cases device.capacity with
  | none => simp
  | some capacity =>
    simp only [Option.some.injEq, forall_eq']
    omega

/-- A run that wrote some bytes from the start on, as far as it went. -/
structure Rewritten (before : Device) (bytes : List UInt8) (result : Except StorageError Unit)
    (after : Device) : Prop extends Reports before result after where
  /-- The bytes that were taken stand in place of as many old ones. -/
  contents : after.contents =
    bytes.take (before.taken after) ++ before.contents.drop (before.taken after)
  /-- There was room for them. -/
  taken_le : before.taken after ≤ before.limit bytes.length
  /-- A run that succeeds took all bytes, and stands behind them. -/
  ok : result = .ok () → before.taken after = bytes.length ∧ after.position = bytes.length
  /-- It fails for want of room only when the room is used up and bytes are left, and by a planned
  fault else. Before the writes nothing is taken; a write fails only while bytes are left. -/
  error : ∀ cause, result = .error cause →
    (cause = .noRoom ∧ before.taken after = before.limit bytes.length ∧
        before.taken after < bytes.length) ∨
      ∃ call ordinal, cause = .planned call ordinal ∧
        (call = .seek ∨ call = .read → before.taken after = 0) ∧
        (call = .write → before.taken after < bytes.length)

namespace Rewritten

variable {before after : Device} {bytes : List UInt8} {result : Except StorageError Unit}

/-- No more bytes are taken than there are. -/
theorem taken_le_length (h : before.Rewritten bytes result after) :
    before.taken after ≤ bytes.length :=
  Nat.le_trans h.taken_le (before.limit_le bytes.length)

/-- Nothing is taken if the fault struck a move or a read. -/
theorem taken_eq_zero (h : before.Rewritten bytes result after) {call : DeviceCall} {ordinal : Nat}
    (hs : before.Struck after call ordinal) (hcall : call = .seek ∨ call = .read) :
    before.taken after = 0 := by
  have hr := (h.planned_iff call ordinal).mpr hs
  rcases h.error _ hr with ⟨hc, -⟩ | ⟨other, number, hc, hearly, -⟩
  · simp at hc
  · obtain ⟨rfl, -⟩ := StorageError.planned.inj hc
    exact hearly hcall

/-- Unhurt runs fail for want of room only, with the room used up and bytes left. -/
theorem noRoom_of_unhurt (h : before.Rewritten bytes result after) (hu : before.Unhurt after)
    {cause : StorageError} (hr : result = .error cause) :
    cause = .noRoom ∧ before.taken after = before.limit bytes.length ∧
      before.taken after < bytes.length := by
  rcases h.error cause hr with hfull | ⟨call, ordinal, rfl, -⟩
  · exact hfull
  · exact absurd hr (h.unhurt_iff.mp hu call ordinal)

/-- A run succeeds exactly if it took all bytes and no call failed. -/
theorem ok_iff (h : before.Rewritten bytes result after) :
    result = .ok () ↔ before.taken after = bytes.length ∧ before.Unhurt after := by
  constructor
  · intro hr
    refine ⟨(h.ok hr).1, h.unhurt_iff.mpr ?_⟩
    intro call ordinal
    simp [hr]
  · rintro ⟨hall, hu⟩
    cases hr : result with
    | ok => rfl
    | error cause =>
      obtain ⟨-, -, hlt⟩ := h.noRoom_of_unhurt hu hr
      omega

/-- Where at least as many bytes were written as there were, nothing old is left. -/
theorem contents_of_ok (h : before.Rewritten bytes result after) (hr : result = .ok ())
    (hlen : before.contents.length ≤ bytes.length) : after.contents = bytes := by
  have hall := (h.ok hr).1
  rw [h.contents, hall, List.take_length, List.drop_of_length_le hlen, List.append_nil]

/-- Unhurt runs use all the room that there is for the bytes. -/
theorem taken_eq_limit (h : before.Rewritten bytes result after) (hu : before.Unhurt after) :
    before.taken after = before.limit bytes.length := by
  cases hr : result with
  | ok =>
    have hle := h.taken_le
    have hall := (h.ok hr).1
    have hlimit := before.limit_le bytes.length
    omega
  | error cause => exact (h.noRoom_of_unhurt hu hr).2.1

/-- Where all bytes were taken only the flush can have failed. -/
theorem cause_of_full (h : before.Rewritten bytes result after) (hne : bytes ≠ [])
    {cause : StorageError} (hr : result = .error cause) (hall : before.taken after = bytes.length) :
    ∃ ordinal, cause = .planned .flush ordinal := by
  have hlen := List.length_pos_iff.mpr hne
  rcases h.error cause hr with ⟨-, -, hlt⟩ | ⟨call, ordinal, rfl, hearly, hwrite⟩
  · omega
  · cases call with
    | seek =>
      have := hearly (.inl rfl)
      omega
    | read =>
      have := hearly (.inr rfl)
      omega
    | write =>
      have := hwrite rfl
      omega
    | flush => exact ⟨ordinal, rfl⟩

end Rewritten

/-- A run that was stopped before the writes. -/
theorem rewritten_of_untouched {before after : Device} {call : DeviceCall} {ordinal : Nat}
    (hr : before.Reports (.error (.planned call ordinal) : Except StorageError Unit) after)
    (hcontents : after.contents = before.contents)
    (hcalls : after.calls.count .write = before.calls.count .write)
    (hcall : call = .seek ∨ call = .read) (bytes : List UInt8) :
    before.Rewritten bytes (.error (.planned call ordinal)) after := by
  have ht : before.taken after = 0 := if_pos hcalls
  refine ⟨hr, ?_, ?_, ?_, ?_⟩
  · rw [ht, hcontents]
    rfl
  · rw [ht]
    exact Nat.zero_le _
  · intro h
    simp at h
  · intro cause h
    refine .inr ⟨call, ordinal, (Except.error.inj h).symm, fun _ ↦ ht, ?_⟩
    rintro rfl
    simp at hcall

section

variable {device middle after : Device} {bytes : List UInt8} {count : Nat}
  {written result : Except StorageError Unit}

private theorem taken_of_transferred (h : device.rewound.Transferred bytes count written middle)
    (hne : bytes ≠ []) (hp : after.position = middle.position)
    (hc : after.calls.count .write = middle.calls.count .write) : device.taken after = count := by
  obtain ⟨writes, hcalls, hpos⟩ := h.calls
  have hstart : device.rewound.calls.count .write = device.calls.count .write := by
    simp [rewound, called]
  have hwrites := hpos hne
  rw [taken, if_neg, hp, h.position]
  · exact Nat.zero_add count
  · rw [hc, hcalls, List.count_append, List.count_replicate_self, hstart]
    omega

private theorem rewritten_of_transferred
    (h : device.rewound.Transferred bytes count written middle) (hne : bytes ≠ [])
    (hcontents : after.contents = middle.contents) (hp : after.position = middle.position)
    (hc : after.calls.count .write = middle.calls.count .write)
    (hr : device.Reports result after) (hok : result = .ok () → written = .ok ())
    (herror : ∀ cause, result = .error cause →
      written = .error cause ∨ ∃ ordinal, cause = .planned .flush ordinal) :
    device.Rewritten bytes result after := by
  have ht := taken_of_transferred h hne hp hc
  have hle := h.count_le
  have hroom := device.rewound.room_le bytes.length
  have hlimit : device.limit bytes.length = device.rewound.room bytes.length := by
    unfold limit room
    rfl
  refine ⟨hr, ?_, ?_, ?_, ?_⟩
  · rw [ht, hcontents, h.contents]
    change overlay device.contents 0 (bytes.take count) = _
    rw [overlay_zero, List.length_take, Nat.min_eq_left (by omega)]
  · rw [ht, hlimit]
    exact hle
  · intro ho
    have hall := h.ok_iff.mp (hok ho)
    rw [ht, hp, h.position]
    exact ⟨hall, (Nat.zero_add count).trans hall⟩
  · intro cause hcause
    rw [ht, hlimit]
    rcases herror cause hcause with hw | ⟨ordinal, rfl⟩
    · have hlt : count < bytes.length := by
        have hcount : count ≠ bytes.length := by
          intro he
          rw [h.ok_iff.mpr he] at hw
          simp at hw
        omega
      rcases h.cause cause hw with ⟨rfl, hfull⟩ | ⟨ordinal, rfl⟩
      · exact .inl ⟨rfl, hfull, hlt⟩
      · exact .inr ⟨.write, ordinal, rfl, by simp, fun _ ↦ hlt⟩
    · exact .inr ⟨.flush, ordinal, rfl, by simp, by simp⟩

end

/-- Writing from the start goes as far as it can. -/
theorem rewritten_rewrite {front : List UInt8} (h : front ≠ []) (back : List UInt8)
    (device : Device) :
    device.Rewritten (front ++ back) ((rewrite front back).run.run device).1
      ((rewrite front back).run.run device).2 := by
  have hreports := reporting_rewrite front back device
  have hne : front ++ back ≠ [] := by simp [h]
  rw [run_rewrite] at hreports ⊢
  by_cases hs : device.Fails .seek
  · rw [if_pos hs] at hreports ⊢
    exact rewritten_of_untouched hreports rfl (by simp [called]) (.inl rfl) _
  · rw [if_neg hs, Task.run_bind] at hreports ⊢
    obtain ⟨count, ht⟩ := transferred_writeBoth front back device.rewound
    generalize (writeBoth front back).run.run device.rewound = outcome at hreports ht ⊢
    obtain ⟨cause | ⟨⟩, middle⟩ := outcome
    · exact rewritten_of_transferred ht hne rfl rfl rfl hreports (by simp) fun _ ↦ .inl
    · simp only [run_flush] at hreports ⊢
      by_cases hf : middle.Fails .flush
      · rw [if_pos hf] at hreports ⊢
        refine rewritten_of_transferred ht hne rfl rfl (by simp [called]) hreports (by simp) ?_
        intro cause hc
        exact .inr ⟨_, (Except.error.inj hc).symm⟩
      · rw [if_neg hf] at hreports ⊢
        exact rewritten_of_transferred ht hne rfl rfl (by simp [called]) hreports
          (fun _ ↦ rfl) (by simp)

/-- A run behind one that wrote nothing. -/
theorem Rewritten.after_reread {before middle after : Device} {bytes payload : List UInt8}
    {result : Except StorageError Unit} (hreports : before.Reports (.ok payload) middle)
    (hreread : before.Reread (.ok payload) middle) (h : middle.Rewritten bytes result after) :
    before.Rewritten bytes result after := by
  have ht : before.taken after = middle.taken after := by
    unfold taken
    rw [hreread.calls]
  have hl : before.limit bytes.length = middle.limit bytes.length := by
    unfold limit
    rw [hreports.capacity]
  refine ⟨hreports.trans h.toReports, ?_, ?_, ?_, ?_⟩
  · rw [ht, h.contents, hreread.contents]
  · rw [ht, hl]
    exact h.taken_le
  · rw [ht]
    exact h.ok
  · rw [ht, hl]
    exact h.error

end FlashPatch.Device
