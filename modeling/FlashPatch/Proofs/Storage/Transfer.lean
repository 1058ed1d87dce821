import FlashPatch.Proofs.Storage.Call

/-!
# Transfers

Writing all of some bytes takes as many calls as the device makes of it. However they go, what is on
the device afterwards is the old contents with the first bytes written over them, as many as were
taken. Transfers one after the other are one transfer of all their bytes.
-/

namespace FlashPatch.Device

/-! ## Overwriting -/

private theorem overlay_of_ne_nil {bytes : List UInt8} (h : bytes ≠ []) (contents : List UInt8)
    (position : Nat) :
    overlay contents position bytes =
      contents.take position ++ List.replicate (position - contents.length) 0 ++ bytes
        ++ contents.drop (position + bytes.length) := by
  have : bytes.isEmpty = false := by simpa using h
  rw [overlay, this]
  rfl

private theorem length_front (contents : List UInt8) (position : Nat) :
    (contents.take position ++ List.replicate (position - contents.length) 0).length =
      position := by
  simp only [List.length_append, List.length_take, List.length_replicate]
  omega

/-- Writing from the start replaces as many bytes as are written. -/
theorem overlay_zero (contents bytes : List UInt8) :
    overlay contents 0 bytes = bytes ++ contents.drop bytes.length := by
  by_cases h : bytes = []
  · subst h
    rfl
  · rw [overlay_of_ne_nil h, Nat.zero_sub, Nat.zero_add]
    rfl

/-- Bytes written behind others are written with them. -/
theorem overlay_overlay (contents : List UInt8) (position : Nat) (front back : List UInt8) :
    overlay (overlay contents position front) (position + front.length) back =
      overlay contents position (front ++ back) := by
  by_cases hf : front = []
  · subst hf
    rfl
  · by_cases hb : back = []
    · subst hb
      rw [List.append_nil]
      rfl
    · have hfb : front ++ back ≠ [] := by simp [hf]
      have hlen : (contents.take position ++ List.replicate (position - contents.length) 0
          ++ front).length = position + front.length := by
        rw [List.length_append, length_front]
      have hroom : position + front.length - (overlay contents position front).length = 0 := by
        rw [length_overlay contents position hf]
        omega
      rw [overlay_of_ne_nil hb, hroom, overlay_of_ne_nil hf, overlay_of_ne_nil hfb,
        List.take_left' hlen, ← List.drop_drop, List.drop_left' hlen, List.drop_drop,
        List.length_append]
      simp only [List.replicate_zero, List.append_nil, List.append_assoc, Nat.add_assoc]

/-- What stands at an offset after bytes were written: in front of them the old contents or a zero
of the gap, then the bytes, and behind them the old contents. -/
theorem getElem?_overlay (contents : List UInt8) (position : Nat) {bytes : List UInt8}
    (h : bytes ≠ []) (i : Nat) :
    (overlay contents position bytes)[i]? =
      if i < position then if i < contents.length then contents[i]? else some 0
      else if i < position + bytes.length then bytes[i - position]?
      else contents[i]? := by
  have hfront := length_front contents position
  have htake : (contents.take position).length = min position contents.length := List.length_take
  rw [overlay_of_ne_nil h]
  by_cases hgap : i < position
  · rw [if_pos hgap, List.append_assoc, List.getElem?_append_left (by omega)]
    by_cases hold : i < contents.length
    · rw [if_pos hold, List.getElem?_append_left (by omega), List.getElem?_take_of_lt hgap]
    · rw [if_neg hold, List.getElem?_append_right (by omega)]
      exact List.getElem?_replicate_of_lt (by omega)
  · rw [if_neg hgap, List.append_assoc, List.getElem?_append_right (by omega), hfront]
    by_cases hnew : i < position + bytes.length
    · rw [if_pos hnew, List.getElem?_append_left (by omega)]
    · rw [if_neg hnew, List.getElem?_append_right (by omega), List.getElem?_drop]
      congr 1
      omega

/-- Reading on from where bytes were written gives them and the old contents behind them. -/
theorem drop_overlay (contents : List UInt8) (position : Nat) {bytes : List UInt8}
    (h : bytes ≠ []) :
    (overlay contents position bytes).drop position =
      bytes ++ contents.drop (position + bytes.length) := by
  rw [overlay_of_ne_nil h, List.append_assoc, List.drop_left' (length_front contents position)]

/-! ## Room -/

/-- How many of so many bytes there is room for behind the position. -/
def room (device : Device) (length : Nat) : Nat :=
  match device.capacity with
  | some capacity => min (capacity - device.position) length
  | none => length

/-- The bytes that are taken fill the room. -/
theorem length_accepted (device : Device) (bytes : List UInt8) :
    (device.accepted bytes).length = device.room bytes.length := by
  unfold accepted room
  cases device.capacity with
  | none => rfl
  | some capacity => exact List.length_take

/-- The bytes that are taken are the first ones. -/
theorem accepted_eq_take (device : Device) (bytes : List UInt8) :
    device.accepted bytes = bytes.take (device.room bytes.length) := by
  unfold accepted room
  cases device.capacity with
  | none => exact List.take_length.symm
  | some capacity => exact List.take_eq_take_min

/-- There is never room for more than is asked for. -/
theorem room_le (device : Device) (length : Nat) : device.room length ≤ length := by
  unfold room
  cases device.capacity with
  | none => exact Nat.le_refl length
  | some capacity => exact Nat.min_le_right _ _

/-- What does not fit alone does not fit with more behind it. -/
theorem room_add_of_lt {device : Device} {front : Nat} (back : Nat)
    (h : device.room front < front) : device.room (front + back) = device.room front := by
  unfold room at h ⊢
  cases hc : device.capacity with
  | none => simp [hc] at h
  | some capacity =>
    simp only [hc] at h ⊢
    omega

/-- Behind bytes that fit there is the room that they leave. -/
theorem room_add_of_le {before after : Device} {front : Nat} (back : Nat)
    (h : front ≤ before.room front) (hc : after.capacity = before.capacity)
    (hp : after.position = before.position + front) :
    before.room (front + back) = front + after.room back := by
  unfold room at h ⊢
  rw [hc, hp]
  cases hcap : before.capacity with
  | none => rfl
  | some capacity =>
    simp only [hcap] at h ⊢
    omega

/-! ## Transfers -/

/-- A run that wrote the first bytes, as many as the count says, from the position on. -/
structure Transferred (before : Device) (bytes : List UInt8) (count : Nat)
    (result : Except StorageError Unit) (after : Device) : Prop where
  /-- The bytes that were taken stand over the old contents. -/
  contents : after.contents = overlay before.contents before.position (bytes.take count)
  /-- The position is behind them. -/
  position : after.position = before.position + count
  /-- The capacity stays. -/
  capacity : after.capacity = before.capacity
  /-- There was room for them. -/
  count_le : count ≤ before.room bytes.length
  /-- The run succeeds exactly if all bytes were taken. -/
  ok_iff : result = .ok () ↔ count = bytes.length
  /-- It fails for want of room only when the room is used up, and by a planned fault else. -/
  cause : ∀ cause, result = .error cause →
    (cause = .noRoom ∧ count = before.room bytes.length) ∨
      ∃ ordinal, cause = .planned .write ordinal
  /-- All calls are for writing, and there is one if there is anything to write. -/
  calls : ∃ writes, after.calls = List.replicate writes .write ++ before.calls ∧
    (bytes ≠ [] → 0 < writes)

/-- A transfer behind a complete one. -/
theorem Transferred.append {before middle after : Device} {front back : List UInt8} {count : Nat}
    {result : Except StorageError Unit}
    (hf : before.Transferred front front.length (.ok ()) middle)
    (hb : middle.Transferred back count result after) :
    before.Transferred (front ++ back) (front.length + count) result after := by
  have hroom : before.room (front ++ back).length = front.length + middle.room back.length := by
    rw [List.length_append]
    exact room_add_of_le back.length hf.count_le hf.capacity hf.position
  have hcount := hb.count_le
  constructor
  case contents =>
    rw [hb.contents, hf.contents, hf.position, List.take_length, overlay_overlay,
      List.take_length_add_append]
  case position => rw [hb.position, hf.position, Nat.add_assoc]
  case capacity => exact hb.capacity.trans hf.capacity
  case count_le => omega
  case ok_iff =>
    rw [hb.ok_iff, List.length_append]
    omega
  case cause =>
    intro cause h
    rcases hb.cause cause h with ⟨hc, hfull⟩ | hp
    · exact .inl ⟨hc, by omega⟩
    · exact .inr hp
  case calls =>
    obtain ⟨first, hfirst, hfpos⟩ := hf.calls
    obtain ⟨second, hsecond, hspos⟩ := hb.calls
    refine ⟨second + first, ?_, ?_⟩
    · rw [hsecond, hfirst, ← List.append_assoc, List.replicate_append_replicate]
    · intro hne
      by_cases h : front = []
      · have := hspos (by simpa [h] using hne)
        omega
      · have := hfpos h
        omega

/-- A transfer that failed is one of more bytes that failed. -/
theorem Transferred.cut {before after : Device} {front : List UInt8} {count : Nat}
    {cause : StorageError} (h : before.Transferred front count (.error cause) after)
    (back : List UInt8) : before.Transferred (front ++ back) count (.error cause) after := by
  have hle := h.count_le
  have hroom := before.room_le front.length
  have hne : count ≠ front.length := by
    intro he
    simpa using h.ok_iff.mpr he
  have hlen : (front ++ back).length = front.length + back.length := List.length_append
  have hgrow : before.room front.length ≤ before.room (front ++ back).length := by
    unfold room
    cases before.capacity with
    | none => simp only; omega
    | some capacity => simp only; omega
  constructor
  case contents => rw [h.contents, List.take_append_of_le_length (by omega)]
  case position => exact h.position
  case capacity => exact h.capacity
  case count_le => omega
  case ok_iff =>
    simp only [reduceCtorEq, false_iff]
    omega
  case cause =>
    intro other ho
    rcases h.cause other ho with ⟨hc, hfull⟩ | hp
    · have hlt : before.room front.length < front.length := by omega
      rw [hlen, room_add_of_lt back.length hlt]
      exact .inl ⟨hc, hfull⟩
    · exact .inr hp
  case calls =>
    obtain ⟨writes, hcalls, hpos⟩ := h.calls
    refine ⟨writes, hcalls, fun _ ↦ hpos ?_⟩
    intro hnil
    have hzero := congrArg List.length hnil
    rw [List.length_nil] at hzero
    omega

/-- A transfer that no fault strikes uses all the room that there is for its bytes. -/
theorem Transferred.count_eq_room {before after : Device} {bytes : List UInt8} {count : Nat}
    {result : Except StorageError Unit} (h : before.Transferred bytes count result after)
    (hreports : before.Reports result after) (hu : before.Unhurt after) :
    count = before.room bytes.length := by
  cases hr : result with
  | ok =>
    have hall := h.ok_iff.mp hr
    have hle := h.count_le
    have hroom := before.room_le bytes.length
    omega
  | error cause =>
    rcases h.cause cause hr with ⟨-, hfull⟩ | ⟨ordinal, rfl⟩
    · exact hfull
    · exact absurd hr (hreports.unhurt_iff.mp hu .write ordinal)

private theorem transferred_nil (device : Device) : device.Transferred [] 0 (.ok ()) device := by
  constructor
  case contents => rfl
  case position => rfl
  case capacity => rfl
  case count_le => exact Nat.zero_le _
  case ok_iff => simp
  case cause =>
    intro cause h
    simp at h
  case calls => exact ⟨0, rfl, fun h ↦ absurd rfl h⟩

private theorem transferred_failed (device : Device) {bytes : List UInt8} (h : bytes ≠ []) :
    device.Transferred bytes 0 (.error (.planned .write (device.nextOrdinal .write)))
      (device.called .write) := by
  have hlen := List.length_pos_iff.mpr h
  constructor
  case contents => rfl
  case position => rfl
  case capacity => rfl
  case count_le => exact Nat.zero_le _
  case ok_iff =>
    simp only [reduceCtorEq, false_iff]
    omega
  case cause =>
    intro cause hc
    exact .inr ⟨_, (Except.error.inj hc).symm⟩
  case calls => exact ⟨1, rfl, fun _ ↦ Nat.one_pos⟩

/-- The device after a call that was served. -/
def served (device : Device) (bytes : List UInt8) : Device :=
  { device.called .write with
    contents := overlay device.contents device.position (device.accepted bytes)
    position := device.position + (device.accepted bytes).length }

private theorem transferred_served (device : Device) (bytes : List UInt8) :
    device.Transferred (device.accepted bytes) (device.accepted bytes).length (.ok ())
      (device.served bytes) := by
  constructor
  case contents => rw [List.take_length]; rfl
  case position => rfl
  case capacity => rfl
  case count_le =>
    rw [length_accepted]
    unfold room
    cases device.capacity with
    | none => exact Nat.le_refl _
    | some capacity => simp only; omega
  case ok_iff => simp
  case cause =>
    intro cause h
    simp at h
  case calls => exact ⟨1, rfl, fun _ ↦ Nat.one_pos⟩

private theorem transferred_full {device : Device} {bytes : List UInt8} (h : bytes ≠ [])
    (hroom : device.accepted bytes = []) :
    device.Transferred bytes 0 (.error .noRoom) (device.served bytes) := by
  have hlen := List.length_pos_iff.mpr h
  have hzero := length_accepted device bytes
  rw [hroom, List.length_nil] at hzero
  constructor
  case contents =>
    rw [served, hroom]
    rfl
  case position =>
    rw [served, hroom]
    rfl
  case capacity => rfl
  case count_le => exact Nat.zero_le _
  case ok_iff =>
    simp only [reduceCtorEq, false_iff]
    omega
  case cause =>
    intro cause hc
    exact .inl ⟨(Except.error.inj hc).symm, hzero⟩
  case calls => exact ⟨1, rfl, fun _ ↦ Nat.one_pos⟩

/-- Writing all bytes is one call and then writing all that it left. -/
theorem run_writeAll {bytes : List UInt8} (h : bytes ≠ []) (device : Device) :
    (writeAll bytes).run.run device =
      if device.Fails .write then
        (.error (.planned .write (device.nextOrdinal .write)), device.called .write)
      else if device.accepted bytes = [] then (.error .noRoom, device.served bytes)
      else
        (writeAll (bytes.drop (device.accepted bytes).length)).run.run (device.served bytes) := by
  cases bytes with
  | nil => exact absurd rfl h
  | cons first rest =>
    rw [writeAll, Task.run_bind, run_write]
    by_cases hf : device.Fails .write
    · simp only [if_pos hf]
    · simp only [if_neg hf]
      by_cases ha : device.accepted (first :: rest) = []
      · simp only [ha, List.length_nil, if_true, dif_pos]
        rw [served, ha]
        rfl
      · have hne : (device.accepted (first :: rest)).length ≠ 0 := by simpa using ha
        rw [dif_neg hne, if_neg ha]
        rfl

/-- Writing all bytes is a transfer. -/
theorem transferred_writeAll (bytes : List UInt8) (device : Device) :
    ∃ count, device.Transferred bytes count ((writeAll bytes).run.run device).1
      ((writeAll bytes).run.run device).2 := by
  induction h : bytes.length using Nat.strongRecOn generalizing bytes device with
  | ind length ih =>
    by_cases hne : bytes = []
    · subst hne
      rw [writeAll]
      exact ⟨0, transferred_nil device⟩
    · rw [run_writeAll hne]
      by_cases hf : device.Fails .write
      · rw [if_pos hf]
        exact ⟨0, transferred_failed device hne⟩
      · rw [if_neg hf]
        by_cases ha : device.accepted bytes = []
        · rw [if_pos ha]
          exact ⟨0, transferred_full hne ha⟩
        · rw [if_neg ha]
          -- What the call took and what it left are all the bytes.
          have hsplit : device.accepted bytes ++ bytes.drop (device.accepted bytes).length =
              bytes := by
            rw [length_accepted, accepted_eq_take, List.take_append_drop]
          have hpos := List.length_pos_iff.mpr ha
          have hshort : (bytes.drop (device.accepted bytes).length).length < length := by
            have := List.length_pos_iff.mpr hne
            rw [List.length_drop]
            omega
          obtain ⟨count, hrest⟩ := ih _ hshort _ (device.served bytes) rfl
          have hall := (transferred_served device bytes).append hrest
          rw [hsplit] at hall
          exact ⟨_, hall⟩

/-- Writing all bytes reports. -/
theorem reporting_writeAll (bytes : List UInt8) : Reporting (writeAll bytes) := by
  induction h : bytes.length using Nat.strongRecOn generalizing bytes with
  | ind length ih =>
    cases bytes with
    | nil =>
      rw [writeAll]
      exact reporting_pure ()
    | cons first rest =>
      rw [writeAll]
      apply reporting_bind (reporting_write _)
      intro taken
      split
      · exact reporting_throw (by simp)
      · next hne =>
        refine ih _ ?_ _ rfl
        rw [← h, List.length_drop, List.length_cons]
        omega

end FlashPatch.Device
