import FlashPatch.Proofs.Preparation.Run

/-!
# Preparations that fail

Storage may fail at any call of a preparation, or take no more bytes. Whatever happens, a first part
of the patch stands in place of as many old bytes, and its length tells how far the preparation
came.
-/

namespace FlashPatch

/-- A preparation whose header is refused leaves the contents. Every other one leaves the patch as
far as the device took it, over the old contents: nothing before the writes, and never more than
there is room for. It succeeds exactly if all was taken and no call failed. The planned failure is
the result exactly if it struck; where it did not, all room was used. -/
theorem prepend_of_faulty_device (config : Config) (session : Session) :
    let run := (prependHeader config).run.run session
    let before := session.device
    let after := run.2.device
    let taken := before.taken after
    (∀ cause, run.1 = .error (.header cause) → after.contents = before.contents) ∧
    (∀ call ordinal, run.1 = .error (.storage (.planned call ordinal)) ↔
      before.Struck after call ordinal) ∧
    (∀ cause, config.encode (UInt64.ofNat before.contents.length) = .error cause →
      after.contents = before.contents ∧ taken = 0 ∧ ¬∃ report, run.1 = .ok report) ∧
    ∀ encoded, config.encode (UInt64.ofNat before.contents.length) = .ok encoded →
      let patch := encoded.bytes ++ before.contents
      after.contents = patch.take taken ++ before.contents.drop taken ∧
      taken ≤ patch.length ∧
      (∀ capacity, before.capacity = some capacity → taken ≤ capacity) ∧
      (∀ call ordinal, before.Struck after call ordinal → call = .seek ∨ call = .read →
        taken = 0) ∧
      ((∃ report, run.1 = .ok report) ↔ taken = patch.length ∧ before.Unhurt after) ∧
      ((∃ report, run.1 = .ok report) → after.contents = patch) ∧
      (∀ cause, run.1 = .error (.storage cause) → taken = patch.length →
        ∃ ordinal, cause = .planned .flush ordinal) ∧
      (before.Unhurt after →
        taken = before.limit patch.length ∧
        ((∃ report, run.1 = .ok report) ↔
          ∀ capacity, before.capacity = some capacity → patch.length ≤ capacity) ∧
        ((¬∃ report, run.1 = .ok report) → run.1 = .error (.storage .noRoom))) := by
  intro run before after taken
  cases he : config.encode (UInt64.ofNat before.contents.length) with
  | error cause =>
    obtain ⟨result, hreread, hreports, hrun⟩ := reread_of_encode_error he
    refine ⟨fun _ _ ↦ hreread.contents, ?_, ?_, fun _ h ↦ (nomatch h)⟩
    · intro call ordinal
      rw [← hreports.planned_iff, hrun]
      exact stoppedOr_eq_storage_iff (by simp)
    · intro _ _
      refine ⟨hreread.contents, if_pos hreread.calls, ?_⟩
      rintro ⟨report, hok⟩
      have hboth : stoppedOr result (.error (.header cause)) = .ok report := hrun.symm.trans hok
      simpa using (stoppedOr_eq_ok_iff.mp hboth).2
  | ok encoded =>
    obtain ⟨result, hw, hrun⟩ := rewritten_of_encode he
    have hstorage (cause : StorageError) : run.1 = .error (.storage cause) ↔
        result = .error cause := by
      rw [hrun]
      exact stoppedOr_eq_storage_iff (by simp)
    have hok : (∃ report, run.1 = .ok report) ↔ result = .ok () := by
      rw [hrun]
      simp only [stoppedOr_eq_ok_iff, exists_and_left, Except.ok.injEq, exists_eq', and_true]
      exact ⟨fun ⟨⟨⟩, h⟩ ↦ h, fun h ↦ ⟨(), h⟩⟩
    refine ⟨?_, ?_, fun _ h ↦ (nomatch h), ?_⟩
    · intro cause h
      rw [hrun] at h
      simpa using stoppedOr_eq_header h
    · intro call ordinal
      rw [hstorage, hw.planned_iff]
    · rintro _ ⟨⟩
      intro patch
      refine ⟨hw.contents, hw.taken_le_length, ?_, ?_, ?_, ?_, ?_, ?_⟩
      · intro capacity hc
        have hle := hw.taken_le
        rw [Device.limit, hc] at hle
        exact Nat.le_trans hle (Nat.min_le_left _ _)
      · intro call ordinal hs
        exact hw.taken_eq_zero hs
      · rw [hok]
        exact hw.ok_iff
      · intro h
        have hlong : before.contents.length ≤ patch.length := by
          rw [List.length_append]
          exact Nat.le_add_left _ _
        exact hw.contents_of_ok (hok.mp h) hlong
      · intro cause hr
        exact hw.cause_of_full (by simp [Config.bytes_ne_nil he]) ((hstorage cause).mp hr)
      · intro hu
        refine ⟨hw.taken_eq_limit hu, ?_, ?_⟩
        · rw [hok, hw.ok_iff, hw.taken_eq_limit hu, Device.limit_eq_iff]
          exact and_iff_left hu
        · intro hn
          cases hr : result with
          | ok => exact absurd (hok.mpr hr) hn
          | error cause =>
            obtain ⟨rfl, -⟩ := hw.noRoom_of_unhurt hu hr
            exact (hstorage _).mpr hr

end FlashPatch
