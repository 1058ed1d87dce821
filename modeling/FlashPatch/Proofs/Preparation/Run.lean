import FlashPatch.Proofs.Header.Layout
import FlashPatch.Proofs.Session
import FlashPatch.Proofs.Storage.Rewrite

/-!
# Runs of a preparation

A preparation reads everything, encodes a header for it, writes header and payload from the start
and reports. It ends in one of four ways, and the device and the events are said for each.
-/

namespace FlashPatch

open Session

/-- The events of a preparation up to the writes. -/
def eventsOfHeader (header : EncodedHeader) : List Event := [.encoded, .headerBytes header.bytes]

/-- The events of a preparation behind the writes. -/
def eventsOfReport (report : Report) : List Event :=
  .prepared report :: if report.fits then [] else [.tooLarge]

/-- The end of a preparation that wrote a patch. -/
def announce (report : Report) : SessionM Report := do
  emit (.prepared report)
  if !report.fits then emit .tooLarge
  return report

private theorem run_announce (report : Report) (session : Session) :
    (announce report).run.run session =
      (.ok report, { session with events := session.events ++ eventsOfReport report }) := by
  unfold announce eventsOfReport
  rw [run_emit_bind]
  cases report.fits with
  | true => rfl
  | false =>
    show ((.ok report : Except PatchError Report), ({ session with
      events := session.events ++ [.prepared report] ++ [.tooLarge] } : Session)) = _
    rw [List.append_assoc]
    rfl

private theorem prependHeader_eq (config : Config) :
    prependHeader config =
      onDevice Device.reread >>= fun payload ↦
      onHeader (config.encode (UInt64.ofNat payload.length)) >>= fun header ↦
      emit .encoded >>= fun _ ↦
      emit (.headerBytes header.bytes) >>= fun _ ↦
      onDevice (Device.rewrite header.bytes payload) >>= fun _ ↦
      announce (Report.ofHeader header (UInt64.ofNat payload.length) config.maxPartitionSize) := by
  simp only [prependHeader, writePatch, announce, Device.reread, Device.rewrite,
    Device.writeBoth, onDevice_bind, bind_assoc]

/-- A preparation stops where reading fails, the header is refused or writing fails, and has a
report else. -/
theorem run_prependHeader (config : Config) (session : Session) :
    (prependHeader config).run.run session =
      match Device.reread.run.run session.device with
      | (.error cause, device) => (.error (.storage cause), { session with device })
      | (.ok payload, device) =>
        match config.encode (UInt64.ofNat payload.length) with
        | .error cause => (.error (.header cause), { session with device })
        | .ok header =>
          match (Device.rewrite header.bytes payload).run.run device with
          | (.error cause, device) =>
            (.error (.storage cause), ⟨device, session.events ++ eventsOfHeader header⟩)
          | (.ok _, device) =>
            let report :=
              Report.ofHeader header (UInt64.ofNat payload.length) config.maxPartitionSize
            (.ok report,
              ⟨device, session.events ++ eventsOfHeader header ++ eventsOfReport report⟩) := by
  rw [prependHeader_eq, Task.run_bind, run_onDevice]
  obtain ⟨cause | payload, middle⟩ := Device.reread.run.run session.device
  · rfl
  · simp only [Except.mapError]
    rw [Task.run_bind, run_onHeader]
    cases config.encode (UInt64.ofNat payload.length) with
    | error cause => rfl
    | ok header =>
      simp only [Except.mapError, run_emit_bind]
      rw [Task.run_bind, run_onDevice]
      obtain ⟨cause | ⟨⟩, after⟩ := (Device.rewrite header.bytes payload).run.run middle
      · simp only [Except.mapError, eventsOfHeader, List.append_assoc, List.cons_append,
          List.nil_append]
      · simp only [Except.mapError, run_announce, eventsOfHeader, eventsOfReport,
          List.append_assoc, List.cons_append, List.nil_append]

/-- A header is never empty. -/
theorem Config.bytes_ne_nil {config : Config} {payloadSize : UInt64} {encoded : EncodedHeader}
    (h : config.encode payloadSize = .ok encoded) : encoded.bytes ≠ [] := by
  intro hnil
  have hl := Format.magic_length_add_four_le (Header.headerLength_of_encode h)
  rw [hnil, List.length_nil] at hl
  omega

/-- What a task gives that is stopped by storage or else has this result. -/
def stoppedOr {α β : Type} (result : Except StorageError α) (rest : Except PatchError β) :
    Except PatchError β :=
  match result with
  | .ok _ => rest
  | .error cause => .error (.storage cause)

/-- The task succeeds if it is not stopped and what it would give is a success. -/
theorem stoppedOr_eq_ok_iff {α β : Type} {result : Except StorageError α}
    {rest : Except PatchError β} {b : β} :
    stoppedOr result rest = .ok b ↔ (∃ a, result = .ok a) ∧ rest = .ok b := by
  cases result with
  | ok => simp [stoppedOr]
  | error cause => simp [stoppedOr]

/-- A storage error stopped the task, unless it would have given one. -/
theorem stoppedOr_eq_storage_iff {α β : Type} {result : Except StorageError α}
    {rest : Except PatchError β} (h : ∀ cause, rest ≠ .error (.storage cause))
    {cause : StorageError} :
    stoppedOr result rest = .error (.storage cause) ↔ result = .error cause := by
  cases result with
  | ok a => simp [stoppedOr, h cause]
  | error other => simp [stoppedOr]

/-- Any other error is what the task would have given. -/
theorem stoppedOr_eq_header {α β : Type} {result : Except StorageError α}
    {rest : Except PatchError β} {cause : HeaderError}
    (h : stoppedOr result rest = .error (.header cause)) : rest = .error (.header cause) := by
  cases result with
  | ok a => exact h
  | error other => simp [stoppedOr] at h

variable {config : Config} {session : Session}

/-- Where the header is written the device is rewritten, and only that decides on the result. -/
theorem rewritten_of_encode {encoded : EncodedHeader}
    (h : config.encode (UInt64.ofNat session.device.contents.length) = .ok encoded) :
    let run := (prependHeader config).run.run session
    ∃ result,
      session.device.Rewritten (encoded.bytes ++ session.device.contents) result run.2.device ∧
        run.1 = stoppedOr result (.ok (Report.ofHeader encoded
          (UInt64.ofNat session.device.contents.length) config.maxPartitionSize)) := by
  intro run
  have hrun : run = _ := run_prependHeader config session
  rw [hrun]
  have hreread := Device.reread_run session.device
  have hreports := Device.reporting_reread session.device
  generalize Device.reread.run.run session.device = outcome at hreread hreports
  obtain ⟨cause | payload, middle⟩ := outcome
  · obtain ⟨call, ordinal, rfl, hcall⟩ := hreread.error cause rfl
    refine ⟨.error (.planned call ordinal), ?_, rfl⟩
    exact Device.rewritten_of_untouched hreports.of_error hreread.contents hreread.calls hcall _
  · obtain ⟨rfl, -⟩ := hreread.ok payload rfl
    simp only [h]
    have hw := Device.rewritten_rewrite (Config.bytes_ne_nil h) session.device.contents middle
    generalize (Device.rewrite encoded.bytes session.device.contents).run.run middle = outcome
      at hw
    obtain ⟨cause | ⟨⟩, after⟩ := outcome
    · exact ⟨.error cause, hw.after_reread hreports hreread, rfl⟩
    · exact ⟨.ok (), hw.after_reread hreports hreread, rfl⟩

/-- Where the header is refused the device is only read. -/
theorem reread_of_encode_error {cause : HeaderError}
    (h : config.encode (UInt64.ofNat session.device.contents.length) = .error cause) :
    let run := (prependHeader config).run.run session
    ∃ result, session.device.Reread result run.2.device ∧
      session.device.Reports result run.2.device ∧
        run.1 = stoppedOr result (.error (.header cause)) := by
  intro run
  have hrun : run = _ := run_prependHeader config session
  rw [hrun]
  have hreread := Device.reread_run session.device
  have hreports := Device.reporting_reread session.device
  generalize Device.reread.run.run session.device = outcome at hreread hreports
  obtain ⟨stopped | payload, middle⟩ := outcome
  · exact ⟨.error stopped, hreread, hreports, rfl⟩
  · obtain ⟨rfl, -⟩ := hreread.ok payload rfl
    simp only [h]
    exact ⟨.ok session.device.contents, hreread, hreports, rfl⟩

end FlashPatch
