import FlashPatch.Proofs.Preparation.Readable
import FlashPatch.Proofs.Bytes.Dump

/-!
# Events of a preparation

What a preparation tells is what happened: the header once it is encoded, the report exactly if the
patch was written and kept, and the warning exactly if such a patch exceeds its partition.
-/

namespace FlashPatch

/-! ## Reading everything -/

namespace Device

/-- Counting a call leaves the next call of another kind as it is. -/
theorem fails_called_of_ne (device : Device) {call other : DeviceCall} (h : call ≠ other) :
    (device.called call).Fails other ↔ device.Fails other := by
  have hcount : (device.called call).nextOrdinal other = device.nextOrdinal other := by
    simp [nextOrdinal, called, h]
  rw [Fails, Fails, hcount]
  rfl

/-- All contents are read exactly if neither the move nor the read fails. -/
theorem exists_reread_eq_ok_iff (device : Device) :
    (∃ payload, (reread.run.run device).1 = .ok payload) ↔
      ¬device.Fails .seek ∧ ¬device.Fails .read := by
  have hread : device.rewound.Fails .read ↔ device.Fails .read :=
    device.fails_called_of_ne (by decide)
  rw [reread, Task.run_bind, run_seek]
  by_cases hs : device.Fails .seek
  · simp [hs]
  · rw [if_neg hs, ← hread]
    change (∃ payload, (readToEnd.run.run device.rewound).1 = .ok payload) ↔ _
    rw [run_readToEnd]
    by_cases hr : device.rewound.Fails .read
    · simp [hr]
    · simp [hr, hs]

end Device

/-! ## Events -/

section

variable {config : Config} {session : Session} {header : EncodedHeader}

/-- A preparation that does not get to a header fails and tells nothing. -/
theorem events_of_stopped
    (h : session.device.Fails .seek ∨ session.device.Fails .read ∨
      ∃ cause, config.encode (UInt64.ofNat session.device.contents.length) = .error cause) :
    let run := (prependHeader config).run.run session
    (∃ cause, run.1 = .error cause) ∧ run.2.events = session.events := by
  intro run
  have hrun : run = _ := run_prependHeader config session
  have hread := session.device.exists_reread_eq_ok_iff
  have hreread := Device.reread_run session.device
  rw [hrun]
  generalize Device.reread.run.run session.device = outcome at hread hreread
  obtain ⟨cause | payload, device⟩ := outcome
  · exact ⟨⟨_, rfl⟩, rfl⟩
  · obtain ⟨hseek, hserved⟩ := hread.mp ⟨payload, rfl⟩
    obtain ⟨cause, he⟩ := (h.resolve_left hseek).resolve_left hserved
    obtain ⟨rfl, -⟩ := hreread.ok payload rfl
    simp only [he]
    exact ⟨⟨_, rfl⟩, trivial⟩

/-- A preparation that gets to a header tells of it, and of the report exactly if it succeeds. -/
theorem events_of_encode (hseek : ¬session.device.Fails .seek)
    (hread : ¬session.device.Fails .read)
    (he : config.encode (UInt64.ofNat session.device.contents.length) = .ok header) :
    let run := (prependHeader config).run.run session
    let report := Report.ofHeader header (UInt64.ofNat session.device.contents.length)
      config.maxPartitionSize
    (∃ cause, run.1 = .error cause ∧ run.2.events = session.events ++ eventsOfHeader header) ∨
      run.1 = .ok report ∧
        run.2.events = session.events ++ (eventsOfHeader header ++ eventsOfReport report) := by
  intro run report
  have hrun : run = _ := run_prependHeader config session
  obtain ⟨payload, hok⟩ := session.device.exists_reread_eq_ok_iff.mpr ⟨hseek, hread⟩
  have hreread := Device.reread_run session.device
  rw [hrun]
  generalize Device.reread.run.run session.device = outcome at hok hreread
  obtain ⟨result, device⟩ := outcome
  obtain rfl : result = .ok payload := hok
  obtain ⟨rfl, -⟩ := hreread.ok payload rfl
  simp only [he]
  generalize (Device.rewrite header.bytes session.device.contents).run.run device = outcome
  obtain ⟨cause | ⟨⟩, after⟩ := outcome
  · exact .inl ⟨_, rfl, rfl⟩
  · exact .inr ⟨rfl, List.append_assoc _ _ _⟩

/-! ## What a log shows -/

/-- What a log shows of an event: its level and its text. -/
def Event.shown (event : Event) : EventLevel × String := (event.level, event.message)

/-- The report on a written header gives both lengths in one line. -/
theorem Report.line_ofHeader {payloadSize : UInt64} (he : config.encode payloadSize = .ok header) :
    (ofHeader header payloadSize config.maxPartitionSize).line =
      "Patch size: " ++ Numeral.hex payloadSize.toNat ++ " + " ++ Numeral.hex header.bytes.length
        ++ " (header)" := by
  rw [line, headerSize_ofHeader he]
  rfl

/-- The report on a written header says whether both lengths together are more than the capacity. -/
theorem Report.fits_ofHeader_iff {payloadSize : UInt64}
    (he : config.encode payloadSize = .ok header) :
    (ofHeader header payloadSize config.maxPartitionSize).fits = true ↔
      ¬config.maxPartitionSize.toNat < payloadSize.toNat + header.bytes.length := by
  change header.fits = true ↔ _
  rw [Partition.fits_of_encode he, Partition.fits_iff]
  omega

/-- The events behind the writes are the line of the report, and the warning if both lengths
together are more than the capacity. -/
theorem shown_eventsOfReport {payloadSize : UInt64} (he : config.encode payloadSize = .ok header) :
    let report := Report.ofHeader header payloadSize config.maxPartitionSize
    (eventsOfReport report).map Event.shown = (.info, report.line) ::
      if config.maxPartitionSize.toNat < payloadSize.toNat + header.bytes.length then
        [(.warn, "patch too large for patch partition")]
      else [] := by
  intro report
  have hfits := Report.fits_ofHeader_iff he
  unfold eventsOfReport
  by_cases h : report.fits = true
  · rw [if_pos h, if_neg (hfits.mp h)]
    rfl
  · rw [if_neg h, if_pos (not_not.mp (mt hfits.mpr h))]
    rfl

private theorem exists_warn_iff (header : EncodedHeader) (report : Report) :
    (∃ text, (EventLevel.warn, text) ∈
      (eventsOfHeader header ++ eventsOfReport report).map Event.shown) ↔ ¬report.fits = true := by
  unfold eventsOfReport
  by_cases h : report.fits = true
  · simp [h, eventsOfHeader, Event.shown, Event.level]
  · simp [h, eventsOfHeader, Event.shown, Event.level]

end

/-- What a preparation tells. Nothing, if the device fails to move or to be read, or the header is
refused. Otherwise first that a header was encoded, and its bytes as a dump; then, exactly if the
preparation succeeds, the line of its report with both lengths; and then, exactly if these are
together more than the capacity, the warning. So no preparation that fails gives a size or a
warning, and none that succeeds beyond the capacity misses the warning. -/
theorem prepend_events (config : Config) (session : Session)
    (hlen : session.device.contents.length < UInt64.size) :
    let payload := session.device.contents
    let encoding := config.encode (UInt64.ofNat payload.length)
    let run := (prependHeader config).run.run session
    ∃ emitted, run.2.events = session.events ++ emitted ∧
      let shown := emitted.map Event.shown
      (session.device.Fails .seek ∨ session.device.Fails .read ∨
        (∃ cause, encoding = .error cause) → shown = []) ∧
      (∀ header, ¬session.device.Fails .seek → ¬session.device.Fails .read →
        encoding = .ok header →
        let begun := [(EventLevel.debug, "encoded patch header"),
          (EventLevel.trace, "patch header:\n" ++ Dump.text header.bytes)]
        let line := "Patch size: " ++ Numeral.hex payload.length ++ " + "
          ++ Numeral.hex header.bytes.length ++ " (header)"
        config.format.headerLength config.headerSize = .ok header.bytes.length ∧
        (∀ cause, run.1 = .error cause → shown = begun) ∧
        ∀ report, run.1 = .ok report → report.line = line ∧
          shown = begun ++ (.info, line) ::
            if config.maxPartitionSize.toNat < payload.length + header.bytes.length then
              [(.warn, "patch too large for patch partition")]
            else []) ∧
      ((∃ text, (EventLevel.info, text) ∈ shown) ↔ ∃ report, run.1 = .ok report) ∧
      ((∃ text, (EventLevel.warn, text) ∈ shown) ↔ ∃ report header, run.1 = .ok report ∧
        encoding = .ok header ∧
          config.maxPartitionSize.toNat < payload.length + header.bytes.length) := by
  intro payload encoding run
  have hsize : (UInt64.ofNat payload.length).toNat = payload.length :=
    UInt64.toNat_ofNat_of_lt' hlen
  by_cases hstop : session.device.Fails .seek ∨ session.device.Fails .read ∨
      ∃ cause, encoding = .error cause
  case pos =>
    obtain ⟨⟨cause, hrun⟩, hevents⟩ := events_of_stopped hstop
    have hrun : run.1 = .error cause := hrun
    refine ⟨[], by simpa using hevents, fun _ ↦ rfl, ?_, ?_, ?_⟩
    · intro header hseek hread he
      exact absurd ((hstop.resolve_left hseek).resolve_left hread) (by simp [he])
    · simp [hrun]
    · simp [hrun]
  case neg =>
    obtain ⟨hseek, hstop⟩ := not_or.mp hstop
    obtain ⟨hread, hencoded⟩ := not_or.mp hstop
    obtain ⟨header, he⟩ : ∃ header, encoding = .ok header := by
      cases hresult : encoding with
      | error cause => exact absurd ⟨cause, hresult⟩ hencoded
      | ok header => exact ⟨header, rfl⟩
    have hline := Report.line_ofHeader he
    have hreport := shown_eventsOfReport he
    have hfits := Report.fits_ofHeader_iff he
    rw [hsize] at hline hfits
    simp only [hline, hsize] at hreport
    rcases events_of_encode hseek hread he with ⟨cause, hrun, hevents⟩ | ⟨hrun, hevents⟩
    case inl =>
      have hrun : run.1 = .error cause := hrun
      refine ⟨_, hevents, ?_, ?_, ?_, ?_⟩
      · simp [hseek, hread, he]
      · intro other _ _ hother
        obtain rfl := Except.ok.inj (he.symm.trans hother)
        exact ⟨Header.headerLength_of_encode he, fun _ _ ↦ rfl, by simp [hrun]⟩
      · simp [hrun, eventsOfHeader, Event.shown, Event.level]
      · simp [hrun, eventsOfHeader, Event.shown, Event.level]
    case inr =>
      have hrun : run.1 = .ok _ := hrun
      refine ⟨_, hevents, ?_, ?_, ?_, ?_⟩
      · simp [hseek, hread, he]
      · intro other _ _ hother
        obtain rfl := Except.ok.inj (he.symm.trans hother)
        refine ⟨Header.headerLength_of_encode he, by simp [hrun], fun report hok ↦ ?_⟩
        obtain rfl := Except.ok.inj (hrun.symm.trans hok)
        refine ⟨hline, ?_⟩
        rw [List.map_append, hreport]
        rfl
      · rw [List.map_append, hreport]
        exact iff_of_true ⟨_, List.mem_append_right _ List.mem_cons_self⟩ ⟨_, hrun⟩
      · refine (exists_warn_iff _ _).trans ((not_congr hfits).trans (not_not.trans ?_))
        constructor
        · intro hmore
          exact ⟨_, header, hrun, he, hmore⟩
        · rintro ⟨report, other, -, hother, hmore⟩
          obtain rfl := Except.ok.inj (he.symm.trans hother)
          exact hmore

/-- Three bytes behind a header of eight exceed a capacity of ten, with a warning. Where the read is
to fail nothing is told. -/
theorem prepend_events_too_large :
    let config : Config := ⟨.binary, 8, 10⟩
    let session : Session := ⟨{ contents := [1, 2, 3] }, []⟩
    let failing : Session := ⟨{ contents := [1, 2, 3], fault := some ⟨.read, 1⟩ }, []⟩
    let events (session : Session) := ((prependHeader config).run.run session).2.events
    session.device.contents.length < UInt64.size ∧
      (events session).map Event.shown = [(.debug, "encoded patch header"),
        (.trace, "patch header:\n0000: 4e 45 57 50 03 00 00 00"),
        (.info, "Patch size: 0x3 + 0x8 (header)"), (.warn, "patch too large for patch partition")] ∧
      events failing = [] := by
  intro config session failing events
  have hlen : session.device.contents.length < UInt64.size := by decide
  have he : config.encode 3 = .ok ⟨.binary, [78, 69, 87, 80, 3, 0, 0, 0], false⟩ := rfl
  have hrun : ((prependHeader config).run.run session).1 = .ok _ :=
    (prependHeader_of_encode rfl rfl he).1
  obtain ⟨emitted, hevents, -, htold, -⟩ := prepend_events config session hlen
  obtain ⟨-, -, hok⟩ := htold _ (by decide) (by decide) he
  obtain ⟨none, hnone, hstopped, -⟩ := prepend_events config failing hlen
  have hempty : none = [] := List.map_eq_nil_iff.mp (hstopped (.inr (.inl (by decide))))
  refine ⟨hlen, ?_, hnone.trans hempty⟩
  have hall : events session = emitted := hevents
  rw [hall, (hok _ hrun).2]
  have hdump : Dump.text [78, 69, 87, 80, 3, 0, 0, 0] = "0000: 4e 45 57 50 03 00 00 00" := by
    rw [Dump.text, Dump.lines_eq_map_range]
    rfl
  rw [hdump]
  decide

end FlashPatch
