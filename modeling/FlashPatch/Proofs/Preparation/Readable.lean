import FlashPatch.Proofs.Partition.Capacity
import FlashPatch.Proofs.Partition.State
import FlashPatch.Proofs.Preparation.Run

/-!
# Prepared patches are readable

On a device that serves every call a preparation succeeds exactly if its header can be written. What
is on the device then is what the loader expects: its header, agreeing with the report, and exactly
the old contents as the payload, also after the patch was applied.
-/

namespace FlashPatch

/-! ## Devices that serve every call -/

variable {config : Config} {session : Session}

/-- A header that can be written is written in front of the old contents, and the device stands
behind them. -/
theorem prependHeader_of_encode {encoded : EncodedHeader}
    (hfault : session.device.fault = none) (hcapacity : session.device.capacity = none)
    (h : config.encode (UInt64.ofNat session.device.contents.length) = .ok encoded) :
    let run := (prependHeader config).run.run session
    run.1 = .ok (Report.ofHeader encoded (UInt64.ofNat session.device.contents.length)
        config.maxPartitionSize) ∧
      run.2.device.contents = encoded.bytes ++ session.device.contents ∧
      run.2.device.position = (encoded.bytes ++ session.device.contents).length := by
  intro run
  obtain ⟨result, hw, hrun⟩ := rewritten_of_encode h
  have hu := Device.unhurt_of_fault_eq_none hfault run.2.device
  have hall : session.device.taken run.2.device =
      (encoded.bytes ++ session.device.contents).length := by
    rw [hw.taken_eq_limit hu, Device.limit_eq_iff]
    intro capacity hc
    rw [hcapacity] at hc
    simp at hc
  have hok := hw.ok_iff.mpr ⟨hall, hu⟩
  refine ⟨?_, hw.contents_of_ok hok ?_, (hw.ok hok).2⟩
  · rw [hrun, hok]
    rfl
  · rw [List.length_append]
    exact Nat.le_add_left _ _

/-- A header that is refused is the result, and the device was read to its end. -/
theorem prependHeader_of_encode_error {cause : HeaderError}
    (hfault : session.device.fault = none)
    (h : config.encode (UInt64.ofNat session.device.contents.length) = .error cause) :
    let run := (prependHeader config).run.run session
    run.1 = .error (.header cause) ∧ run.2.device.contents = session.device.contents ∧
      run.2.device.position = session.device.contents.length := by
  intro run
  obtain ⟨result, hreread, hreports, hrun⟩ := reread_of_encode_error h
  have hu := Device.unhurt_of_fault_eq_none hfault run.2.device
  cases result with
  | ok payload => exact ⟨hrun, hreread.contents, (hreread.ok payload rfl).2⟩
  | error stopped =>
    obtain ⟨call, ordinal, rfl, -⟩ := hreread.error stopped rfl
    exact absurd rfl (hreports.unhurt_iff.mp hu call ordinal)

/-! ## What the loader finds -/

/-- A header and its report agree on the lengths, and their sum is the length of the patch. -/
theorem agree_of_encode {payload : List UInt8} {encoded : EncodedHeader}
    (hlen : payload.length < 2 ^ 63)
    (h : config.encode (UInt64.ofNat payload.length) = .ok encoded) :
    let report := Report.ofHeader encoded (UInt64.ofNat payload.length) config.maxPartitionSize
    let header : Header := ⟨config.format, encoded.bytes.length, UInt64.ofNat payload.length⟩
    report.format = config.format ∧ report.payloadSize.toNat = payload.length ∧
      report.headerSize.toNat = header.size ∧
      ∃ total, header.endOffset? = some total ∧ report.totalSize? = some total ∧
        total.toNat = (encoded.bytes ++ payload).length := by
  intro report header
  have hsize : encoded.bytes.length < 2 ^ 63 :=
    Format.headerLength_lt (Header.headerLength_of_encode h)
  have hformat : encoded.format = config.format := by
    obtain ⟨length, field, -, -, rfl⟩ := Header.encode_eq_ok_iff.mp h
    rfl
  have hpayload : report.payloadSize.toNat = payload.length :=
    UInt64.toNat_ofNat_of_lt' (Nat.lt_trans hlen (by decide))
  have hheader : report.headerSize.toNat = encoded.bytes.length :=
    Report.headerSize_ofHeader h _ _
  have htotal : (UInt64.ofNat (encoded.bytes ++ payload).length).toNat =
      encoded.bytes.length + payload.length := by
    rw [List.length_append]
    apply UInt64.toNat_ofNat_of_lt'
    have hword : 2 ^ 63 + 2 ^ 63 = UInt64.size := by decide
    omega
  refine ⟨hformat, hpayload, hheader, _, ?_, ?_, htotal.trans List.length_append.symm⟩
  · rw [Header.endOffset?_eq_some_iff, htotal, ← hpayload]
    rfl
  · rw [Report.totalSize?_eq_some_iff, htotal, hheader, hpayload]

/-- Without faults a preparation succeeds exactly if its header can be written. The device then
holds the header and the old contents, and the position is behind them. The loader finds there a
pending patch that the report agrees with, whose payload is exactly the old contents, and which can
be marked as applied without a change behind the magic. A refused header leaves the contents. -/
theorem prepend_readable (config : Config) (session : Session)
    (hlen : session.device.contents.length < 2 ^ 63)
    (hfault : session.device.fault = none) (hcapacity : session.device.capacity = none) :
    let payload := session.device.contents
    let run := (prependHeader config).run.run session
    let contents := run.2.device.contents
    ((∃ report, run.1 = .ok report) ↔
      ∃ encoded, config.encode (UInt64.ofNat payload.length) = .ok encoded) ∧
    (∀ encoded, config.encode (UInt64.ofNat payload.length) = .ok encoded →
      contents = encoded.bytes ++ payload ∧ run.2.device.position = contents.length ∧
      ∃ report header total, run.1 = .ok report ∧
        Header.decode contents config.format config.headerSize = .ok header ∧
        Partition.inspect contents config.format config.headerSize = .ok (.pending header) ∧
        (header.format = report.format ∧ report.format = config.format) ∧
        (header.payloadSize = report.payloadSize ∧ report.payloadSize.toNat = payload.length) ∧
        header.size = report.headerSize.toNat ∧
        header.endOffset? = some total ∧ report.totalSize? = some total ∧
        total.toNat = contents.length ∧
        (contents.take total.toNat).drop header.size = payload ∧
        ∃ marked, Partition.markApplied contents config.format = .ok marked ∧
          (∀ request, Partition.inspect marked config.format request = .ok .applied) ∧
          marked.length = contents.length ∧
          marked.drop config.format.magic.length = contents.drop config.format.magic.length ∧
          marked.drop header.size = payload) ∧
    ∀ cause, config.encode (UInt64.ofNat payload.length) = .error cause →
      run.1 = .error (.header cause) ∧ contents = payload ∧
        run.2.device.position = payload.length := by
  intro payload run contents
  refine ⟨?_, ?_, ?_⟩
  · constructor
    · rintro ⟨report, hok⟩
      cases he : config.encode (UInt64.ofNat payload.length) with
      | ok encoded => exact ⟨encoded, rfl⟩
      | error cause =>
        rw [(prependHeader_of_encode_error hfault he).1] at hok
        simp at hok
    · rintro ⟨encoded, he⟩
      exact ⟨_, (prependHeader_of_encode hfault hcapacity he).1⟩
  · intro encoded he
    obtain ⟨hrun, hcontents, hposition⟩ := prependHeader_of_encode hfault hcapacity he
    obtain ⟨hformat, hpayload, hsize, total, hend, htotal, hlength⟩ := agree_of_encode hlen he
    have hc : contents = encoded.bytes ++ payload := hcontents
    have hd := Header.decode_of_encode payload he rfl
    rw [← hc] at hd hlength
    obtain ⟨marked, hmark, hdrop⟩ := Partition.markApplied_of_decode hd
    have hbehind : contents.drop encoded.bytes.length = payload := by
      rw [hc]
      exact List.drop_left
    refine ⟨hc, hc ▸ hposition, _, _, total, hrun, hd,
      Partition.inspect_eq_pending_iff.mpr hd, ⟨hformat.symm, hformat⟩, ⟨rfl, hpayload⟩,
      hsize.symm, hend, htotal, hlength, ?_, marked, hmark,
      Partition.inspect_of_markApplied hmark, Partition.length_of_markApplied hmark,
      Partition.drop_of_markApplied hmark, hdrop.trans hbehind⟩
    rw [hlength, List.take_length]
    exact hbehind
  · intro cause he
    exact prependHeader_of_encode_error hfault he

/-- A payload of three bytes behind the smallest binary header, on a device that stood at its last
byte. -/
theorem prepend_readable_three :
    let config : Config := ⟨.binary, 5, 100⟩
    let session : Session := ⟨{ contents := [1, 2, 3], position := 2 }, []⟩
    let run := (prependHeader config).run.run session
    session.device.contents.length < 2 ^ 63 ∧ session.device.fault = none ∧
      session.device.capacity = none ∧ (∃ report, run.1 = .ok report) ∧
      run.2.device.contents = [78, 69, 87, 80, 3, 0, 0, 0, 1, 2, 3] ∧
      run.2.device.position = 11 ∧
      ∃ header, Partition.inspect run.2.device.contents .binary 5 = .ok (.pending header) := by
  intro config session run
  have hlen : session.device.contents.length < 2 ^ 63 := by decide
  have he : config.encode 3 = .ok ⟨.binary, [78, 69, 87, 80, 3, 0, 0, 0], true⟩ := rfl
  obtain ⟨hiff, hok, -⟩ := prepend_readable config session hlen rfl rfl
  obtain ⟨hcontents, hposition, report, header, total, hrun, hd, hi, -⟩ := hok _ he
  have hc : run.2.device.contents = [78, 69, 87, 80, 3, 0, 0, 0, 1, 2, 3] := hcontents
  exact ⟨hlen, rfl, rfl, hiff.mpr ⟨_, he⟩, hc, hposition.trans (congrArg List.length hc),
    header, hi⟩

end FlashPatch
