import FlashPatch.Proofs.Session
import FlashPatch.Proofs.Storage.Rewrite

/-!
# Writing a patch where the device stands

A header and the payload behind it go to the position of the device, over what is there. A writing
that stops early leaves a first part of them. On a device that takes everything they stand at the
position, nothing beside them has changed, and the header is read back from in front of the payload.
-/

namespace FlashPatch

open Session

/-- Writing a patch is one action on the device, which writes both parts. -/
theorem run_writePatch (header : EncodedHeader) (payload : List UInt8) (session : Session) :
    (writePatch header payload).run.run session =
      (((Device.writeBoth header.bytes payload).run.run session.device).1.mapError .storage,
        { session with
          device := ((Device.writeBoth header.bytes payload).run.run session.device).2 }) := by
  have hone : writePatch header payload = onDevice (Device.writeBoth header.bytes payload) :=
    (onDevice_bind _ _).symm
  rw [hone, run_onDevice]

/-- Some of the bytes of the patch are transferred, and the writing succeeds exactly if all are. -/
theorem transferred_writePatch (header : EncodedHeader) (payload : List UInt8)
    (session : Session) :
    let run := (writePatch header payload).run.run session
    let patch := header.bytes ++ payload
    ∃ count result, session.device.Transferred patch count result run.2.device ∧
      session.device.Reports result run.2.device ∧ run.1 = result.mapError .storage ∧
      (run.1 = .ok () ↔ count = patch.length) := by
  intro run patch
  obtain ⟨count, ht⟩ := Device.transferred_writeBoth header.bytes payload session.device
  have hreports := Device.reporting_writeBoth header.bytes payload session.device
  have hrun : run = _ := run_writePatch header payload session
  rw [hrun]
  refine ⟨count, _, ht, hreports, rfl, ?_⟩
  rw [← ht.ok_iff]
  cases ((Device.writeBoth header.bytes payload).run.run session.device).1 with
  | error cause => simp [Except.mapError]
  | ok a => simp [Except.mapError]

/-- A header that was encoded is not empty, with any payload behind it. -/
theorem append_ne_nil_of_encode {format : Format} {payloadSize : UInt64} {requested : Int64}
    {capacity : UInt64} {encoded : EncodedHeader}
    (h : Header.encode format payloadSize requested capacity = .ok encoded)
    (payload : List UInt8) : encoded.bytes ++ payload ≠ [] := by
  intro hnil
  have hfour := Format.magic_length_add_four_le (Header.headerLength_of_encode h)
  rw [(List.append_eq_nil_iff.mp hnil).1, List.length_nil] at hfour
  omega

/-! ## Devices that take everything -/

section Steady

variable {format : Format} {payloadSize : UInt64} {requested : Int64} {capacity : UInt64}
  {encoded : EncodedHeader} {session : Session}

/-- A steady device takes the whole patch, and stands behind it. -/
theorem writePatch_of_steady (header : EncodedHeader) (payload : List UInt8)
    (hs : session.device.Steady) :
    let run := (writePatch header payload).run.run session
    let patch := header.bytes ++ payload
    run.1 = .ok () ∧ run.2.device.Steady ∧
      run.2.device.position = session.device.position + patch.length ∧
      run.2.device.contents =
        Device.overlay session.device.contents session.device.position patch := by
  intro run patch
  obtain ⟨count, result, ht, hreports, -, hok⟩ := transferred_writePatch header payload session
  have hall : count = patch.length := by
    rw [ht.count_eq_room hreports (Device.unhurt_of_fault_eq_none hs.1 _), Device.room, hs.2]
  refine ⟨hok.mpr hall, hreports.toContinues.steady hs, ?_, ?_⟩
  · rw [ht.position, hall]
  · rw [ht.contents, hall, List.take_length]

/-- A header that was written with its payload is read back from the position at which it was
written, and what is left to be read begins with the payload. -/
theorem readHeader_of_writePatch (payload : List UInt8) (hs : session.device.Steady)
    (h : Header.encode format payloadSize requested capacity = .ok encoded) :
    let start := session.device.position
    let written := ((writePatch encoded payload).run.run session).2
    let read := (onDevice (Device.seek start) >>= fun _ ↦
      readHeader format requested).run.run written
    read.1 = .ok { format, size := encoded.bytes.length, payloadSize } ∧
      read.2.device.contents = written.device.contents ∧
      read.2.device.position = start + encoded.bytes.length ∧
      read.2.device.unread =
        payload ++ session.device.contents.drop (start + (encoded.bytes ++ payload).length) := by
  intro start written read
  obtain ⟨-, hsteady, -, hcontents⟩ := writePatch_of_steady encoded payload hs
  let moved : Session :=
    { written with device := { written.device.called .seek with position := start } }
  have hl := Header.headerLength_of_encode h
  have hpatch := append_ne_nil_of_encode h payload
  have hunread : moved.device.unread = encoded.bytes ++
      (payload ++ session.device.contents.drop (start + (encoded.bytes ++ payload).length)) := by
    change written.device.contents.drop start = _
    rw [hcontents, Device.drop_overlay _ _ hpatch, List.append_assoc]
  have hlong : encoded.bytes.length ≤ moved.device.unread.length := by
    rw [hunread, List.length_append]
    exact Nat.le_add_right _ _
  have hseek : (onDevice (Device.seek start)).run.run written = (.ok (), moved) := by
    rw [run_onDevice, Device.run_seek, if_neg (hsteady.not_fails .seek)]
    rfl
  have hread : read = ((Header.decode moved.device.unread format requested).mapError .header,
      { moved with device :=
        { moved.device.called .read with position := start + encoded.bytes.length } }) := by
    have hstill : moved.device.Steady := hsteady
    have hf := hstill.not_fails .read
    change (onDevice (Device.seek start) >>= fun _ ↦ _).run.run written = _
    rw [Task.run_bind_ok _ hseek, run_readHeader_of_length hl hf, if_pos hlong]
  rw [hread, hunread, Header.decode_of_encode _ h rfl]
  refine ⟨rfl, rfl, rfl, ?_⟩
  change written.device.contents.drop (start + encoded.bytes.length) = _
  rw [← List.drop_drop]
  change moved.device.unread.drop encoded.bytes.length = _
  rw [hunread, List.drop_left]

end Steady

/-! ## What is written, and where -/

/-- A stream that was empty holds the bytes of the patch that were transferred. -/
theorem contents_of_writePatch (header : EncodedHeader) (payload : List UInt8) {session : Session}
    (hempty : session.device.contents = []) (hstart : session.device.position = 0) :
    let run := (writePatch header payload).run.run session
    let patch := header.bytes ++ payload
    ∃ count ≤ patch.length, run.2.device.contents = patch.take count ∧
      (run.1 = .ok () ↔ count = patch.length) ∧
      (session.device.fault = none → count = session.device.room patch.length) := by
  intro run patch
  obtain ⟨count, result, ht, hreports, -, hok⟩ := transferred_writePatch header payload session
  refine ⟨count, ht.count_le.trans (Device.room_le _ _), ?_, hok, ?_⟩
  · rw [ht.contents, hempty, hstart, Device.overlay_zero, List.drop_nil, List.append_nil]
  · intro hfault
    exact ht.count_eq_room hreports (Device.unhurt_of_fault_eq_none hfault _)

/-- A writing of a header and its payload puts a first part of them on an empty stream: all of
them exactly if it succeeds, and as many as there is room for if no call was to fail. On a device
without a limit and a fault they stand where the device stood, whatever was there and however far
behind the end that is: the gap is filled with zeros, every other byte is kept, and going back there
the header is read as it was written, with the payload to be read next. -/
theorem writePatch_exact (payload : List UInt8) (session : Session) :
    (∀ header : EncodedHeader,
      session.device.contents = [] → session.device.position = 0 →
      let run := (writePatch header payload).run.run session
      let patch := header.bytes ++ payload
      let written := run.2.device.contents
      written <+: patch ∧ (run.1 = .ok () ↔ written = patch) ∧
        (session.device.fault = none →
          (session.device.capacity = none → written.length = patch.length) ∧
          ∀ capacity, session.device.capacity = some capacity →
            written.length = min capacity patch.length)) ∧
    (∀ {format : Format} {payloadSize : UInt64} {requested : Int64} {capacity : UInt64}
      {header : EncodedHeader}, Header.encode format payloadSize requested capacity = .ok header →
      session.device.capacity = none → session.device.fault = none →
      let run := (writePatch header payload).run.run session
      let patch := header.bytes ++ payload
      let start := session.device.position
      let old := session.device.contents
      let new := run.2.device.contents
      let read := (onDevice (Device.seek start) >>= fun _ ↦
        readHeader format requested).run.run run.2
      (run.1 = .ok () ∧ run.2.device.position = start + patch.length) ∧
        (new.length = max old.length (start + patch.length) ∧
          (∀ i < patch.length, new[start + i]? = patch[i]?) ∧
          (∀ i, old.length ≤ i → i < start → new[i]? = some 0) ∧
          ∀ i < old.length, i < start ∨ start + patch.length ≤ i → new[i]? = old[i]?) ∧
        read.1 = .ok { format, size := header.bytes.length, payloadSize } ∧
        read.2.device.contents = new ∧
        read.2.device.position = start + header.bytes.length ∧
        read.2.device.unread = payload ++ old.drop (start + patch.length)) := by
  constructor
  case left =>
    intro header hempty hstart run patch written
    obtain ⟨count, hle, htake, hok, hroom⟩ := contents_of_writePatch header payload hempty hstart
    have hwritten : written = patch.take count := htake
    have hlen : written.length = count := by
      rw [hwritten, List.length_take, Nat.min_eq_left hle]
    have hfirst : written <+: patch := hwritten ▸ List.take_prefix count patch
    refine ⟨hfirst, ?_, ?_⟩
    · refine hok.trans ?_
      rw [← hlen]
      exact ⟨hfirst.eq_of_length, congrArg List.length⟩
    · intro hfault
      rw [hlen, hroom hfault, Device.room]
      constructor
      · intro hc
        rw [hc]
      · intro capacity hc
        rw [hc, hstart]
        rfl
  case right =>
    intro format payloadSize requested limit header h hcapacity hfault run patch start old new read
    have hs : session.device.Steady := ⟨hfault, hcapacity⟩
    obtain ⟨hok, -, hposition, hcontents⟩ := writePatch_of_steady header payload hs
    have hnew : new = Device.overlay old start patch := hcontents
    have hne : patch ≠ [] := append_ne_nil_of_encode h payload
    refine ⟨⟨hok, hposition⟩, ⟨?whole, ?patch, ?gap, ?kept⟩, readHeader_of_writePatch payload hs h⟩
    case whole => rw [hnew, Device.length_overlay _ _ hne]
    case patch =>
      intro i hi
      rw [hnew, Device.getElem?_overlay _ _ hne, if_neg (by omega), if_pos (by omega),
        Nat.add_sub_cancel_left]
    case gap =>
      intro i hbehind hi
      rw [hnew, Device.getElem?_overlay _ _ hne, if_pos hi, if_neg (by omega)]
    case kept =>
      intro i hold hbeside
      rw [hnew, Device.getElem?_overlay _ _ hne]
      rcases hbeside with hfront | hback
      · rw [if_pos hfront, if_pos hold]
      · rw [if_neg (by omega), if_neg (by omega)]

/-- A capacity of thirteen cuts a patch of fifteen bytes inside its payload. Three bytes behind the
end of two others the same patch stands behind a gap of zeros, and is read there. -/
theorem writePatch_exact_cut_and_gap :
    let magic := "NEWP".toList.map Char.toUInt8
    let header : EncodedHeader := ⟨.binary, magic ++ [3, 0, 0, 0, 0, 0, 0, 0], true⟩
    let patch := header.bytes ++ [7, 8, 9]
    let small : Session := ⟨{ contents := [], capacity := some 13 }, []⟩
    let large : Session := ⟨{ contents := [1, 2], position := 5 }, []⟩
    let cut := (writePatch header [7, 8, 9]).run.run small
    let placed := (writePatch header [7, 8, 9]).run.run large
    let read := (onDevice (Device.seek 5) >>= fun _ ↦ readHeader .binary 12).run.run placed.2
    Header.encode .binary 3 12 64 = .ok header ∧
    (cut.2.device.contents = patch.take 13 ∧ cut.1 ≠ .ok ()) ∧
    (placed.1 = .ok () ∧ placed.2.device.contents.length = 20 ∧
      placed.2.device.contents[4]? = some 0 ∧ placed.2.device.contents[1]? = some 2 ∧
      placed.2.device.contents[17]? = some 7) ∧
    read.1 = .ok { format := .binary, size := 12, payloadSize := 3 } ∧
      read.2.device.unread = [7, 8, 9] := by
  intro magic header patch small large cut placed read
  have hencode : Header.encode .binary 3 12 64 = .ok header := rfl
  obtain ⟨hfirst, hok, hroom⟩ := (writePatch_exact [7, 8, 9] small).1 header rfl rfl
  have hlen : cut.2.device.contents.length = 13 := (hroom rfl).2 13 rfl
  have hcut : cut.2.device.contents = patch.take 13 := by
    rw [← hlen]
    exact List.prefix_iff_eq_take.mp hfirst
  obtain ⟨⟨hplaced, -⟩, ⟨hwhole, hpatch, hgap, hkept⟩, hread, -, -, hunread⟩ :=
    (writePatch_exact [7, 8, 9] large).2 hencode rfl rfl
  refine ⟨hencode, ⟨hcut, ?_⟩, ⟨hplaced, hwhole, ?_, ?_, ?_⟩, hread, hunread⟩
  · intro hall
    have hshort := congrArg List.length (hcut.symm.trans (hok.mp hall))
    exact absurd hshort (by decide)
  · exact hgap 4 (by decide) (by decide)
  · exact hkept 1 (by decide) (.inl (by decide))
  · exact hpatch 12 (by decide)

end FlashPatch
