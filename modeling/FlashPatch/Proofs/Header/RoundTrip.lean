import FlashPatch.Proofs.Partition.State
import FlashPatch.Proofs.Session

/-!
# Written headers are read back

The loader finds in front of any bytes the header that was written for them, from memory and from a
device alike, under every request for the same length.
-/

namespace FlashPatch.Header

/-- A written header is decoded, found pending and read from a device, whatever follows it. Reading
leaves exactly what follows. -/
theorem read_back_of_encode {format : Format} {payloadSize : UInt64} {requested request : Int64}
    {capacity : UInt64} {encoded : EncodedHeader} (tail : List UInt8)
    (h : encode format payloadSize requested capacity = .ok encoded)
    (hr : format.headerLength request = format.headerLength requested) :
    let header : Header := { format, size := encoded.bytes.length, payloadSize }
    decode (encoded.bytes ++ tail) format request = .ok header ∧
      Partition.inspect (encoded.bytes ++ tail) format request = .ok (.pending header) ∧
      ∀ session : Session, session.device.unread = encoded.bytes ++ tail →
        ¬session.device.Fails .read →
          ∃ after, (readHeader format request).run.run session = (.ok header, after) ∧
            after.device.unread = tail ∧ after.device.contents = session.device.contents := by
  intro header
  have hd : decode (encoded.bytes ++ tail) format request = .ok header :=
    decode_of_encode tail h hr
  refine ⟨hd, Partition.inspect_eq_pending_iff.mpr hd, ?_⟩
  intro session hu hf
  rw [← hu] at hd
  obtain ⟨after, hrun, hrest, hcontents⟩ := Session.readHeader_of_decode hf hd
  refine ⟨after, hrun, ?_, hcontents⟩
  rw [hrest, hu]
  exact List.drop_left

/-- A request of five is raised to eight, and the reader stands three bytes into the device. -/
theorem read_back_of_raised_request :
    let encoded : EncodedHeader := ⟨.binary, [78, 69, 87, 80, 239, 190, 173, 222], false⟩
    let device : Device := { contents := [7, 7, 7] ++ encoded.bytes ++ [1, 2], position := 3 }
    encode .binary 0xdeadbeef 5 100 = .ok encoded ∧
      Format.binary.headerLength 8 = Format.binary.headerLength 5 ∧
      device.unread = encoded.bytes ++ [1, 2] ∧ ¬device.Fails .read ∧
      decode (encoded.bytes ++ [1, 2]) .binary 8 = .ok ⟨.binary, 8, 0xdeadbeef⟩ ∧
      Partition.inspect (encoded.bytes ++ [1, 2]) .binary 8 =
        .ok (.pending ⟨.binary, 8, 0xdeadbeef⟩) ∧
      ∃ after, (readHeader .binary 8).run.run ⟨device, []⟩ =
          (.ok ⟨.binary, 8, 0xdeadbeef⟩, after) ∧
        after.device.unread = [1, 2] ∧ after.device.contents = device.contents := by
  intro encoded device
  have h : encode .binary 0xdeadbeef 5 100 = .ok encoded := rfl
  have hr : Format.binary.headerLength 8 = Format.binary.headerLength 5 := rfl
  have hf : ¬device.Fails .read := by decide
  obtain ⟨hd, hi, hs⟩ := read_back_of_encode [1, 2] h hr
  exact ⟨h, hr, rfl, hf, hd, hi, hs ⟨device, []⟩ rfl hf⟩

end FlashPatch.Header
