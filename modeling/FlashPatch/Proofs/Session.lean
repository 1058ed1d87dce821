import FlashPatch.Preparation
import FlashPatch.Proofs.Header.Layout
import FlashPatch.Proofs.Storage.Call

/-!
# Sessions

What the actions of a session do, and the law of reading a header from a device: it gives what the
bytes still to be read decode to, and takes exactly one header from them.
-/

namespace FlashPatch.Session

/-- An action on the device leaves the events, and its error becomes one of storage. -/
theorem run_onDevice {α : Type} (action : DeviceM α) (session : Session) :
    (onDevice action).run.run session =
      ((action.run.run session.device).1.mapError .storage,
        { session with device := (action.run.run session.device).2 }) := by
  unfold onDevice
  rw [Task.run_get_bind]
  rcases h : action.run.run session.device with ⟨cause | a, device⟩
  · rfl
  · rfl

/-- A sequence of actions on the device is one action. -/
theorem onDevice_bind {α β : Type} (first : DeviceM α) (next : α → DeviceM β) :
    onDevice (first >>= next) = onDevice first >>= fun a ↦ onDevice (next a) := by
  apply ExceptT.ext
  apply StateT.ext
  intro session
  rw [run_onDevice, Task.run_bind, Task.run_bind, run_onDevice]
  rcases first.run.run session.device with ⟨cause | a, device⟩
  · rfl
  · exact (run_onDevice (next a) { session with device }).symm

/-- What a header operation gives does not touch the session. -/
theorem run_onHeader {α : Type} (result : Except HeaderError α) (session : Session) :
    (onHeader result).run.run session = (result.mapError .header, session) := by
  cases result with
  | error cause => rfl
  | ok a => rfl

/-- An event is added to the events. -/
theorem run_emit_bind {α : Type} (event : Event) (next : Unit → SessionM α) (session : Session) :
    (emit event >>= next).run.run session =
      (next ()).run.run { session with events := session.events ++ [event] } := rfl

/-- Reading a header: the request is looked at first, then as many bytes as the header has are
taken, and these are decoded. -/
theorem run_readHeader (format : Format) (requested : Int64) (session : Session) :
    (readHeader format requested).run.run session =
      match format.headerLength requested with
      | .error cause => (.error (.header cause), session)
      | .ok length =>
        if session.device.Fails .read then
          (.error (.storage (.planned .read (session.device.nextOrdinal .read))),
            { session with device := session.device.called .read })
        else if length ≤ session.device.unread.length then
          ((Header.decode session.device.unread format requested).mapError .header,
            { session with device :=
              { session.device.called .read with position := session.device.position + length } })
        else
          (.error (.storage .endOfContents),
            { session with device :=
              { session.device.called .read with
                position := session.device.contents.length } }) := by
  unfold readHeader
  cases hl : format.headerLength requested with
  | error cause => exact Task.run_bind_error _ (run_onHeader (.error cause) session)
  | ok length =>
    rw [Task.run_bind_ok _ (run_onHeader (.ok length) session), Task.run_bind, run_onDevice,
      Device.run_readExactly]
    have hpos := Format.magic_length_add_four_le hl
    have hlen : length ≤ session.device.unread.length ↔
        session.device.position + length ≤ session.device.contents.length := by
      rw [Device.unread, List.length_drop]
      omega
    by_cases hf : session.device.Fails .read
    · simp only [if_pos hf]
      rfl
    · by_cases hc : session.device.position + length ≤ session.device.contents.length
      · simp only [if_neg hf, if_pos hc, if_pos (hlen.mpr hc)]
        rw [← Header.decode_take hl (hlen.mpr hc)]
        exact run_onHeader _ _
      · simp only [if_neg hf, if_neg hc, if_neg (mt hlen.mp hc)]
        rfl

/-- Where the request gives a length and the device serves the read, only the number of bytes that
are still to be read decides whether there is a header to decode. -/
theorem run_readHeader_of_length {format : Format} {requested : Int64} {session : Session}
    {length : Nat} (hl : format.headerLength requested = .ok length)
    (hf : ¬session.device.Fails .read) :
    (readHeader format requested).run.run session =
      if length ≤ session.device.unread.length then
        ((Header.decode session.device.unread format requested).mapError .header,
          { session with device :=
            { session.device.called .read with position := session.device.position + length } })
      else
        (.error (.storage .endOfContents),
          { session with device :=
            { session.device.called .read with position := session.device.contents.length } }) := by
  rw [run_readHeader, hl]
  simp only [if_neg hf]

/-- Reading a header leaves the contents and the events. -/
theorem kept_by_readHeader (format : Format) (requested : Int64) (session : Session) :
    let after := ((readHeader format requested).run.run session).2
    session.device.Continues after.device ∧
      after.device.contents = session.device.contents ∧ after.events = session.events := by
  have hcalls : session.device.calls <:+ (session.device.called .read).calls :=
    List.suffix_cons _ _
  rw [run_readHeader]
  split
  · exact ⟨.refl _, rfl, rfl⟩
  · split
    · exact ⟨⟨rfl, rfl, hcalls⟩, rfl, rfl⟩
    · split
      · exact ⟨⟨rfl, rfl, hcalls⟩, rfl, rfl⟩
      · exact ⟨⟨rfl, rfl, hcalls⟩, rfl, rfl⟩

/-- A header is read exactly if the read is served and the bytes still to be read decode to it. -/
theorem readHeader_eq_ok_iff {format : Format} {requested : Int64} {session : Session}
    {header : Header} :
    ((readHeader format requested).run.run session).1 = .ok header ↔
      ¬session.device.Fails .read ∧
        Header.decode session.device.unread format requested = .ok header := by
  rw [run_readHeader]
  cases hl : format.headerLength requested with
  | error cause =>
    simp only [Header.decode_eq, hl, reduceCtorEq, and_false]
  | ok length =>
    by_cases hf : session.device.Fails .read
    · simp only [hf, if_true, reduceCtorEq, not_true, false_and]
    · by_cases hc : length ≤ session.device.unread.length
      · simp only [hf, hc, if_false, if_true, not_false_iff, true_and]
        cases Header.decode session.device.unread format requested with
        | error cause => simp [Except.mapError]
        | ok found => simp [Except.mapError]
      · have hd : session.device.unread.length < length := Nat.not_le.mp hc
        simp only [hf, hc, if_false, Header.decode_eq, hl, hd, if_true, reduceCtorEq, and_false]

/-- Reading a header takes its bytes from those still to be read, and leaves the contents. -/
theorem readHeader_of_decode {format : Format} {requested : Int64} {session : Session}
    {header : Header} (hf : ¬session.device.Fails .read)
    (hd : Header.decode session.device.unread format requested = .ok header) :
    ∃ after, (readHeader format requested).run.run session = (.ok header, after) ∧
      after.device.unread = session.device.unread.drop header.size ∧
      after.device.contents = session.device.contents := by
  obtain ⟨hl, -, hlen, -, -⟩ := Header.decode_eq_ok_iff.mp hd
  let position := session.device.position + header.size
  refine ⟨{ session with device := { session.device.called .read with position } }, ?_, ?_, ?_⟩
  · rw [run_readHeader_of_length hl hf, if_pos hlen, hd]
    rfl
  · exact List.drop_drop.symm
  · rfl

/-! ## One header, and nothing more -/

variable {format : Format} {requested : Int64} {session : Session} {length : Nat}

private theorem readHeader_of_take_eq {other : Session}
    (hl : format.headerLength requested = .ok length) (hf : ¬session.device.Fails .read)
    (hf' : ¬other.device.Fails .read)
    (h : other.device.unread.take length = session.device.unread.take length) :
    ((readHeader format requested).run.run other).1 =
      ((readHeader format requested).run.run session).1 := by
  have hsame : length ≤ other.device.unread.length ↔ length ≤ session.device.unread.length := by
    have hlen := congrArg List.length h
    rw [List.length_take, List.length_take] at hlen
    omega
  rw [run_readHeader_of_length hl hf, run_readHeader_of_length hl hf']
  by_cases hc : length ≤ session.device.unread.length
  · rw [if_pos hc, if_pos (hsame.mpr hc), ← Header.decode_take hl hc,
      ← Header.decode_take hl (hsame.mpr hc), h]
  · rw [if_neg hc, if_neg (mt hsame.mp hc)]

/-- Reading a header from a device that serves the read. A request without a length is refused
before anything is read. Otherwise the result is that of decoding the bytes from the position on,
and the position is behind one header, whether there was one or not. Only if these bytes end before
the header does, the error is that of the device, exactly where decoding finds them too short, and
they are all used up. No byte on the device changes, and only the bytes of the header decide on the
result. -/
theorem readHeader_exact (format : Format) (requested : Int64) (session : Session)
    (hf : ¬session.device.Fails .read) :
    let unread := session.device.contents.drop session.device.position
    let decoded := Header.decode unread format requested
    let run := (readHeader format requested).run.run session
    let after := run.2.device
    (∀ cause, format.headerLength requested = .error cause →
      run = (.error (.header cause), session)) ∧
    ∀ length, format.headerLength requested = .ok length →
      (length ≤ unread.length →
        (∀ header, run.1 = .ok header ↔ decoded = .ok header) ∧
        (∀ cause, decoded = .error cause → run.1 = .error (.header cause)) ∧
        after.position = session.device.position + length ∧
        after.contents.drop after.position = unread.drop length) ∧
      (unread.length < length →
        run.1 = .error (.storage .endOfContents) ∧
        after.position = session.device.contents.length) ∧
      (run.1 = .error (.storage .endOfContents) ↔
        decoded = .error (.tooShort unread.length length)) ∧
      after.contents = session.device.contents ∧
      ∀ other : Session, ¬other.device.Fails .read →
        (other.device.contents.drop other.device.position).take length = unread.take length →
        ((readHeader format requested).run.run other).1 = run.1 := by
  intro unread decoded run after
  refine ⟨fun cause hl ↦ ?_, fun length hl ↦ ?_⟩
  · show (readHeader format requested).run.run session = _
    rw [run_readHeader, hl]
  have hserved (hc : length ≤ unread.length) :
      run = (decoded.mapError .header, { session with device :=
        { session.device.called .read with position := session.device.position + length } }) :=
    (run_readHeader_of_length hl hf).trans (if_pos hc)
  have hended (hc : unread.length < length) :
      run = (.error (.storage .endOfContents), { session with device :=
        { session.device.called .read with position := session.device.contents.length } }) :=
    (run_readHeader_of_length hl hf).trans (if_neg (Nat.not_le.mpr hc))
  refine ⟨?enough, ?short, ?alike, ?contents, ?start⟩
  case enough =>
    intro hc
    have hresult : run.1 = decoded.mapError .header := congrArg Prod.fst (hserved hc)
    have hafter : after = { session.device.called .read with
        position := session.device.position + length } := congrArg (·.2.device) (hserved hc)
    rw [hresult, hafter]
    refine ⟨fun header ↦ ?_, fun cause h ↦ by rw [h]; rfl, rfl, List.drop_drop.symm⟩
    cases decoded <;> simp [Except.mapError]
  case short =>
    intro hc
    exact ⟨congrArg Prod.fst (hended hc), congrArg (·.2.device.position) (hended hc)⟩
  case alike =>
    rw [Header.decode_eq_tooShort_iff hl]
    by_cases hc : unread.length < length
    · exact iff_of_true (congrArg Prod.fst (hended hc)) hc
    · refine iff_of_false ?_ hc
      rw [hserved (Nat.not_lt.mp hc)]
      cases decoded <;> simp [Except.mapError]
  case contents => exact (kept_by_readHeader format requested session).2.1
  case start => exact fun other hf' h ↦ readHeader_of_take_eq hl hf hf' h

/-- A header of eight bytes is read from inside a device, which leaves the one byte behind it; from
a position past the end nothing is read, and the position comes back to the end. -/
theorem readHeader_exact_inside_and_beyond :
    let contents : List UInt8 := [7, 7, 7] ++ "NEWP".toList.map Char.toUInt8 ++ [5, 0, 0, 0, 9]
    let inside : Session := ⟨{ contents, position := 3 }, []⟩
    let beyond : Session := ⟨{ contents, position := 20 }, []⟩
    let fromInside := (readHeader .binary 3).run.run inside
    let fromBeyond := (readHeader .binary 3).run.run beyond
    ¬inside.device.Fails .read ∧ fromInside.1 = .ok ⟨.binary, 8, 5⟩ ∧
      fromInside.2.device.position = 11 ∧ fromInside.2.device.contents = contents ∧
      ¬beyond.device.Fails .read ∧ fromBeyond.1 = .error (.storage .endOfContents) ∧
      fromBeyond.2.device.position = 12 ∧
      (readHeader .binary (-1)).run.run beyond = (.error (.header (.negativeSize (-1))), beyond) := by
  intro contents inside beyond fromInside fromBeyond
  have hinside : ¬inside.device.Fails .read := by decide
  have hbeyond : ¬beyond.device.Fails .read := by decide
  have hl : Format.binary.headerLength 3 = .ok 8 := rfl
  obtain ⟨henough, -, -, hcontents, -⟩ := (readHeader_exact .binary 3 inside hinside).2 8 hl
  obtain ⟨hread, -, hposition, -⟩ := henough (by decide)
  obtain ⟨-, hshort, -⟩ := (readHeader_exact .binary 3 beyond hbeyond).2 8 hl
  obtain ⟨hend, hlast⟩ := hshort (by decide)
  exact ⟨hinside, (hread _).mpr (by decide), hposition, hcontents, hbeyond, hend, hlast,
    (readHeader_exact .binary (-1) beyond hbeyond).1 _ rfl⟩

end FlashPatch.Session
