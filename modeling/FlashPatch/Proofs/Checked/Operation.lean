import FlashPatch.Bytes.LittleEndian
import FlashPatch.IntLiteral
import FlashPatch.Proofs.Bytes.Text

/-!
# Operations with a domain

Operations on lengths, buffers, text and integers that mean something only for some of their
arguments. Outside its domain an operation stops as a violation, inside it gives the plain result.
So a definition that is made of such operations, and never stops, never leaves a domain.
-/

namespace FlashPatch

/-- A use of an operation outside its domain. -/
inductive Violation where
  /-- A difference of lengths is below zero. -/
  | difference (minuend subtrahend : Nat)
  /-- A length needs more than 64 bits. -/
  | length (length : Nat)
  /-- A 64-bit word is shifted by 64 bits or more. -/
  | shift (count : Nat)
  /-- A buffer has more bytes than there are addresses for. -/
  | buffer (length : Nat)
  /-- A part of a buffer does not lie inside it. -/
  | part (first last length : Nat)
  /-- A copy goes into a part of another length. -/
  | copy (source target : Nat)
  /-- The bytes of an integer are none, more than eight, too few for it, or not there. -/
  | integer (width : Nat)
  /-- Text is cut inside a character, or behind its end. -/
  | cut (offset : Nat)
  /-- No digits have the base. -/
  | base (base : Nat)
  /-- The negated integer needs more than 128 bits. -/
  | negation (n : Int)
  /-- Lengths that have to be equal are not. -/
  | unequal (left right : Nat)
deriving DecidableEq, Repr

/-- A run that gives a result or fails with a cause, unless an operation stops it. -/
abbrev Checked (ε : Type) : Type → Type := ExceptT ε (Except Violation)

namespace Checked

variable {ε α β : Type}

/-! ## Runs -/

/-- The run is stopped by no operation and comes out so. -/
def Gives (run : Checked ε α) (outcome : Except ε α) : Prop := run.run = .ok outcome

/-- A plain result. -/
theorem Gives.pure (a : α) : Gives (pure a : Checked ε α) (.ok a) := rfl

/-- A failure with a cause. -/
theorem Gives.throw (cause : ε) : Gives (throw cause : Checked ε α) (.error cause) := rfl

/-- A step that is defined everywhere. -/
theorem Gives.ofExcept (outcome : Except ε α) : Gives (ofExcept outcome) outcome := by
  cases outcome with
  | ok a => rfl
  | error cause => rfl

/-- An operation inside its domain. -/
theorem Gives.lift {operation : Except Violation α} {a : α} (h : operation = .ok a) :
    Gives (liftM operation : Checked ε α) (.ok a) := by
  rw [h]
  rfl

/-- A run whose first step gives a result. -/
theorem Gives.bind {first : Checked ε α} {next : α → Checked ε β} {a : α} {outcome : Except ε β}
    (h : Gives first (.ok a)) (hnext : Gives (next a) outcome) :
    Gives (first >>= next) outcome := by
  change (first >>= next).run = .ok outcome
  rw [ExceptT.run_bind, h]
  exact hnext

/-- A run whose result is turned into another one. -/
theorem Gives.map {first : Checked ε α} {outcome : Except ε α} (f : α → β)
    (h : Gives first outcome) : Gives (first >>= fun a ↦ Pure.pure (f a)) (outcome.map f) := by
  change (first >>= fun a ↦ Pure.pure (f a)).run = .ok (outcome.map f)
  rw [ExceptT.run_bind, h]
  cases outcome with
  | ok a => rfl
  | error cause => rfl

/-- A run whose first step fails. -/
theorem Gives.bind_error {first : Checked ε α} (next : α → Checked ε β) {cause : ε}
    (h : Gives first (.error cause)) : Gives (first >>= next) (.error cause) := by
  change (first >>= next).run = .ok (.error cause)
  rw [ExceptT.run_bind, h]
  rfl

end Checked

/-! ## Lengths and words -/

namespace Operation

/-- The difference of two lengths. -/
def difference (minuend subtrahend : Nat) : Except Violation Nat :=
  if subtrahend ≤ minuend then .ok (minuend - subtrahend)
  else .error (.difference minuend subtrahend)

/-- A computed length, if it is one. -/
def length (n : Nat) : Except Violation Nat :=
  if n < 2 ^ 64 then .ok n else .error (.length n)

/-- What is left of a word that is shifted to the right. -/
def shift (word : UInt64) (count : Nat) : Except Violation Nat :=
  if count < 64 then .ok (word.toNat >>> count) else .error (.shift count)

/-- Asserts that two lengths are equal. -/
def same (left right : Nat) : Except Violation Unit :=
  if left = right then .ok () else .error (.unequal left right)

variable {first last count width base minuend subtrahend left right : Nat}
variable {buffer front middle behind inner source target : List UInt8}

/-- A shorter length can be taken from a longer one. -/
theorem difference_of_le (h : subtrahend ≤ minuend) :
    difference minuend subtrahend = .ok (minuend - subtrahend) := if_pos h

/-- A number of 64 bits is a length. -/
theorem length_of_lt {n : Nat} (h : n < 2 ^ 64) : length n = .ok n := if_pos h

/-- A word may be shifted by fewer bits than it has. -/
theorem shift_of_lt (word : UInt64) (h : count < 64) :
    shift word count = .ok (word.toNat >>> count) := if_pos h

/-- Equal lengths pass. -/
theorem same_of_eq (h : left = right) : same left right = .ok () := if_pos h

/-! ## Buffers -/

/-- A buffer of zeros. -/
def zeros (n : Nat) : Except Violation (List UInt8) :=
  if n < 2 ^ 63 then .ok (List.replicate n 0) else .error (.buffer n)

/-- The part of a buffer from one offset up to another. -/
def part (first last : Nat) (buffer : List UInt8) : Except Violation (List UInt8) :=
  if first ≤ last ∧ last ≤ buffer.length then .ok ((buffer.take last).drop first)
  else .error (.part first last buffer.length)

/-- The buffer with an operation on one part of it. -/
def onPart (first last : Nat) (operation : List UInt8 → Except Violation (List UInt8))
    (buffer : List UInt8) : Except Violation (List UInt8) := do
  let inner ← part first last buffer
  return buffer.take first ++ (← operation inner) ++ buffer.drop last

/-- Bytes copied over as many others. -/
def copy (source target : List UInt8) : Except Violation (List UInt8) :=
  if source.length = target.length then .ok source else .error (.copy source.length target.length)

/-- An integer written over the first bytes of a buffer. -/
def writeInteger (word : UInt64) (width : Nat) (target : List UInt8) :
    Except Violation (List UInt8) :=
  if 1 ≤ width ∧ width ≤ 8 ∧ word.toNat < 256 ^ width ∧ width ≤ target.length then
    .ok (LittleEndian.encode width word.toNat ++ target.drop width)
  else .error (.integer width)

/-- The integer in the first bytes of a buffer. -/
def readInteger (width : Nat) (source : List UInt8) : Except Violation UInt64 :=
  if 1 ≤ width ∧ width ≤ 8 ∧ width ≤ source.length then
    .ok (UInt64.ofNat (LittleEndian.value (source.take width)))
  else .error (.integer width)

/-- There are addresses for fewer than 2^63 bytes. -/
theorem zeros_of_lt {n : Nat} (h : n < 2 ^ 63) : zeros n = .ok (List.replicate n 0) := if_pos h

/-- A part that ends inside the buffer is cut out of it. -/
theorem part_of_le (hfirst : first ≤ last) (hlast : last ≤ buffer.length) :
    part first last buffer = .ok ((buffer.take last).drop first) := if_pos ⟨hfirst, hlast⟩

/-- The first bytes of a buffer. -/
theorem part_zero (hlast : last ≤ buffer.length) : part 0 last buffer = .ok (buffer.take last) :=
  part_of_le (Nat.zero_le last) hlast

/-- An operation on a part leaves what is in front of it and behind it. -/
theorem onPart_append {operation : List UInt8 → Except Violation (List UInt8)}
    (front behind : List UInt8) (hfirst : first = front.length)
    (hlast : last = front.length + middle.length) (h : operation middle = .ok inner) :
    onPart first last operation (front ++ (middle ++ behind)) =
      .ok (front ++ (inner ++ behind)) := by
  have hpart : part first last (front ++ (middle ++ behind)) = .ok middle := by
    rw [part_of_le (by omega) (by simp only [List.length_append]; omega), hfirst, hlast,
      List.take_length_add_append, List.drop_left, List.take_left]
  have hbehind : (front ++ (middle ++ behind)).drop last = behind := by
    rw [hlast, List.drop_length_add_append, List.drop_left]
  unfold onPart
  rw [hpart, hbehind, hfirst, List.take_left]
  change (do return front ++ (← operation middle) ++ behind) = _
  rw [h, ← List.append_assoc]
  rfl

/-- An operation on the first part of a buffer. -/
theorem onPart_front {operation : List UInt8 → Except Violation (List UInt8)}
    (hlast : last = middle.length) (h : operation middle = .ok inner) :
    onPart 0 last operation (middle ++ behind) = .ok (inner ++ behind) :=
  onPart_append [] behind rfl (by rw [hlast, List.length_nil, Nat.zero_add]) h

/-- An operation on the last part of a buffer. -/
theorem onPart_back {operation : List UInt8 → Except Violation (List UInt8)}
    (hfirst : first = front.length) (hlast : last = (front ++ middle).length)
    (h : operation middle = .ok inner) :
    onPart first last operation (front ++ middle) = .ok (front ++ inner) := by
  rw [List.length_append] at hlast
  have happend := onPart_append front [] hfirst hlast h
  rwa [List.append_nil, List.append_nil] at happend

/-- A copy of the same length takes the place of the target. -/
theorem copy_of_length_eq (h : source.length = target.length) : copy source target = .ok source :=
  if_pos h

/-- An integer is written that fits its bytes, if the target has room for them. -/
theorem writeInteger_of_lt {word : UInt64} (hpos : 1 ≤ width) (hwidth : width ≤ 8)
    (h : word.toNat < 256 ^ width) (htarget : width ≤ target.length) :
    writeInteger word width target =
      .ok (LittleEndian.encode width word.toNat ++ target.drop width) :=
  if_pos ⟨hpos, hwidth, h, htarget⟩

/-- An integer is read that is there with all its bytes. -/
theorem readInteger_of_le (hpos : 1 ≤ width) (hwidth : width ≤ 8)
    (hsource : width ≤ source.length) :
    readInteger width source = .ok (UInt64.ofNat (LittleEndian.value (source.take width))) :=
  if_pos ⟨hpos, hwidth, hsource⟩

/-! ## Text and integers -/

/-- The bytes of text. -/
def utf8 (text : List Char) : List UInt8 := text.flatMap String.utf8EncodeChar

/-- The text from an offset on, counted in bytes. -/
def cut : Nat → List Char → Except Violation (List Char)
  | 0, text => .ok text
  | offset + 1, [] => .error (.cut (offset + 1))
  | offset + 1, c :: text =>
    -- An offset inside the character would be the start of none.
    if c.utf8Size ≤ offset + 1 then cut (offset + 1 - c.utf8Size) text
    else .error (.cut (offset + 1))

/-- The 64-bit integer that text writes in the base, if it writes one. A plus may stand in front. -/
def readWord? (base : Nat) (text : List Char) : Except Violation (Option UInt64) :=
  if 2 ≤ base ∧ base ≤ 36 then
    let digits := if text.head? = some '+' then text.tail else text
    .ok (((Numeral.read? base digits).filter (· < UInt64.size)).map UInt64.ofNat)
  else .error (.base base)

/-- The 128-bit integer that text writes in the base, if it writes one. A sign may stand in
front. -/
def readSigned? (base : Nat) (text : List Char) : Except Violation (Option Int) :=
  if 2 ≤ base ∧ base ≤ 36 then
    let (negative, digits) := IntLiteral.splitSign text
    let value := (Numeral.read? base digits).map fun (n : Nat) ↦
      if negative then -(n : Int) else n
    .ok (value.filter fun n ↦ -2 ^ 127 ≤ n ∧ n < 2 ^ 127)
  else .error (.base base)

/-- The negative of a 128-bit integer. -/
def negate (n : Int) : Except Violation Int :=
  if -n < 2 ^ 127 then .ok (-n) else .error (.negation n)

/-- An integer is negated whose negative is in range. -/
theorem negate_of_lt {n : Int} (h : -n < 2 ^ 127) : negate n = .ok (-n) := if_pos h

private theorem exists_utf8EncodeChar_eq_cons (c : Char) :
    ∃ b rest, String.utf8EncodeChar c = b :: rest ∧ (b.toNat < 128 → b.toNat = c.toNat) := by
  have hsmall (h : c.val.toNat ≤ 127) : (UInt8.ofNat c.val.toNat).toNat = c.toNat :=
    UInt8.toNat_ofNat_of_lt' (by change _ < 256; omega)
  have hlead (bits mark : Nat) (h : 192 ≤ mark ∧ bits + mark < 256) :
      ¬(UInt8.ofNat (bits + mark)).toNat < 128 := by
    rw [UInt8.toNat_ofNat_of_lt' h.2]
    omega
  unfold String.utf8EncodeChar
  simp only
  -- One byte is the character itself; two, three and four begin with 192, 224 and 240 at least.
  split
  · next h => exact ⟨_, _, rfl, fun _ ↦ hsmall h⟩
  · split
    · exact ⟨_, _, rfl, fun h ↦ absurd h (hlead _ _ (by omega))⟩
    · split
      · exact ⟨_, _, rfl, fun h ↦ absurd h (hlead _ _ (by omega))⟩
      · exact ⟨_, _, rfl, fun h ↦ absurd h (hlead _ _ (by omega))⟩

private theorem utf8Size_of_lt {c : Char} (hc : c.toNat < 128) : c.utf8Size = 1 := by
  rw [Char.utf8Size_eq_one_iff, UInt32.le_iff_toNat_le]
  change c.toNat ≤ 127
  omega

/-- Text begins with the byte of an ASCII character exactly if it begins with the character. -/
theorem head?_utf8_eq_some_iff (text : List Char) {c : Char} (hc : c.toNat < 128) :
    (utf8 text).head? = some c.toUInt8 ↔ ∃ rest, text = c :: rest := by
  constructor
  · intro h
    cases text with
    | nil => simp [utf8] at h
    | cons d rest =>
      obtain ⟨b, more, hd, hb⟩ := exists_utf8EncodeChar_eq_cons d
      rw [utf8, List.flatMap_cons, hd, List.cons_append, List.head?_cons] at h
      obtain rfl := Option.some.inj h
      have hvalue : c.toUInt8.toNat = c.toNat := Text.toNat_toUInt8 (by omega)
      have hsame : c.toNat = d.toNat := by
        rw [← hvalue]
        exact hb (by omega)
      rw [Char.toNat_inj.mp hsame]
      exact ⟨rest, rfl⟩
  · rintro ⟨rest, rfl⟩
    rw [utf8, List.flatMap_cons, String.utf8EncodeChar_eq_singleton (utf8Size_of_lt hc)]
    rfl

/-- Text can be cut behind an ASCII character. -/
theorem cut_one {c : Char} (hc : c.toNat < 128) (text : List Char) :
    cut 1 (c :: text) = .ok text := by
  rw [cut, utf8Size_of_lt hc, if_pos (Nat.le_refl 1), Nat.sub_self, cut]

end Operation

end FlashPatch
