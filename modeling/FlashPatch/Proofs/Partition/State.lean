import FlashPatch.Partition.State
import FlashPatch.Proofs.Header.Layout

/-!
# Laws of partition states

A partition is pending exactly if its header can be read. Marking succeeds exactly on contents that
start with the magic; it changes the magic only, and from then on the partition counts as applied.
-/

namespace FlashPatch.Partition

/-- The state is decided by the length first, then by the magic, then by what replaces it. -/
theorem inspect_eq (contents : List UInt8) (format : Format) (requested : Int64) :
    inspect contents format requested =
      if contents.length < format.magic.length then
        .error (.tooShort contents.length format.magic.length)
      else if contents.take format.magic.length = format.magic then
        (Header.decode contents format requested).map State.pending
      else if (contents.take format.magic.length).all (· == appliedFill) then .ok .applied
      else .ok .absent := by
  unfold inspect
  simp only [bind, Except.bind, pure, Except.pure, throw, throwThe, MonadExceptOf.throw]
  by_cases hl : contents.length < format.magic.length
  · rw [if_pos hl, if_pos hl]
  · rw [if_neg hl, if_neg hl]
    by_cases hm : contents.take format.magic.length = format.magic
    · rw [if_pos hm, if_pos hm]
      cases Header.decode contents format requested <;> rfl
    · rw [if_neg hm, if_neg hm]

/-- Behind the magic, the state is that of the header. -/
theorem inspect_of_magic {contents : List UInt8} {format : Format} (requested : Int64)
    (h : contents.take format.magic.length = format.magic) :
    inspect contents format requested =
      (Header.decode contents format requested).map State.pending := by
  have hlen : ¬contents.length < format.magic.length := by
    have := congrArg List.length h
    rw [List.length_take] at this
    omega
  rw [inspect_eq, if_neg hlen, if_pos h]

/-- Without the magic, nothing behind its bytes is looked at, and no request matters. -/
theorem inspect_of_ne_magic {contents : List UInt8} {format : Format} (requested : Int64)
    (h : contents.take format.magic.length ≠ format.magic) :
    inspect contents format requested =
      if contents.length < format.magic.length then
        .error (.tooShort contents.length format.magic.length)
      else if (contents.take format.magic.length).all (· == appliedFill) then .ok .applied
      else .ok .absent := by
  rw [inspect_eq, if_neg h]

/-- A partition is pending exactly if its header can be read, and with that header. -/
theorem inspect_eq_pending_iff {contents : List UInt8} {format : Format} {requested : Int64}
    {header : Header} :
    inspect contents format requested = .ok (.pending header) ↔
      Header.decode contents format requested = .ok header := by
  rw [inspect_eq]
  constructor
  · intro h
    split at h
    · simp at h
    · split at h
      · cases hd : Header.decode contents format requested with
        | error cause => simp [hd, Except.map] at h
        | ok found =>
          rw [hd] at h
          exact congrArg Except.ok (State.pending.inj (Except.ok.inj h))
      · split at h <;> simp at h
  · intro h
    obtain ⟨hl, -, hlen, hm, -⟩ := Header.decode_eq_ok_iff.mp h
    have := Format.magic_length_add_four_le hl
    rw [if_neg (by omega), if_pos hm, h]
    rfl

/-- Marking looks at the length first, then at the magic. -/
theorem markApplied_eq (contents : List UInt8) (format : Format) :
    markApplied contents format =
      if contents.length < format.magic.length then
        .error (.tooShort contents.length format.magic.length)
      else if contents.take format.magic.length = format.magic then
        .ok (List.replicate format.magic.length appliedFill ++
          contents.drop format.magic.length)
      else .error (.wrongMagic (contents.take format.magic.length) format.magic) := by
  unfold markApplied Header.checkMagic
  simp only [bind, Except.bind, pure, Except.pure, throw, throwThe, MonadExceptOf.throw]
  by_cases hl : contents.length < format.magic.length
  · rw [if_pos hl, if_pos hl]
  · rw [if_neg hl, if_neg hl]
    by_cases hm : contents.take format.magic.length = format.magic
    · rw [if_pos hm, if_pos hm]
    · rw [if_neg hm, if_neg hm]

/-- Contents are marked exactly if they start with the magic, which is all that is replaced. -/
theorem markApplied_eq_ok_iff {contents marked : List UInt8} {format : Format} :
    markApplied contents format = .ok marked ↔
      contents.take format.magic.length = format.magic ∧
        marked = List.replicate format.magic.length appliedFill ++
          contents.drop format.magic.length := by
  rw [markApplied_eq]
  by_cases hm : contents.take format.magic.length = format.magic
  · have hl : ¬contents.length < format.magic.length := by
      have := congrArg List.length hm
      rw [List.length_take] at this
      omega
    rw [if_neg hl, if_pos hm]
    simp [hm, eq_comm]
  · rw [if_neg hm]
    split <;> simp [hm]

variable {contents marked : List UInt8} {format : Format}

/-- Marking keeps the length. -/
theorem length_of_markApplied (h : markApplied contents format = .ok marked) :
    marked.length = contents.length := by
  obtain ⟨hm, rfl⟩ := markApplied_eq_ok_iff.mp h
  have hl := congrArg List.length hm
  rw [List.length_take] at hl
  rw [List.length_append, List.length_replicate, List.length_drop]
  omega

/-- Marking keeps all that stands behind the magic. -/
theorem drop_of_markApplied (h : markApplied contents format = .ok marked) :
    marked.drop format.magic.length = contents.drop format.magic.length := by
  obtain ⟨-, rfl⟩ := markApplied_eq_ok_iff.mp h
  exact List.drop_left' List.length_replicate

/-- What begins with the bytes of a mark does not begin with a magic, not even a shorter one. -/
theorem take_appliedFill_ne_magic (format other : Format) (behind : List UInt8) :
    (List.replicate format.magic.length appliedFill ++ behind).take other.magic.length ≠
      other.magic := by
  have hfill : ((List.replicate format.magic.length appliedFill ++ behind).take
      other.magic.length).head? = some appliedFill := by
    cases format <;> cases other <;> rfl
  have hmagic : other.magic.head? ≠ some appliedFill := by
    cases other <;> decide
  intro h
  exact hmagic (h ▸ hfill)

/-- Whether the contents begin with the bytes that take the place of the magic. -/
def IsMarked (contents : List UInt8) (format : Format) : Prop :=
  List.replicate format.magic.length appliedFill <+: contents

/-- Marking puts these bytes there. -/
theorem isMarked_of_markApplied (h : markApplied contents format = .ok marked) :
    IsMarked marked format := by
  obtain ⟨-, rfl⟩ := markApplied_eq_ok_iff.mp h
  exact List.prefix_append _ _

namespace IsMarked

variable (h : IsMarked contents format)
include h

/-- Marked contents begin with no magic, not even with that of the other format. -/
theorem take_ne_magic (other : Format) : contents.take other.magic.length ≠ other.magic := by
  obtain ⟨behind, rfl⟩ := h
  exact take_appliedFill_ne_magic format other behind

/-- Marked contents are as long as the magic at least. -/
theorem magic_length_le : format.magic.length ≤ contents.length := by
  simpa using h.length_le

/-- Marked contents count as applied, whatever size is requested. -/
theorem inspect_eq_applied (requested : Int64) :
    inspect contents format requested = .ok .applied := by
  have htake : contents.take format.magic.length =
      List.replicate format.magic.length appliedFill := by
    simpa using (List.prefix_iff_eq_take.mp h).symm
  rw [inspect_eq, if_neg (Nat.not_lt.mpr h.magic_length_le), if_neg (h.take_ne_magic format), htake,
    if_pos (by simp)]

/-- No header is decoded from marked contents. -/
theorem decode_ne_ok (other : Format) (requested : Int64) (header : Header) :
    Header.decode contents other requested ≠ .ok header := by
  intro hd
  obtain ⟨-, -, -, hm, -⟩ := Header.decode_eq_ok_iff.mp hd
  exact h.take_ne_magic other hm

/-- Marked contents are not marked again: there is another magic, or they are too short for the
longer one. -/
theorem markApplied_eq_error (other : Format) :
    markApplied contents other =
        .error (.wrongMagic (contents.take other.magic.length) other.magic) ∨
      other = .hexText ∧
        markApplied contents other =
          .error (.tooShort contents.length other.magic.length) := by
  have hle := h.magic_length_le
  rw [markApplied_eq, if_neg (h.take_ne_magic other)]
  cases other with
  | hexText =>
    split
    · exact .inr ⟨rfl, rfl⟩
    · exact .inl rfl
  | binary =>
    have hlong : Format.binary.magic.length ≤ format.magic.length := by cases format <;> decide
    exact .inl (if_neg (by omega))

end IsMarked

/-- A marked partition counts as applied, whatever size is requested. -/
theorem inspect_of_markApplied (h : markApplied contents format = .ok marked)
    (requested : Int64) : inspect marked format requested = .ok .applied :=
  (isMarked_of_markApplied h).inspect_eq_applied requested

/-- A pending patch can be marked, which keeps its payload. -/
theorem markApplied_of_decode {header : Header} {requested : Int64}
    (h : Header.decode contents format requested = .ok header) :
    ∃ marked, markApplied contents format = .ok marked ∧
      marked.drop header.size = contents.drop header.size := by
  obtain ⟨hl, -, -, hm, -⟩ := Header.decode_eq_ok_iff.mp h
  have hle := Format.magic_length_add_four_le hl
  obtain ⟨behind, hsize⟩ : ∃ behind, header.size = format.magic.length + behind :=
    ⟨header.size - format.magic.length, by omega⟩
  have hmark := markApplied_eq_ok_iff.mpr ⟨hm, rfl⟩
  refine ⟨_, hmark, ?_⟩
  rw [hsize, ← List.drop_drop, drop_of_markApplied hmark, List.drop_drop]

/-! ## Looks, headers and marks -/

private theorem not_forall_magic (format : Format) : ¬∀ b ∈ format.magic, b = 'F'.toUInt8 := by
  cases format <;> decide

private theorem exists_decode_error (requested : Int64)
    (h : contents.take format.magic.length ≠ format.magic) :
    ∃ cause, Header.decode contents format requested = .error cause := by
  cases hread : Header.decode contents format requested with
  | error cause => exact ⟨cause, rfl⟩
  | ok header =>
    obtain ⟨-, -, -, hm, -⟩ := Header.decode_eq_ok_iff.mp hread
    exact absurd hm h

/-- A look at a partition, its header and a mark agree for all contents, in both formats and under
all requests. Contents without room for the magic are refused by the look and by the mark alike.
Behind the magic the look gives the header, or the error of reading it. All other contents are
applied if the bytes at the place of the magic are those of a mark, and absent if not, whatever is
requested and wherever the contents end; then there is no header, and a mark is refused with these
bytes. So a look finds a pending patch exactly if its header is read. -/
theorem inspect_agrees (contents : List UInt8) (format : Format) (requested : Int64) :
    let magic := format.magic
    let head := contents.take magic.length
    let seen := inspect contents format requested
    let read := Header.decode contents format requested
    let mark := markApplied contents format
    (contents.length < magic.length →
      seen = .error (.tooShort contents.length magic.length) ∧
        mark = .error (.tooShort contents.length magic.length)) ∧
    (magic <+: contents →
      (∀ header, read = .ok header → seen = .ok (.pending header)) ∧
        ∀ cause, read = .error cause → seen = .error cause) ∧
    (magic.length ≤ contents.length → ¬magic <+: contents →
      ((∀ b ∈ head, b = 'F'.toUInt8) → seen = .ok .applied) ∧
        ((¬∀ b ∈ head, b = 'F'.toUInt8) → seen = .ok .absent) ∧
        (∃ cause, read = .error cause) ∧ mark = .error (.wrongMagic head magic)) ∧
    ((∀ b ∈ head, b = 'F'.toUInt8) → ¬magic <+: contents) ∧
    ∀ header, seen = .ok (.pending header) ↔ read = .ok header := by
  intro magic head seen read mark
  have hmagic : magic <+: contents ↔ head = magic := List.prefix_iff_eq_take.trans eq_comm
  have hseen : seen = _ := inspect_eq contents format requested
  have hmark : mark = _ := markApplied_eq contents format
  have hpending (header : Header) : seen = .ok (.pending header) ↔ read = .ok header :=
    inspect_eq_pending_iff
  refine ⟨?short, ?own, ?foreign, ?filled, hpending⟩
  case short =>
    intro hl
    rw [hseen, hmark, if_pos hl, if_pos hl]
    exact ⟨rfl, rfl⟩
  case own =>
    intro hp
    have hstate : seen = read.map State.pending := inspect_of_magic requested (hmagic.mp hp)
    refine ⟨fun header h ↦ (hpending header).mpr h, fun cause h ↦ ?_⟩
    rw [hstate, h]
    rfl
  case foreign =>
    intro hl hp
    have hne : contents.take format.magic.length ≠ format.magic := mt hmagic.mpr hp
    have hall : head.all (· == appliedFill) = true ↔ ∀ b ∈ head, b = 'F'.toUInt8 := by
      simp only [List.all_eq_true, beq_iff_eq]
      rfl
    rw [if_neg (Nat.not_lt.mpr hl), if_neg hne] at hseen hmark
    refine ⟨fun hfill ↦ ?_, fun hfill ↦ ?_, exists_decode_error requested hne, hmark⟩
    · rw [hseen, if_pos (hall.mpr hfill)]
    · rw [hseen, if_neg (mt hall.mp hfill)]
  case filled =>
    intro hfill hp
    rw [hmagic.mp hp] at hfill
    exact not_forall_magic format hfill

end FlashPatch.Partition
