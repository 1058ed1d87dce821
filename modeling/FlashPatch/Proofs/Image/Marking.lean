import FlashPatch.Proofs.Image.Application

/-!
# Marks on headers that cannot be read

A mark looks at the magic only, a look at the state at the whole header. So a mark does not need a
pending patch: it succeeds as well on a header that ends too early, or whose size field holds no
size. These are the only cases, and in every other one a mark that is refused leaves the device.
-/

namespace FlashPatch

/-- Behind the magic, a header for a request is read, is cut off, or has no size in its field. -/
theorem Header.decode_of_magic {contents : List UInt8} {format : Format} {requested : Int64}
    (hr : 0 ≤ requested.toInt) (hm : contents.take format.magic.length = format.magic) :
    (∃ header, decode contents format requested = .ok header) ∨
      (∃ length, format.headerLength requested = .ok length ∧
        decode contents format requested = .error (.tooShort contents.length length)) ∨
      ∃ field, decode contents format requested = .error (.badSizeField field) := by
  obtain ⟨length, hl⟩ : ∃ length, format.headerLength requested = .ok length :=
    ⟨_, Format.headerLength_eq_ok_iff.mpr ⟨hr, rfl⟩⟩
  rw [decode_eq, hl]
  simp only [if_pos hm]
  by_cases hlen : contents.length < length
  · rw [if_pos hlen]
    exact .inr (.inl ⟨length, rfl, rfl⟩)
  · rw [if_neg hlen]
    cases readSize? format ((contents.take length).drop format.magic.length) with
    | some payloadSize => exact .inl ⟨_, rfl⟩
    | none => exact .inr (.inr ⟨_, rfl⟩)

namespace ImageTask

/-- A mark succeeds exactly on contents that begin with the magic. -/
theorem succeeds_markApplied_iff_magic {format : Format} {session : Session} :
    (markApplied format).Succeeds session ↔
      session.device.contents.take format.magic.length = format.magic := by
  rw [succeeds_markApplied_iff]
  constructor
  · intro h
    exact (Partition.markApplied_eq_ok_iff.mp h).1
  · intro h
    have hmark := Partition.markApplied_eq_ok_iff.mpr ⟨h, rfl⟩
    rw [after, run_markApplied, hmark]

/-- A mark succeeds exactly if a look finds a pending patch, a header that the contents cut off, or
a size field without a size. A mark that fails changes nothing at all; a look then finds a patch
that was applied, or none, or not even the bytes of a magic. -/
theorem mark_succeeds_iff (format : Format) {requested : Int64} (hr : 0 ≤ requested.toInt)
    (session : Session) :
    let contents := session.device.contents
    let seen := Partition.inspect contents format requested
    ((markApplied format).Succeeds session ↔
      (∃ header, seen = .ok (.pending header)) ∨
        (∃ length, format.headerLength requested = .ok length ∧
          seen = .error (.tooShort contents.length length)) ∨
        ∃ field, seen = .error (.badSizeField field)) ∧
    (¬(markApplied format).Succeeds session →
      (markApplied format).after session = session ∧
        (seen = .ok .applied ∨ seen = .ok .absent ∨
          seen = .error (.tooShort contents.length format.magic.length))) := by
  intro contents seen
  by_cases hm : contents.take format.magic.length = format.magic
  · have hs := succeeds_markApplied_iff_magic.mpr hm
    have hseen : seen = (Header.decode contents format requested).map Partition.State.pending :=
      Partition.inspect_of_magic requested hm
    refine ⟨iff_of_true hs ?_, fun hn ↦ absurd hs hn⟩
    rw [hseen]
    rcases Header.decode_of_magic hr hm with ⟨header, hd⟩ | ⟨length, hl, hd⟩ | ⟨field, hd⟩
    · exact .inl ⟨header, by rw [hd]; rfl⟩
    · exact .inr (.inl ⟨length, hl, by rw [hd]; rfl⟩)
    · exact .inr (.inr ⟨field, by rw [hd]; rfl⟩)
  · have hn : ¬(markApplied format).Succeeds session := mt succeeds_markApplied_iff_magic.mp hm
    have hseen : seen = _ := Partition.inspect_of_ne_magic requested hm
    have hstates : seen = .ok .applied ∨ seen = .ok .absent ∨
        seen = .error (.tooShort contents.length format.magic.length) := by
      rw [hseen]
      split
      · exact .inr (.inr rfl)
      · split
        · exact .inl rfl
        · exact .inr (.inl rfl)
    refine ⟨iff_of_false hn ?_, fun _ ↦ ⟨after_of_not_succeeds hn, hstates⟩⟩
    rintro (⟨header, h⟩ | ⟨length, hl, h⟩ | ⟨field, h⟩)
    · rcases hstates with h' | h' | h' <;> simp [h'] at h
    · have hlong := Format.magic_length_add_four_le hl
      rcases hstates with h' | h' | h' <;> simp [h'] at h
      omega
    · rcases hstates with h' | h' | h' <;> simp [h'] at h

/-- A size field of zeros is marked although no look finds a pending patch, and erased flash is
not. -/
theorem mark_succeeds_iff_without_digits :
    let unreadable : Session :=
      ⟨{ contents := "NEWPATCH".toList.map Char.toUInt8 ++ List.replicate 16 0 }, []⟩
    let erased : Session := ⟨{ contents := List.replicate 8 255 }, []⟩
    0 ≤ (0 : Int64).toInt ∧
      Partition.inspect unreadable.device.contents .hexText 0 =
        .error (.badSizeField (List.replicate 16 0)) ∧
      (markApplied .hexText).Succeeds unreadable ∧
      Partition.inspect erased.device.contents .hexText 0 = .ok .absent ∧
      (markApplied .hexText).after erased = erased := by
  intro unreadable erased
  have hr : 0 ≤ (0 : Int64).toInt := by decide
  have hunreadable : Partition.inspect unreadable.device.contents .hexText 0 =
      .error (.badSizeField (List.replicate 16 0)) := by decide
  have herased : Partition.inspect erased.device.contents .hexText 0 = .ok .absent := by decide
  have hmarked := (mark_succeeds_iff .hexText hr unreadable).1.mpr (.inr (.inr ⟨_, hunreadable⟩))
  have hrefused : ¬(markApplied .hexText).Succeeds erased :=
    mt succeeds_markApplied_iff_magic.mp (by decide)
  exact ⟨hr, hunreadable, hmarked, herased, ((mark_succeeds_iff .hexText hr erased).2 hrefused).1⟩

/-- A tag with nothing behind it is marked, which is no pending patch to a look. -/
theorem cut_header_marked :
    let contents := "NEWPATCH".toList.map Char.toUInt8
    0 ≤ (24 : Int64).toInt ∧
      Partition.inspect contents .hexText 24 = .error (.tooShort 8 24) ∧
      (¬∃ header, Partition.inspect contents .hexText 24 = .ok (.pending header)) ∧
      Partition.markApplied contents .hexText = .ok ("FFFFFFFF".toList.map Char.toUInt8) ∧
      (markApplied .hexText).Succeeds ⟨{ contents }, []⟩ := by
  intro contents
  have hcut : Partition.inspect contents .hexText 24 = .error (.tooShort 8 24) := by decide
  refine ⟨by decide, hcut, ?_, by decide, ⟨.done, by decide⟩⟩
  rw [hcut]
  simp

end ImageTask

end FlashPatch
