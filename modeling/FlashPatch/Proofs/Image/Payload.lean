import FlashPatch.Proofs.Image.Strata
import Mathlib.Algebra.Ring.Nat

/-!
# The payload of an image

Nothing that was put on an image is lost, whatever is done to it: each header and the first contents
are still there, but for the magics that were overwritten by marks. As long as nothing was marked,
the headers can be taken off again one by one, and the first contents are left.
-/

namespace FlashPatch

open ImageTask

/-! ## Taking headers off -/

/-- Whether the contents are headers for the given settings, each with the length of all that
follows it, and then the last contents. -/
inductive Unwraps (last : List UInt8) : List Config → List UInt8 → Prop
  | done : Unwraps last [] last
  | next {config : Config} {configs : List Config} {contents : List UInt8} {header : Header}
      (decoded : Header.decode contents config.format config.headerSize = .ok header)
      (payload : header.payloadSize.toNat = (contents.drop header.size).length)
      (behind : Unwraps last configs (contents.drop header.size)) :
      Unwraps last (config :: configs) contents

/-- Headers that were written for all below them can be taken off one by one. -/
theorem unwraps_of_stacked {first : List UInt8} {layers : List Layer} (h : Stacked first layers)
    (hlen : (layers.flatMap (·.header.bytes) ++ first).length < 2 ^ 64) :
    Unwraps first (layers.map (·.config)) (layers.flatMap (·.header.bytes) ++ first) := by
  induction layers with
  | nil => exact .done
  | cons layer below ih =>
    obtain ⟨hencode, hbelow⟩ := h
    rw [List.flatMap_cons, List.append_assoc] at hlen ⊢
    rw [List.length_append] at hlen
    have hrest : (below.flatMap (·.header.bytes) ++ first).length < 2 ^ 64 := by omega
    have hdrop : (layer.header.bytes ++ (below.flatMap (·.header.bytes) ++ first)).drop
        layer.header.bytes.length = below.flatMap (·.header.bytes) ++ first := List.drop_left
    refine .next (Header.decode_of_encode _ hencode rfl) ?_ ?_
    · rw [hdrop]
      exact UInt64.toNat_ofNat_of_lt' hrest
    · rw [hdrop]
      exact ih hbelow hrest

/-! ## Runs -/

namespace Stratified

variable {start : Session} {tasks : List ImageTask} {strata : List Stratum}

/-- Where no task marked the image, the strata are as they were put there. -/
theorem contents_of_unmarked (h : Stratified start tasks strata)
    (hunmarked : ∀ front format back, tasks = front ++ markApplied format :: back →
      ¬(markApplied format).Succeeds (afterAll front start)) :
    (afterAll tasks start).device.contents =
      (layers tasks start).flatMap (·.header.bytes) ++ start.device.contents := by
  rw [h.contents, ← h.flatMap_original, List.flatMap_def, List.flatMap_def]
  congr 1
  apply List.map_congr_left
  intro stratum hmem
  obtain ⟨i, hi⟩ := List.mem_iff_getElem?.mp hmem
  cases hmark : stratum.mark with
  | none => rw [Stratum.bytes, hmark]
  | some format =>
    obtain ⟨front, back, htasks, hsucceeds, -⟩ := (h.marks i stratum hi format).mp hmark
    exact absurd hsucceeds (hunmarked front format back htasks)

end Stratified

/-- No byte of an image is lost in any run of tasks. A header is put in front exactly if it can be
written, and that is then all that happens. In the end the length is that of the first contents and
all headers together, and the contents consist of just these, the last header on top. Of one of them
only the magic at its start is overwritten, and that exactly if a mark was made while it was on top.
A task without a result changes nothing. If nothing was marked, decoding with the settings of the
headers, the last one first, finds in front of each payload its length, and in the end the first
contents. -/
theorem image_keeps_payload (contents : List UInt8) (position : Nat) (tasks : List ImageTask) :
    let start : Session := ⟨{ contents, position }, []⟩
    let layers := ImageTask.layers tasks start
    let final := (afterAll tasks start).device.contents
    (∀ front config back, tasks = front ++ prepend config :: back →
      let before := (afterAll front start).device.contents
      ((prepend config).Succeeds (afterAll front start) ↔
          ∃ header, config.encode (UInt64.ofNat before.length) = .ok header) ∧
        ∀ header, config.encode (UInt64.ofNat before.length) = .ok header →
          (prepend config).layer? (afterAll front start) = some ⟨config, header⟩ ∧
            ((prepend config).after (afterAll front start)).device.contents =
              header.bytes ++ before) ∧
    final.length = contents.length + (layers.map (·.header.bytes.length)).sum ∧
    (∃ strata : List Stratum,
      strata.map Stratum.original = layers.map (·.header.bytes) ++ [contents] ∧
      final = strata.flatMap Stratum.bytes ∧
      (∀ i stratum, strata[i]? = some stratum → ∀ format,
        stratum.mark = some format ↔ MarkedUnder tasks start format (layers.drop i)) ∧
      ∀ stratum ∈ strata, ∀ format, stratum.mark = some format →
        stratum.original.take format.magic.length = format.magic) ∧
    (∀ front task back, tasks = front ++ task :: back → ¬task.Succeeds (afterAll front start) →
      (task.after (afterAll front start)).device.contents =
        (afterAll front start).device.contents) ∧
    ((∀ front format back, tasks = front ++ markApplied format :: back →
        ¬(markApplied format).Succeeds (afterAll front start)) →
      final.length < 2 ^ 63 → Unwraps contents (layers.map (·.config)) final) := by
  intro start layers final
  have hs : start.device.Steady := ⟨rfl, rfl⟩
  obtain ⟨strata, h⟩ := exists_stratified hs tasks
  refine ⟨?_, ?_, ⟨strata, h.originals, h.contents, h.marks, h.magics⟩, ?_, ?_⟩
  · intro front config back _ before
    have hfront := steady_afterAll front hs
    refine ⟨succeeds_prepend_iff hfront, fun header he ↦ ?_⟩
    exact ⟨layer?_of_encode hfront he, contents_of_encode hfront he⟩
  · rw [h.length_contents, List.length_append, List.length_flatMap, Nat.add_comm]
  · intro front task back _ hfails
    exact contents_of_not_succeeds (steady_afterAll front hs) hfails
  · intro hunmarked hlen
    have hfinal : final = layers.flatMap (·.header.bytes) ++ contents :=
      h.contents_of_unmarked hunmarked
    rw [hfinal] at hlen ⊢
    exact unwraps_of_stacked h.stacked (Nat.lt_trans hlen (by decide))

/-- Two headers in front of two bytes, and a look for a third one that fails. -/
theorem image_keeps_payload_wrapped_twice :
    let binary : Config := ⟨.binary, 5, 100⟩
    let hexText : Config := ⟨.hexText, 0, 20⟩
    let tasks : List ImageTask := [.prepend binary, .readHeader .hexText 0, .prepend hexText]
    let final := (afterAll tasks ⟨{ contents := [1, 2], position := 1 }, []⟩).device.contents
    final = "NEWPATCH0x0000000000000a".toList.map Char.toUInt8 ++
        [78, 69, 87, 80, 2, 0, 0, 0, 1, 2] ∧
      Unwraps [1, 2] [hexText, binary] final := by
  intro binary hexText tasks final
  have hfinal : final = "NEWPATCH0x0000000000000a".toList.map Char.toUInt8 ++
      [78, 69, 87, 80, 2, 0, 0, 0, 1, 2] := by decide +kernel
  have hlen : final.length < 2 ^ 63 := by
    rw [hfinal]
    decide
  have hconfigs : (layers tasks ⟨{ contents := [1, 2], position := 1 }, []⟩).map (·.config) =
      [hexText, binary] := by decide +kernel
  obtain ⟨-, -, -, -, hunwraps⟩ := image_keeps_payload [1, 2] 1 tasks
  rw [hconfigs] at hunwraps
  refine ⟨hfinal, hunwraps ?_ hlen⟩
  intro front format back htasks
  have hmem : markApplied format ∈ tasks := by simp [htasks]
  simp [tasks] at hmem

end FlashPatch
