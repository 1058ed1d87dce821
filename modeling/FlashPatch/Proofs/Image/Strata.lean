import FlashPatch.Proofs.Image.Effect

/-!
# The strata of an image

However often headers are put in front of an image and whatever else is done to it, the contents are
made of the headers, the last one on top, and the first contents below them. Of such a stratum only
the magic is overwritten, exactly if a mark was made while the stratum was on top.
-/

namespace FlashPatch

open ImageTask

/-! ## Layers -/

/-- A header that was put in front of an image, and the settings for it. -/
structure Layer where
  /-- The settings. -/
  config : Config
  /-- The header. -/
  header : EncodedHeader
deriving DecidableEq, Repr

namespace ImageTask

/-- The header that a task puts in front of the image, if it succeeds in that. -/
def layer? (task : ImageTask) (session : Session) : Option Layer :=
  match task, (task.perform.run.run session).1 with
  | prepend config, .ok _ =>
    match config.encode (UInt64.ofNat session.device.contents.length) with
    | .ok header => some { config, header }
    | .error _ => none
  | _, _ => none

/-- On a steady device, a header that can be written is put in front of the image. -/
theorem layer?_of_encode {config : Config} {session : Session} {header : EncodedHeader}
    (hs : session.device.Steady)
    (he : config.encode (UInt64.ofNat session.device.contents.length) = .ok header) :
    (prepend config).layer? session = some ⟨config, header⟩ := by
  obtain ⟨answer, hr⟩ := (succeeds_prepend_iff hs).mpr ⟨header, he⟩
  simp only [layer?, hr, he]

/-- The headers that tasks put in front of the image, the last one first. -/
def layers : List ImageTask → Session → List Layer
  | [], _ => []
  | task :: tasks, session => layers tasks (task.after session) ++ (task.layer? session).toList

/-- A task after others. -/
theorem afterAll_append_singleton (tasks : List ImageTask) (task : ImageTask)
    (session : Session) :
    afterAll (tasks ++ [task]) session = task.after (afterAll tasks session) := by
  rw [afterAll, List.foldl_append]
  rfl

/-- The headers of later tasks come on top. -/
theorem layers_append (first second : List ImageTask) (session : Session) :
    layers (first ++ second) session =
      layers second (afterAll first session) ++ layers first session := by
  induction first generalizing session with
  | nil => simp [layers, afterAll]
  | cons task first ih =>
    rw [List.cons_append, layers, ih, layers, List.append_assoc]
    rfl

/-- The last task puts its header on top. -/
theorem layers_append_singleton (tasks : List ImageTask) (task : ImageTask) (session : Session) :
    layers (tasks ++ [task]) session =
      (task.layer? (afterAll tasks session)).toList ++ layers tasks session :=
  layers_append tasks [task] session

/-- Tasks leave a steady device steady. -/
theorem steady_afterAll (tasks : List ImageTask) {session : Session}
    (hs : session.device.Steady) : (afterAll tasks session).device.Steady := by
  induction tasks generalizing session with
  | nil => exact hs
  | cons task tasks ih => exact ih (steady_after task hs)

end ImageTask

/-! ## Strata -/

/-- What was put on an image at once, and the format in which it was marked as applied. -/
structure Stratum where
  /-- The bytes as they were put there. -/
  original : List UInt8
  /-- The format of the mark, if there is one. -/
  mark : Option Format := none
deriving DecidableEq, Repr

/-- The bytes of a stratum: as they were put there, but for the magic if it is marked. -/
def Stratum.bytes (stratum : Stratum) : List UInt8 :=
  match stratum.mark with
  | none => stratum.original
  | some format =>
    List.replicate format.magic.length Partition.appliedFill ++
      stratum.original.drop format.magic.length

/-- Whether one of the tasks marked the image in the format, while just the given layers were on
it. -/
def MarkedUnder (tasks : List ImageTask) (start : Session) (format : Format)
    (below : List Layer) : Prop :=
  ∃ front back, tasks = front ++ markApplied format :: back ∧
    (markApplied format).Succeeds (afterAll front start) ∧ layers front start = below

/-- Whether each header was written for the length of all that is below it. -/
def Stacked (first : List UInt8) : List Layer → Prop
  | [] => True
  | layer :: below =>
    layer.config.encode (UInt64.ofNat (below.flatMap (·.header.bytes) ++ first).length) =
        .ok layer.header ∧
      Stacked first below

/-- The strata of an image after some tasks. -/
structure Stratified (start : Session) (tasks : List ImageTask) (strata : List Stratum) :
    Prop where
  /-- The strata are the headers, the last one on top, and what was there at first. -/
  originals : strata.map Stratum.original =
    (layers tasks start).map (·.header.bytes) ++ [start.device.contents]
  /-- The strata make up the contents. -/
  contents : (afterAll tasks start).device.contents = strata.flatMap Stratum.bytes
  /-- The headers give the lengths of what they were put on. -/
  stacked : Stacked start.device.contents (layers tasks start)
  /-- A marked stratum began with the magic. -/
  magics : ∀ stratum ∈ strata, ∀ format, stratum.mark = some format →
    stratum.original.take format.magic.length = format.magic
  /-- A stratum is marked exactly if that was done while it was on top. -/
  marks : ∀ (i : Nat) (stratum : Stratum), strata[i]? = some stratum → ∀ format,
    stratum.mark = some format ↔ MarkedUnder tasks start format ((layers tasks start).drop i)

namespace Stratified

variable {start : Session} {tasks : List ImageTask} {strata : List Stratum}

/-- Marks do not change the length of a stratum. -/
theorem length_bytes (h : Stratified start tasks strata) {stratum : Stratum}
    (hmem : stratum ∈ strata) : stratum.bytes.length = stratum.original.length := by
  unfold Stratum.bytes
  split
  · rfl
  · next format hmark =>
    have hlen := congrArg List.length (h.magics stratum hmem format hmark)
    rw [List.length_take] at hlen
    rw [List.length_append, List.length_replicate, List.length_drop]
    omega

/-- The strata without their marks are the headers and what was there at first. -/
theorem flatMap_original (h : Stratified start tasks strata) :
    strata.flatMap Stratum.original =
      (layers tasks start).flatMap (·.header.bytes) ++ start.device.contents := by
  rw [List.flatMap_def, h.originals, List.flatten_append, ← List.flatMap_def,
    List.flatten_singleton]

/-- The contents are as long as all headers and the first contents together. -/
theorem length_contents (h : Stratified start tasks strata) :
    (afterAll tasks start).device.contents.length =
      ((layers tasks start).flatMap (·.header.bytes) ++ start.device.contents).length := by
  rw [h.contents, ← h.flatMap_original, List.length_flatMap, List.length_flatMap]
  congr 1
  exact List.map_congr_left fun stratum hmem ↦ h.length_bytes hmem

/-- There is one stratum more than headers. -/
theorem length_strata (h : Stratified start tasks strata) :
    strata.length = (layers tasks start).length + 1 := by
  have hlen := congrArg List.length h.originals
  rwa [List.length_map, List.length_append, List.length_map] at hlen

end Stratified

/-! ## Marks -/

section Marks

variable {start : Session} {tasks : List ImageTask} {task : ImageTask} {format : Format}
  {below : List Layer}

/-- A mark in a run is one made before its last task, or that task. -/
theorem markedUnder_append_singleton_iff :
    MarkedUnder (tasks ++ [task]) start format below ↔
      MarkedUnder tasks start format below ∨
        task = markApplied format ∧ task.Succeeds (afterAll tasks start) ∧
          layers tasks start = below := by
  constructor
  · rintro ⟨front, back, htasks, hsucceeds, hbelow⟩
    rcases List.eq_nil_or_concat back with rfl | ⟨between, last, rfl⟩
    · obtain ⟨rfl, hlast⟩ := List.append_inj' htasks rfl
      obtain rfl := (List.cons.inj hlast).1
      exact .inr ⟨rfl, hsucceeds, hbelow⟩
    · rw [List.concat_eq_append, ← List.cons_append, ← List.append_assoc] at htasks
      obtain ⟨rfl, -⟩ := List.append_inj' htasks rfl
      exact .inl ⟨front, between, rfl, hsucceeds, hbelow⟩
  · rintro (⟨front, back, rfl, hsucceeds, hbelow⟩ | ⟨rfl, hsucceeds, hbelow⟩)
    · exact ⟨front, back ++ [task], by simp, hsucceeds, hbelow⟩
    · exact ⟨tasks, [], rfl, hsucceeds, hbelow⟩

/-- A last task that is not a mark with a result adds none. -/
theorem markedUnder_append_singleton_of_unmarked
    (h : ∀ format, task = markApplied format → ¬task.Succeeds (afterAll tasks start)) :
    MarkedUnder (tasks ++ [task]) start format below ↔ MarkedUnder tasks start format below := by
  rw [markedUnder_append_singleton_iff, or_iff_left]
  exact fun hlast ↦ h format hlast.1 hlast.2.1

/-- No more headers were below a mark than there are in the end. -/
theorem MarkedUnder.length_le (h : MarkedUnder tasks start format below) :
    below.length ≤ (layers tasks start).length := by
  obtain ⟨front, back, rfl, -, rfl⟩ := h
  rw [layers_append, List.length_append]
  exact Nat.le_add_left _ _

end Marks

/-! ## Steps -/

/-- At first there is one stratum. -/
theorem stratified_nil (start : Session) :
    Stratified start [] [{ original := start.device.contents }] where
  originals := rfl
  contents := by simp [afterAll, Stratum.bytes]
  stacked := trivial
  magics := by simp
  marks := by
    intro i stratum hi format
    obtain rfl : stratum = { original := start.device.contents } := by
      simpa using List.mem_of_getElem? hi
    simp [MarkedUnder]

namespace Stratified

variable {start : Session} {tasks : List ImageTask} {strata : List Stratum} {task : ImageTask}

/-- A task that changes nothing keeps the strata. -/
theorem unchanged (h : Stratified start tasks strata)
    (hlayer : task.layer? (afterAll tasks start) = none)
    (hunmarked : ∀ format, task = markApplied format → ¬task.Succeeds (afterAll tasks start))
    (hcontents : (task.after (afterAll tasks start)).device.contents =
      (afterAll tasks start).device.contents) :
    Stratified start (tasks ++ [task]) strata := by
  have hlayers : layers (tasks ++ [task]) start = layers tasks start := by
    rw [layers_append_singleton, hlayer]
    rfl
  constructor
  case originals => rw [hlayers, h.originals]
  case contents => rw [afterAll_append_singleton, hcontents, h.contents]
  case stacked => rw [hlayers]; exact h.stacked
  case magics => exact h.magics
  case marks =>
    intro i stratum hi format
    rw [hlayers, markedUnder_append_singleton_of_unmarked hunmarked]
    exact h.marks i stratum hi format

/-- A header is put on top. -/
theorem prepended {config : Config} {header : EncodedHeader} (h : Stratified start tasks strata)
    (hlayer : (prepend config).layer? (afterAll tasks start) = some ⟨config, header⟩)
    (hencode : config.encode
      (UInt64.ofNat (afterAll tasks start).device.contents.length) = .ok header)
    (hcontents : ((prepend config).after (afterAll tasks start)).device.contents =
      header.bytes ++ (afterAll tasks start).device.contents) :
    Stratified start (tasks ++ [prepend config]) ({ original := header.bytes } :: strata) := by
  have hlayers : layers (tasks ++ [prepend config]) start =
      ⟨config, header⟩ :: layers tasks start := by
    rw [layers_append_singleton, hlayer]
    rfl
  constructor
  case originals => rw [hlayers, List.map_cons, h.originals, List.map_cons, List.cons_append]
  case contents =>
    rw [afterAll_append_singleton, hcontents, h.contents, List.flatMap_cons]
    rfl
  case stacked =>
    rw [hlayers]
    refine ⟨?_, h.stacked⟩
    rw [← h.length_contents]
    exact hencode
  case magics => exact List.forall_mem_cons.mpr ⟨by simp, h.magics⟩
  case marks =>
    intro i stratum hi format
    rw [hlayers, markedUnder_append_singleton_of_unmarked (by simp)]
    cases i with
    | zero =>
      obtain rfl := Option.some.inj hi
      -- The new header was below no mark, for there are fewer headers below every earlier one.
      have hnone : ¬MarkedUnder tasks start format (⟨config, header⟩ :: layers tasks start) :=
        fun hunder ↦ absurd hunder.length_le (by simp)
      simpa using hnone
    | succ i => exact h.marks i stratum hi format

private theorem magic_length_le_top {format : Format} {top : Stratum} {rest : List Stratum}
    (h : Stratified start tasks (top :: rest)) (hnext : rest ≠ []) :
    format.magic.length ≤ top.original.length := by
  have horiginals := h.originals
  have hstacked := h.stacked
  cases hl : layers tasks start with
  | nil =>
    rw [hl] at horiginals
    simp [hnext] at horiginals
  | cons layer below =>
    rw [hl] at horiginals hstacked
    rw [(List.cons.inj horiginals).1]
    exact Format.magic_length_le format (Header.headerLength_of_encode hstacked.1)

/-- Contents that can be marked begin with a stratum that has no mark and holds the whole magic. -/
theorem top_of_markApplied {format : Format} {marked : List UInt8}
    (h : Stratified start tasks strata)
    (hmark : Partition.markApplied (afterAll tasks start).device.contents format = .ok marked) :
    ∃ original rest, strata = { original } :: rest ∧
      original.take format.magic.length = format.magic ∧
      marked = List.replicate format.magic.length Partition.appliedFill ++
        original.drop format.magic.length ++ rest.flatMap Stratum.bytes := by
  obtain ⟨hmagic, rfl⟩ := Partition.markApplied_eq_ok_iff.mp hmark
  obtain ⟨⟨original, mark⟩, rest, rfl⟩ : ∃ top rest, strata = top :: rest := by
    apply List.exists_cons_of_ne_nil
    rintro rfl
    simpa using h.originals
  rw [h.contents, List.flatMap_cons] at hmagic ⊢
  cases mark with
  | some earlier =>
    exfalso
    simp only [Stratum.bytes, List.append_assoc] at hmagic
    exact Partition.take_appliedFill_ne_magic earlier format _ hmagic
  | none =>
    have hlen : format.magic.length ≤ original.length := by
      cases rest with
      | nil =>
        have := congrArg List.length hmagic
        simp only [Stratum.bytes, List.flatMap_nil, List.append_nil, List.length_take] at this
        omega
      | cons next rest => exact h.magic_length_le_top (List.cons_ne_nil next rest)
    simp only [Stratum.bytes] at hmagic ⊢
    rw [List.take_append_of_le_length hlen] at hmagic
    refine ⟨original, rest, rfl, hmagic, ?_⟩
    rw [List.drop_append_of_le_length hlen, List.append_assoc]

/-- The top is marked. -/
theorem marked {format : Format} (h : Stratified start tasks strata)
    (hsucceeds : (markApplied format).Succeeds (afterAll tasks start))
    (hmark : Partition.markApplied (afterAll tasks start).device.contents format =
      .ok ((markApplied format).after (afterAll tasks start)).device.contents) :
    ∃ strata, Stratified start (tasks ++ [markApplied format]) strata := by
  obtain ⟨original, rest, rfl, hmagic, hcontents⟩ := h.top_of_markApplied hmark
  have hlayers : layers (tasks ++ [markApplied format]) start = layers tasks start :=
    layers_append_singleton tasks (markApplied format) start
  refine ⟨{ original, mark := some format } :: rest, ?_⟩
  constructor
  case originals => rw [hlayers, ← h.originals, List.map_cons, List.map_cons]
  case contents =>
    rw [afterAll_append_singleton, hcontents, List.flatMap_cons]
    rfl
  case stacked => rw [hlayers]; exact h.stacked
  case magics =>
    refine List.forall_mem_cons.mpr ⟨?_, fun stratum hmem ↦ h.magics stratum (.tail _ hmem)⟩
    rintro earlier ⟨⟩
    exact hmagic
  case marks =>
    intro i stratum hi other
    rw [hlayers, markedUnder_append_singleton_iff]
    cases i with
    | zero =>
      obtain rfl := Option.some.inj hi
      have hnone : ¬MarkedUnder tasks start other (layers tasks start) :=
        fun hunder ↦ absurd ((h.marks 0 { original } rfl other).mpr hunder) (by simp)
      simp [hnone, hsucceeds]
    | succ i =>
      have hlt : i + 1 < (layers tasks start).length + 1 := by
        rw [← h.length_strata]
        exact (List.getElem?_eq_some_iff.mp hi).1
      have hbelow : layers tasks start ≠ (layers tasks start).drop (i + 1) := by
        intro heq
        have hlen := congrArg List.length heq
        rw [List.length_drop] at hlen
        omega
      rw [or_iff_left fun hlast ↦ hbelow hlast.2.2]
      exact h.marks (i + 1) stratum hi other

end Stratified

/-- Whatever is done to an image on a steady device, it keeps its strata. -/
theorem exists_stratified {start : Session} (hs : start.device.Steady) (tasks : List ImageTask) :
    ∃ strata, Stratified start tasks strata := by
  induction tasks using List.reverseRecOn with
  | nil => exact ⟨_, stratified_nil start⟩
  | append_singleton tasks task ih =>
    obtain ⟨strata, h⟩ := ih
    have hsteady := steady_afterAll tasks hs
    have heffect := effect_perform task hsteady
    generalize hr : (task.perform.run.run (afterAll tasks start)).1 = result at heffect
    generalize hc : (task.after (afterAll tasks start)).device.contents = contents at heffect
    cases heffect with
    | prepended he =>
      next config header answer =>
      exact ⟨_, h.prepended (layer?_of_encode hsteady he) he hc⟩
    | marked hm =>
      next format answer =>
      exact h.marked ⟨answer, hr⟩ (by rw [hc]; exact hm)
    | looked hp hm =>
      refine ⟨strata, h.unchanged ?_ (fun format he ↦ absurd he (hm format)) hc⟩
      cases task with
      | prepend config => exact absurd rfl (hp config)
      | _ => rfl
    | failed =>
      refine ⟨strata, h.unchanged (by simp only [layer?, hr]) ?_ hc⟩
      rintro format - ⟨answer, hok⟩
      simp [hr] at hok

end FlashPatch
