import FlashPatch.Proofs.Image.Effect
import FlashPatch.Proofs.Partition.State

/-!
# A patch is applied once

Without tasks that put headers in front of the contents, only a mark changes them, and what it
leaves begins with no magic of either format. So there is no second mark, and nothing is decoded
from then on. The device may fail its calls in any way.
-/

namespace FlashPatch.ImageTask

/-- What the task gives in the session. -/
def result (task : ImageTask) (session : Session) : Except PatchError ImageAnswer :=
  (task.perform.run.run session).1

/-! ## Single tasks -/

section Step

variable {task : ImageTask} {session : Session} {format : Format}

/-- The task to mark gives what marking the contents does. -/
theorem result_markApplied (format : Format) (session : Session) :
    (markApplied format).result session =
      ((Partition.markApplied session.device.contents format).mapError .header).map
        fun _ ↦ .done := by
  rw [result, run_markApplied]
  cases Partition.markApplied session.device.contents format <;> rfl

/-- A mark succeeds with the contents that it leaves. -/
theorem succeeds_markApplied_iff :
    (markApplied format).Succeeds session ↔
      Partition.markApplied session.device.contents format =
        .ok ((markApplied format).after session).device.contents := by
  rw [Succeeds, after, run_markApplied]
  cases Partition.markApplied session.device.contents format with
  | ok contents => simp
  | error cause => simp

/-- A failed mark changes nothing at all. -/
theorem after_of_not_succeeds (h : ¬(markApplied format).Succeeds session) :
    (markApplied format).after session = session := by
  rw [Succeeds, run_markApplied] at h
  rw [after, run_markApplied]
  cases hm : Partition.markApplied session.device.contents format with
  | ok contents => exact absurd ⟨_, by rw [hm]⟩ h
  | error cause => rfl

/-- A task that puts no header in front of the contents leaves them or marks them. -/
theorem contents_after_of_ne_prepend (h : ∀ config, task ≠ .prepend config) :
    (task.after session).device.contents = session.device.contents ∨
      ∃ format, Partition.markApplied session.device.contents format =
        .ok (task.after session).device.contents := by
  have heffect := effect_of_ne_prepend h session
  generalize (task.perform.run.run session).1 = result at heffect
  generalize (task.after session).device.contents = contents at heffect ⊢
  cases heffect with
  | prepended => exact absurd rfl (h _)
  | marked hm => exact .inr ⟨_, hm⟩
  | looked => exact .inl rfl
  | failed => exact .inl rfl

/-- No such task changes the length of the contents. -/
theorem length_after (h : ∀ config, task ≠ .prepend config) :
    (task.after session).device.contents.length = session.device.contents.length := by
  rcases contents_after_of_ne_prepend h with heq | ⟨format, hm⟩
  · rw [heq]
  · exact Partition.length_of_markApplied hm

/-- Marked contents stay as they are in such a task. -/
theorem contents_after_of_isMarked (h : ∀ config, task ≠ .prepend config)
    (hmarked : Partition.IsMarked session.device.contents format) :
    (task.after session).device.contents = session.device.contents := by
  rcases contents_after_of_ne_prepend h with heq | ⟨other, hm⟩
  · exact heq
  · exact absurd (Partition.markApplied_eq_ok_iff.mp hm).1 (hmarked.take_ne_magic other)

section Marked

variable (h : Partition.IsMarked session.device.contents format)
include h

/-- A look at marked contents finds a patch that was applied. -/
theorem result_inspect_of_isMarked (requested : Int64) :
    (inspect format requested).result session = .ok (.state .applied) := by
  rw [result, run_inspect, h.inspect_eq_applied]
  rfl

/-- A mark on marked contents fails at the magic or, for the longer one, at the length. -/
theorem result_markApplied_of_isMarked (other : Format) :
    (markApplied other).result session =
        .error (.header (.wrongMagic (session.device.contents.take other.magic.length)
          other.magic)) ∨
      other = .hexText ∧ (markApplied other).result session =
        .error (.header (.tooShort session.device.contents.length other.magic.length)) := by
  rw [result_markApplied]
  rcases h.markApplied_eq_error other with herror | ⟨hlong, herror⟩
  · exact .inl (by rw [herror]; rfl)
  · exact .inr ⟨hlong, by rw [herror]; rfl⟩

/-- Nothing is decoded from marked contents. -/
theorem not_succeeds_decode_of_isMarked (other : Format) (requested : Int64) :
    ¬(decode other requested).Succeeds session := by
  rintro ⟨answer, hanswer⟩
  rw [run_decode] at hanswer
  cases hdecode : Header.decode session.device.contents other requested with
  | ok header => exact h.decode_ne_ok other requested header hdecode
  | error cause => simp [hdecode, Except.mapError, Except.map] at hanswer

end Marked

end Step

/-! ## Runs -/

/-- The session after the first tasks of a run. -/
def sessionAt (tasks : List ImageTask) (start : Session) (i : Nat) : Session :=
  afterAll (tasks.take i) start

/-- The contents after the first tasks of a run. -/
def contentsAt (tasks : List ImageTask) (start : Session) (i : Nat) : List UInt8 :=
  (sessionAt tasks start i).device.contents

/-- Whether the task at the place in the run marks the contents in the format. -/
def MarksAt (tasks : List ImageTask) (start : Session) (i : Nat) (format : Format) : Prop :=
  tasks[i]? = some (markApplied format) ∧ (markApplied format).Succeeds (sessionAt tasks start i)

section Run

variable {tasks : List ImageTask} {start : Session} {i j : Nat} {format other : Format}

/-- One task more. -/
theorem sessionAt_succ {task : ImageTask} (h : tasks[i]? = some task) :
    sessionAt tasks start (i + 1) = task.after (sessionAt tasks start i) := by
  rw [sessionAt, List.take_add_one, h, afterAll, List.foldl_append]
  rfl

/-- Behind the last task nothing happens. -/
theorem sessionAt_succ_of_none (h : tasks[i]? = none) :
    sessionAt tasks start (i + 1) = sessionAt tasks start i := by
  rw [sessionAt, List.take_add_one, h]
  simp [sessionAt]

variable (h : ∀ config, .prepend config ∉ tasks)
include h

private theorem ne_prepend_of_getElem? {task : ImageTask} (htask : tasks[i]? = some task)
    (config : Config) : task ≠ .prepend config := by
  rintro rfl
  exact h config (List.mem_of_getElem? htask)

/-- Marked contents stay as they are to the end of the run. -/
theorem contentsAt_of_isMarked (hij : i ≤ j)
    (hmarked : Partition.IsMarked (contentsAt tasks start i) format) :
    contentsAt tasks start j = contentsAt tasks start i := by
  induction j, hij using Nat.le_induction with
  | base => rfl
  | succ j hij ih =>
    rw [← ih] at hmarked ⊢
    unfold contentsAt
    cases htask : tasks[j]? with
    | none => rw [sessionAt_succ_of_none htask]
    | some task =>
      rw [sessionAt_succ htask]
      exact contents_after_of_isMarked (ne_prepend_of_getElem? h htask) hmarked

/-- The length of the contents stays. -/
theorem length_contentsAt (i : Nat) :
    (contentsAt tasks start i).length = start.device.contents.length := by
  induction i with
  | zero => rfl
  | succ i ih =>
    rw [← ih, contentsAt, contentsAt]
    cases htask : tasks[i]? with
    | none => rw [sessionAt_succ_of_none htask]
    | some task =>
      rw [sessionAt_succ htask]
      exact length_after (ne_prepend_of_getElem? h htask)

/-- From a mark on the contents are marked. -/
theorem isMarked_of_marksAt (hmark : MarksAt tasks start i format) (hij : i < j) :
    Partition.IsMarked (contentsAt tasks start j) format := by
  have hmarked : Partition.IsMarked (contentsAt tasks start (i + 1)) format := by
    rw [contentsAt, sessionAt_succ hmark.1]
    exact Partition.isMarked_of_markApplied (succeeds_markApplied_iff.mp hmark.2)
  rw [contentsAt_of_isMarked h hij hmarked]
  exact hmarked

/-- There is no mark behind a mark. -/
theorem not_marksAt_of_marksAt (hmark : MarksAt tasks start i format) (hij : i < j) :
    ¬MarksAt tasks start j other := by
  intro hagain
  have hm := (Partition.markApplied_eq_ok_iff.mp (succeeds_markApplied_iff.mp hagain.2)).1
  exact (isMarked_of_marksAt h hmark hij).take_ne_magic other hm

/-- At most one task of the run marks the contents. -/
theorem marksAt_unique (hi : MarksAt tasks start i format) (hj : MarksAt tasks start j other) :
    i = j := by
  rcases Nat.lt_trichotomy i j with hij | rfl | hij
  · exact absurd hj (not_marksAt_of_marksAt h hi hij)
  · rfl
  · exact absurd hi (not_marksAt_of_marksAt h hj hij)

end Run

/-- In a run in which no header is put in front of the contents, at most one task marks them. From
then on every look in its format finds a patch that was applied, every mark fails at the magic or,
for the longer one, at the length, and nothing is decoded. The length of the contents stays, a
failed mark changes no byte, and one that succeeds changes only the bytes of its magic. -/
theorem applied_once {tasks : List ImageTask} (h : ∀ config, .prepend config ∉ tasks)
    (start : Session) :
    (∀ i j f g, MarksAt tasks start i f → MarksAt tasks start j g → i = j) ∧
    (∀ i f, MarksAt tasks start i f → ∀ j, i < j →
      (∀ requested, (inspect f requested).result (sessionAt tasks start j) =
        .ok (.state .applied)) ∧
      (∀ g, (markApplied g).result (sessionAt tasks start j) =
          .error (.header (.wrongMagic ((contentsAt tasks start j).take g.magic.length) g.magic)) ∨
        g = .hexText ∧ (markApplied g).result (sessionAt tasks start j) =
          .error (.header (.tooShort (contentsAt tasks start j).length g.magic.length))) ∧
      ∀ g requested, ¬(decode g requested).Succeeds (sessionAt tasks start j)) ∧
    (∀ i, (contentsAt tasks start i).length = start.device.contents.length) ∧
    ∀ i f, tasks[i]? = some (markApplied f) →
      (¬(markApplied f).Succeeds (sessionAt tasks start i) →
        contentsAt tasks start (i + 1) = contentsAt tasks start i) ∧
      ((markApplied f).Succeeds (sessionAt tasks start i) →
        (contentsAt tasks start (i + 1)).drop f.magic.length =
          (contentsAt tasks start i).drop f.magic.length) := by
  refine ⟨fun i j f g ↦ marksAt_unique h, ?_, length_contentsAt h, ?_⟩
  · intro i f hmark j hij
    have hmarked := isMarked_of_marksAt h hmark hij
    exact ⟨result_inspect_of_isMarked hmarked, result_markApplied_of_isMarked hmarked,
      not_succeeds_decode_of_isMarked hmarked⟩
  · intro i f htask
    rw [contentsAt, contentsAt, sessionAt_succ htask]
    constructor
    · intro hfail
      rw [after_of_not_succeeds hfail]
    · intro hsucceed
      exact Partition.drop_of_markApplied (succeeds_markApplied_iff.mp hsucceed)

/-- A mark that is shorter than the tag in front of the contents, and a second one. -/
theorem applied_once_prefix :
    let tasks : List ImageTask :=
      [.readHeader .hexText 0, .markApplied .binary, .markApplied .hexText, .seek 4]
    let start : Session := ⟨{ contents := "NEWPATCH".toList.map Char.toUInt8 }, []⟩
    MarksAt tasks start 1 .binary ∧ (∀ i f, MarksAt tasks start i f → i = 1) ∧
      (inspect .binary 8).result (sessionAt tasks start 3) = .ok (.state .applied) ∧
      contentsAt tasks start 4 = "FFFFATCH".toList.map Char.toUInt8 := by
  intro tasks start
  have hmark : MarksAt tasks start 1 .binary := ⟨rfl, .done, by decide +kernel⟩
  have hnone : ∀ config, .prepend config ∉ tasks := by simp [tasks]
  obtain ⟨honce, hlater, -, -⟩ := applied_once hnone start
  refine ⟨hmark, fun i f hi ↦ honce i 1 f .binary hi hmark, ?_, by decide +kernel⟩
  exact (hlater 1 .binary hmark 3 (by decide)).1 8

end FlashPatch.ImageTask
