import FlashPatch.Proofs.Storage.Directory
import FlashPatch.Proofs.Workspace.Effect

/-!
# What tasks on files leave alone

A task stores at most one file: a preparation the one it was given, with all its old bytes behind a
header, and an agreed promotion its source image, as a copy of the flashed one. Every other file
stays as it is, in every run of tasks, whatever the file system refuses on the way. A promotion asks
once, before anything else.
-/

namespace FlashPatch

namespace FileTask

section Conditions

variable {Tree File : Type} (fs : FileSystem Tree File)

/-- Whether a promotion leads to two files. -/
def Separate (tree : Tree) : FileTask → Prop
  | promote flashed source _ =>
    ∀ file, fs.resolve tree flashed = some file → fs.resolve tree source ≠ some file
  | prepare _ _ | readHeader _ _ _ => True

instance [DecidableEq File] (tree : Tree) (task : FileTask) : Decidable (task.Separate fs tree) :=
  match task with
  | promote flashed source _ =>
    decidable_of_iff (∀ file ∈ fs.resolve tree flashed, fs.resolve tree source ≠ some file)
      Iff.rfl
  | prepare _ _ | readHeader _ _ _ => isTrue trivial

instance [DecidableEq File] (tree : Tree) (file : File) (task : FileTask) :
    Decidable (task.Replaces fs tree file) :=
  match task with
  | promote _ _ _ => inferInstanceAs (Decidable (_ ∧ _ ∧ _))
  | prepare _ _ | readHeader _ _ _ => isFalse id

end Conditions

variable {Tree File : Type} {fs : FileSystem Tree File}

/-! ## Single tasks -/

namespace Effect

variable {before after : Tree} {task : FileTask} {result : Except PatchError FileAnswer}
  {file : File}

/-- A task has a result exactly if it can be carried out. -/
theorem succeeds_iff (h : Effect fs before task result after) :
    (∃ answer, result = .ok answer) ↔ task.Possible fs before := by
  cases h with
  | prepared opened found encoded =>
    exact iff_of_true ⟨_, rfl⟩ ⟨_, _, _, opened, found, encoded⟩
  | promoted agreed opened replaced =>
    exact iff_of_true ⟨_, rfl⟩ fun _ ↦ ⟨_, _, opened, replaced⟩
  | declined disagreed =>
    apply iff_of_true ⟨_, rfl⟩
    intro agreed
    simp [disagreed] at agreed
  | looked possible => exact iff_of_true ⟨_, rfl⟩ possible
  | failed impossible =>
    apply iff_of_false _ impossible
    simp

/-- A file that is not replaced is kept. -/
theorem keeps (h : Effect fs before task result after) (hkept : ¬task.Replaces fs before file) :
    fs.Keeps file before after := by
  cases h with
  | @prepared _ _ place contents header _ opened found encoded written others =>
    by_cases hfile : file = place
    · subst hfile
      constructor
      · intro old hold
        obtain rfl := Option.some.inj (found.symm.trans hold)
        exact ⟨_, written, List.suffix_append _ _⟩
      · intro hvacant
        simp [found] at hvacant
    · exact others.keeps hfile
  | promoted agreed opened replaced leads copied emptied others =>
    apply others.keeps
    rintro rfl
    exact hkept ⟨agreed, Option.isSome_of_mem opened, replaced⟩
  | declined => exact (FileSystem.Agree.refl before).keeps
  | looked possible same => exact same.keeps
  | failed impossible same => exact same.keeps

/-- Every path to a file that is there leads to it still. -/
theorem paths {text : String} (h : Effect fs before task result after)
    (hleads : fs.LeadsTo before text file) : fs.LeadsTo after text file := by
  cases h with
  | prepared opened found encoded written others => exact others.paths text file hleads
  | promoted agreed opened replaced leads copied emptied others =>
    exact others.paths text file hleads
  | declined => exact hleads
  | looked possible same => exact same.leadsTo hleads
  | failed impossible same => exact same.leadsTo hleads

/-- Without a result nothing changes. -/
theorem of_error {cause : PatchError} (h : Effect fs before task (.error cause) after) :
    fs.Agree before after := by
  cases h with
  | failed impossible same => exact same

/-- A look at a header changes nothing. -/
theorem of_readHeader {text : String} {format : Format} {requested : Int64}
    (h : Effect fs before (.readHeader text format requested) result after) :
    fs.Agree before after := by
  cases h with
  | looked possible same => exact same
  | failed impossible same => exact same

/-- A declined promotion succeeds and changes nothing. -/
theorem of_declined {flashed source : String} {answer : String → Bool}
    (h : Effect fs before (.promote flashed source answer) result after)
    (disagreed : answer (promotionPrompt flashed source) = false) :
    result = .ok (.promoted false) ∧ after = before := by
  cases h with
  | promoted agreed => simp [disagreed] at agreed
  | declined => exact ⟨rfl, rfl⟩
  | failed impossible =>
    apply absurd _ impossible
    intro agreed
    simp [disagreed] at agreed

/-- A preparation with a result put a header in front of one file. -/
theorem of_prepare {text : String} {config : Config} {answer : FileAnswer} (laws : fs.Lawful)
    (h : Effect fs before (.prepare text config) (.ok answer) after) :
    ∃ file contents header, fs.Holds before text file contents ∧
      config.encode (UInt64.ofNat contents.length) = .ok header ∧
      fs.Holds after text file (header.bytes ++ contents) ∧ fs.AgreeExcept file before after := by
  cases h with
  | @prepared _ _ file contents header _ opened found encoded written others =>
    have hbefore : fs.Holds before text file contents :=
      ⟨laws.resolve_of_opened? opened, found⟩
    have hafter := others.paths text file hbefore.leadsTo
    exact ⟨file, contents, header, hbefore, encoded, ⟨hafter.1, written⟩, others⟩

/-- An agreed promotion with a result stored the flashed image as the source image. -/
theorem of_promote {flashed source : String} {answer : String → Bool} {reply : FileAnswer}
    (laws : fs.Lawful) (h : Effect fs before (.promote flashed source answer) (.ok reply) after)
    (agreed : answer (promotionPrompt flashed source) = true)
    (separate : (promote flashed source answer).Separate fs before) :
    reply = .promoted true ∧ ∃ file copy contents,
      fs.Holds before flashed file contents ∧ fs.resolve before source = some copy ∧
      copy ≠ file ∧ fs.Holds after source copy contents ∧ fs.Holds after flashed file contents ∧
      fs.AgreeExcept copy before after := by
  cases h with
  | declined disagreed => simp [disagreed] at agreed
  | @promoted _ _ _ file copy _ _ opened replaced leads copied emptied others =>
    have hflashed := laws.resolve_of_opened? opened
    have hsource := laws.resolve_of_replaced replaced
    have hne : copy ≠ file := by
      rintro rfl
      exact separate copy hflashed hsource
    obtain ⟨contents, hfound⟩ := laws.exists_contents opened rfl
    have hbefore : fs.Holds before flashed file contents := ⟨hflashed, hfound⟩
    have hafter := others.paths flashed file hbefore.leadsTo
    exact ⟨rfl, file, copy, contents, hbefore, hsource, hne,
      ⟨leads, (copied hne).trans hfound⟩,
      ⟨hafter.1, (others.contents file hne.symm).trans hfound⟩, others⟩

/-- A flashed image that is promoted to its own place loses all its bytes: the place is emptied
before they are read. -/
theorem of_promote_self {flashed source : String} {answer : String → Bool} {reply : FileAnswer}
    (laws : fs.Lawful) (h : Effect fs before (.promote flashed source answer) (.ok reply) after)
    (agreed : answer (promotionPrompt flashed source) = true)
    (hflashed : fs.resolve before flashed = some file)
    (hsource : fs.resolve before source = some file) : fs.contents after file = some [] := by
  cases h with
  | declined disagreed => simp [disagreed] at agreed
  | @promoted _ _ _ found copy _ _ opened replaced leads copied emptied others =>
    have hfound := laws.resolve_of_opened? opened
    have hcopy := laws.resolve_of_replaced replaced
    obtain rfl : found = file := Option.some.inj (hfound.symm.trans hflashed)
    obtain rfl : copy = found := Option.some.inj (hcopy.symm.trans hsource)
    exact emptied rfl

end Effect

/-- The questions of a task come last. -/
theorem prompts_after (task : FileTask) (workspace : Workspace Tree) :
    (task.after fs workspace).prompts = workspace.prompts ++ task.prompts := by
  cases task with
  | prepare text config =>
    rw [after, run_prepare, prompts, List.append_nil]
    exact prompts_prepareFile fs workspace text config
  | promote flashed source answer =>
    rw [after, run_promote, prompts]
    exact prompts_promote fs workspace flashed source answer
  | readHeader text format requested =>
    rw [after, run_readHeader, run_readFileHeader, prompts, List.append_nil]

/-- A look at a header reads it from the bytes that its path leads to, if it is served. -/
theorem result_readHeader_of_holds {text : String} {file : File} {contents : List UInt8}
    {workspace : Workspace Tree} (laws : fs.Lawful)
    (h : fs.Holds workspace.tree text file contents)
    (hopen : fs.opened? .reading text workspace.tree ≠ none) (format : Format)
    (requested : Int64) :
    (readHeader text format requested).result fs workspace =
      ((FlashPatch.readHeader format requested).run.run
        ⟨{ contents }, workspace.events⟩).1.map .header := by
  obtain ⟨found, hfound⟩ := Option.ne_none_iff_exists'.mp hopen
  obtain rfl : found = file := Option.some.inj ((laws.resolve_of_opened? hfound).symm.trans h.1)
  have hread := ((laws.agree_reading text).contents found).trans h.2
  rw [result, run_readHeader,
    run_readFileHeader_of_opened? fs workspace format requested hfound hread]

/-- The law of a task in a workspace: when it has a result, what it asks, and what it does to the
files. -/
structure Framed (fs : FileSystem Tree File) (task : FileTask) (before : Workspace Tree) :
    Prop where
  /-- It has a result exactly if it can be carried out. -/
  succeeds : (∃ answer, task.result fs before = .ok answer) ↔ task.Possible fs before.tree
  /-- No file is shortened or created but what an agreed promotion replaces. -/
  keeps : ∀ file, ¬task.Replaces fs before.tree file →
    fs.Keeps file before.tree (task.after fs before).tree
  /-- No file is removed, and every path to one leads to it still. -/
  paths : ∀ text file, fs.LeadsTo before.tree text file →
    fs.LeadsTo (task.after fs before).tree text file
  /-- With an error everything is as it was. -/
  failed : ∀ cause, task.result fs before = .error cause →
    fs.Agree before.tree (task.after fs before).tree
  /-- A look at a header leaves everything as it was. -/
  looked : ∀ text format requested, task = .readHeader text format requested →
    fs.Agree before.tree (task.after fs before).tree
  /-- A declined promotion touches nothing, and that is no error. -/
  declined : ∀ flashed source answer, task = .promote flashed source answer →
    answer (promotionPrompt flashed source) = false →
      task.result fs before = .ok (.promoted false) ∧ (task.after fs before).tree = before.tree
  /-- A preparation changes the one file that its path leads to. The header is that for the length
  of the contents, and they follow it. -/
  prepared : ∀ text config answer, task = .prepare text config →
    task.result fs before = .ok answer →
      ∃ file contents header, fs.Holds before.tree text file contents ∧
        config.encode (UInt64.ofNat contents.length) = .ok header ∧
        fs.Holds (task.after fs before).tree text file (header.bytes ++ contents) ∧
        fs.AgreeExcept file before.tree (task.after fs before).tree
  /-- An agreed promotion changes or creates the one file that the path of the source image leads
  to. It has the bytes of the flashed image then, which is as it was. -/
  promoted : ∀ flashed source answer reply, task = .promote flashed source answer →
    answer (promotionPrompt flashed source) = true → task.result fs before = .ok reply →
      reply = .promoted true ∧ ∃ file copy contents,
        fs.Holds before.tree flashed file contents ∧
        fs.resolve before.tree source = some copy ∧ copy ≠ file ∧
        fs.Holds (task.after fs before).tree source copy contents ∧
        fs.Holds (task.after fs before).tree flashed file contents ∧
        fs.AgreeExcept copy before.tree (task.after fs before).tree
  /-- Both images of an agreed promotion have the same header then, in all formats and for all
  requests, where the file system lets both be read. -/
  alike : ∀ flashed source answer reply, task = .promote flashed source answer →
    answer (promotionPrompt flashed source) = true → task.result fs before = .ok reply →
      fs.opened? .reading source (task.after fs before).tree ≠ none →
      fs.opened? .reading flashed (task.after fs before).tree ≠ none →
      ∀ format requested,
        (readHeader source format requested).result fs (task.after fs before) =
          (readHeader flashed format requested).result fs (task.after fs before)
  /-- A promotion asks one question, whatever comes of it, and no other task asks any. -/
  asked : (task.after fs before).prompts = before.prompts ++ task.prompts
  /-- The question comes first: whoever looks around when asked finds the workspace as it was. -/
  askedFirst : ∀ flashed source answer, task = .promote flashed source answer →
    ∀ look : Workspace Tree → String → Bool, look before = answer →
      (promoteAsking fs flashed source (Workspace.confirmSeeing look)).run.run before =
        (FlashPatch.promote fs flashed source answer).run.run before

/-- Every task obeys the law, if a promotion leads to two files. -/
theorem framed (laws : fs.Lawful) (task : FileTask) (before : Workspace Tree)
    (h : task.Separate fs before.tree) : task.Framed fs before := by
  have heffect := effect_perform laws task before
  constructor
  case succeeds => exact heffect.succeeds_iff
  case keeps =>
    intro file hkept
    exact heffect.keeps hkept
  case paths =>
    intro text file hleads
    exact heffect.paths hleads
  case failed =>
    intro cause hresult
    rw [hresult] at heffect
    exact heffect.of_error
  case looked =>
    rintro text format requested rfl
    exact heffect.of_readHeader
  case declined =>
    rintro flashed source answer rfl disagreed
    exact heffect.of_declined disagreed
  case prepared =>
    rintro text config answer rfl hresult
    rw [hresult] at heffect
    exact heffect.of_prepare laws
  case promoted =>
    rintro flashed source answer reply rfl agreed hresult
    rw [hresult] at heffect
    exact heffect.of_promote laws agreed h
  case alike =>
    rintro flashed source answer reply rfl agreed hresult hsource hflashed format requested
    rw [hresult] at heffect
    obtain ⟨-, file, copy, contents, -, -, -, hcopy, hfile, -⟩ := heffect.of_promote laws agreed h
    rw [result_readHeader_of_holds laws hcopy hsource,
      result_readHeader_of_holds laws hfile hflashed]
  case asked => exact prompts_after task before
  case askedFirst =>
    rintro flashed source answer rfl look rfl
    exact run_promoteAsking_confirmSeeing fs before flashed source look

/-! ## Runs -/

/-- Whether every task of a run has a property in the workspace that it is carried out in. -/
def Along (fs : FileSystem Tree File) (holds : FileTask → Workspace Tree → Prop)
    (tasks : List FileTask) (start : Workspace Tree) : Prop :=
  ∀ front task back, tasks = front ++ task :: back → holds task (afterAll fs front start)

section Run

variable {holds : FileTask → Workspace Tree → Prop} {task : FileTask} {tasks : List FileTask}
  {start : Workspace Tree} {file : File} {text : String}

/-- A property along a run is one of the first task and of the others, after it. -/
theorem along_cons :
    Along fs holds (task :: tasks) start ↔
      holds task start ∧ Along fs holds tasks (task.after fs start) := by
  constructor
  · intro h
    constructor
    · exact h [] task tasks rfl
    · rintro front next back rfl
      exact h (task :: front) next back rfl
  · rintro ⟨hfirst, hrest⟩ front next back hsplit
    cases front with
    | nil =>
      obtain ⟨rfl, -⟩ := List.cons.inj hsplit
      exact hfirst
    | cons first front =>
      obtain ⟨rfl, rfl⟩ := List.cons.inj hsplit
      exact hrest front next back rfl

instance decidableAlong [∀ task workspace, Decidable (holds task workspace)] :
    (tasks : List FileTask) → (start : Workspace Tree) → Decidable (Along fs holds tasks start)
  | [], _ => isTrue fun _ _ _ hsplit ↦ by simp at hsplit
  | task :: tasks, start =>
    have := decidableAlong tasks (task.after fs start)
    decidable_of_iff (holds task start ∧ Along fs holds tasks (task.after fs start)) along_cons.symm

/-- A file that no promotion of a run replaces is kept in the run. -/
theorem keeps_afterAll (laws : fs.Lawful)
    (h : Along fs (fun task workspace ↦ ¬task.Replaces fs workspace.tree file) tasks start) :
    fs.Keeps file start.tree (afterAll fs tasks start).tree := by
  induction tasks generalizing start with
  | nil => exact (FileSystem.Agree.refl start.tree).keeps
  | cons task tasks ih =>
    obtain ⟨hfirst, hrest⟩ := along_cons.mp h
    exact ((effect_perform laws task start).keeps hfirst).trans (ih hrest)

/-- No run removes a file, and every path to one leads to it still. -/
theorem paths_afterAll (laws : fs.Lawful) (h : fs.LeadsTo start.tree text file) :
    fs.LeadsTo (afterAll fs tasks start).tree text file := by
  induction tasks generalizing start with
  | nil => exact h
  | cons task tasks ih => exact ih ((effect_perform laws task start).paths h)

/-- The questions of a run are those of its tasks, in their order. -/
theorem prompts_afterAll (tasks : List FileTask) (start : Workspace Tree) :
    (afterAll fs tasks start).prompts = start.prompts ++ tasks.flatMap prompts := by
  induction tasks generalizing start with
  | nil => exact (List.append_nil _).symm
  | cons task tasks ih =>
    rw [List.flatMap_cons, ← List.append_assoc, ← prompts_after]
    exact ih (task.after fs start)

end Run

/-- In every run of tasks whose promotions lead to two files, on any file system, each task obeys
the law. So a file that no promotion replaces is there in the end with all its bytes or was never
there, every path to a file leads to it still, and the questions are one for each promotion. -/
theorem files_kept (fs : FileSystem Tree File) (laws : fs.Lawful) (tasks : List FileTask)
    (start : Workspace Tree)
    (h : Along fs (fun task workspace ↦ task.Separate fs workspace.tree) tasks start) :
    Along fs (Framed fs) tasks start ∧
    (∀ file,
      Along fs (fun task workspace ↦ ¬task.Replaces fs workspace.tree file) tasks start →
        fs.Keeps file start.tree (afterAll fs tasks start).tree) ∧
    (∀ text file, fs.LeadsTo start.tree text file →
      fs.LeadsTo (afterAll fs tasks start).tree text file) ∧
    (afterAll fs tasks start).prompts = start.prompts ++ tasks.flatMap prompts := by
  have hframed : Along fs (Framed fs) tasks start := by
    intro front task back hsplit
    exact framed laws task _ (h front task back hsplit)
  exact ⟨hframed, fun _ ↦ keeps_afterAll laws, fun _ _ ↦ paths_afterAll laws,
    prompts_afterAll tasks start⟩

/-- A patch is prepared and promoted twice, by absolute paths: once over an image, once to where none
is. A locked file is neither changed nor replaced, a hidden one neither changed nor promoted, and
the last promotion finds no flashed image. -/
theorem files_kept_patch :
    let fs := Directory.fileSystem
    let patch : Path := ["home", "flash", "patch.bin"]
    let locked : Path := ["home", "flash", "locked.bin"]
    let hidden : Path := ["home", "flash", "hidden.bin"]
    let image : Path := ["images", "source.bin"]
    let start : Workspace Directory :=
      { tree :=
          { files := [(patch, [1, 2, 3]), (locked, [7]), (hidden, [8]), (image, [9])]
            working := ["home", "flash"]
            unreadable := [hidden]
            readOnly := [locked] } }
    let tasks : List FileTask :=
      [.prepare "patch.bin" ⟨.binary, 8, 1024⟩,
        .prepare "locked.bin" ⟨.binary, 8, 1024⟩,
        .prepare "hidden.bin" ⟨.binary, 8, 1024⟩,
        .promote "patch.bin" "/images/source.bin" fun _ ↦ true,
        .promote "patch.bin" "/../home/flash/locked.bin" fun _ ↦ true,
        .promote "hidden.bin" "/images/copy.bin" fun _ ↦ true,
        .promote "./patch.bin" "/images/new.bin" fun _ ↦ true,
        .promote "gone.bin" "../flash/patch.bin" fun _ ↦ true]
    fs.Lawful ∧ Along fs (fun task workspace ↦ task.Separate fs workspace.tree) tasks start ∧
      Along fs (fun task workspace ↦ ¬task.Replaces fs workspace.tree patch) tasks start ∧
      Along fs (Framed fs) tasks start ∧
      fs.Keeps patch start.tree (afterAll fs tasks start).tree ∧
      fs.LeadsTo (afterAll fs tasks start).tree "patch.bin" patch ∧
      (afterAll fs tasks start).tree.files =
        [(patch, [78, 69, 87, 80, 3, 0, 0, 0, 1, 2, 3]), (locked, [7]), (hidden, [8]),
          (image, [78, 69, 87, 80, 3, 0, 0, 0, 1, 2, 3]),
          (["images", "new.bin"], [78, 69, 87, 80, 3, 0, 0, 0, 1, 2, 3])] ∧
      (afterAll fs tasks start).prompts =
        ["Set patch.bin as source/currently running image /images/source.bin?",
          "Set patch.bin as source/currently running image /../home/flash/locked.bin?",
          "Set hidden.bin as source/currently running image /images/copy.bin?",
          "Set ./patch.bin as source/currently running image /images/new.bin?",
          "Set gone.bin as source/currently running image ../flash/patch.bin?"] := by
  intro fs patch locked hidden image start tasks
  have hseparate : Along fs (fun task workspace ↦ task.Separate fs workspace.tree) tasks start := by
    decide +kernel
  have hkept : Along fs (fun task workspace ↦ ¬task.Replaces fs workspace.tree patch)
      tasks start := by
    decide +kernel
  have hleads : fs.LeadsTo start.tree "patch.bin" patch := by
    constructor
    · decide +kernel
    · simp [fs, start, patch, Directory.fileSystem]
  obtain ⟨hframed, hkeeps, hpaths, hprompts⟩ :=
    files_kept fs Directory.lawful tasks start hseparate
  refine ⟨Directory.lawful, hseparate, hkept, hframed, hkeeps patch hkept, hpaths _ _ hleads, ?_,
    ?_⟩
  · decide +kernel
  · rw [hprompts]
    decide

end FileTask

end FlashPatch
