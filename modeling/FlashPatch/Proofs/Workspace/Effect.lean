import FlashPatch.Proofs.Workspace.Run

/-!
# What a task does to the files

A task on files has one of five effects: it puts a header in front of a file, it stores the flashed
image as the source image, it is declined, it only looks at a file, or it fails. Only the first two
store a file, one file each, and every other file is left as it is.
-/

namespace FlashPatch

variable {Tree File : Type} (fs : FileSystem Tree File)

namespace FileTask

/-! ## Conditions -/

/-- Whether a task can be carried out. A preparation needs a file that may be changed and a header
for its contents, an agreed promotion the flashed image and a source image that may be replaced or
created, and a look at a header needs a file with one. Declining needs nothing. -/
def Possible (tree : Tree) : FileTask → Prop
  | prepare text config =>
    ∃ file contents header, fs.opened? .changing text tree = some file ∧
      fs.contents tree file = some contents ∧
      config.encode (UInt64.ofNat contents.length) = .ok header
  | promote flashed source answer =>
    answer (promotionPrompt flashed source) = true →
      ∃ file copy, fs.opened? .reading flashed tree = some file ∧
        fs.opened? .replacing source (fs.afterOpen .reading flashed tree) = some copy
  | readHeader text format requested =>
    ∃ file contents header, fs.opened? .reading text tree = some file ∧
      fs.contents tree file = some contents ∧
      Header.decode contents format requested = .ok header

/-- Whether a file is what an agreed promotion of a flashed image replaces or creates. -/
def Replaces (tree : Tree) (file : File) : FileTask → Prop
  | promote flashed source answer =>
    answer (promotionPrompt flashed source) = true ∧
      (fs.opened? .reading flashed tree).isSome = true ∧
      fs.opened? .replacing source (fs.afterOpen .reading flashed tree) = some file
  | prepare _ _ | readHeader _ _ _ => False

/-- The questions of a task. -/
def prompts : FileTask → List String
  | promote flashed source _ => [promotionPrompt flashed source]
  | prepare _ _ | readHeader _ _ _ => []

/-! ## Effects -/

/-- What can happen to the files in a task with a result or an error. -/
inductive Effect (before : Tree) : FileTask → Except PatchError FileAnswer → Tree → Prop
  | prepared {text : String} {config : Config} {file : File} {contents : List UInt8}
      {header : EncodedHeader} {after : Tree}
      (opened : fs.opened? .changing text before = some file)
      (found : fs.contents before file = some contents)
      (encoded : config.encode (UInt64.ofNat contents.length) = .ok header)
      (written : fs.contents after file = some (header.bytes ++ contents))
      (others : fs.AgreeExcept file before after) :
      Effect before (.prepare text config)
        (.ok (.report
          (Report.ofHeader header (UInt64.ofNat contents.length) config.maxPartitionSize)))
        after
  | promoted {flashed source : String} {answer : String → Bool} {file copy : File} {after : Tree}
      (agreed : answer (promotionPrompt flashed source) = true)
      (opened : fs.opened? .reading flashed before = some file)
      (replaced : fs.opened? .replacing source (fs.afterOpen .reading flashed before) = some copy)
      (leads : fs.resolve after source = some copy)
      (copied : copy ≠ file → fs.contents after copy = fs.contents before file)
      (emptied : copy = file → fs.contents after copy = some [])
      (others : fs.AgreeExcept copy before after) :
      Effect before (.promote flashed source answer) (.ok (.promoted true)) after
  | declined {flashed source : String} {answer : String → Bool}
      (disagreed : answer (promotionPrompt flashed source) = false) :
      Effect before (.promote flashed source answer) (.ok (.promoted false)) before
  | looked {text : String} {format : Format} {requested : Int64} {header : Header} {after : Tree}
      (possible : (readHeader text format requested).Possible fs before)
      (same : fs.Agree before after) :
      Effect before (.readHeader text format requested) (.ok (.header header)) after
  | failed {task : FileTask} {cause : PatchError} {after : Tree}
      (impossible : ¬task.Possible fs before) (same : fs.Agree before after) :
      Effect before task (.error cause) after

end FileTask

/-! ## Copies -/

namespace FileSystem.Lawful

variable {fs} (laws : fs.Lawful) {tree : Tree} {source target : String} {file copy : File}

include laws

/-- The target of a copy is where its path led to before anything was opened. -/
theorem resolve_of_replaced
    (h : fs.opened? .replacing target (fs.afterOpen .reading source tree) = some copy) :
    fs.resolve tree target = some copy :=
  ((laws.agree_reading source).resolve target).symm.trans (laws.resolve_of_opened? h)

/-- Opening both files of a copy changes the target only. -/
theorem agreeExcept_bothOpen
    (h : fs.opened? .replacing target (fs.afterOpen .reading source tree) = some copy) :
    fs.AgreeExcept copy tree (fs.bothOpen source target file copy tree) := by
  have hread : fs.AgreeExcept copy tree (fs.afterOpen .reading source tree) :=
    (laws.agree_reading source).agreeExcept
  have hreplaced := hread.trans (laws.agreeExcept_afterOpen h)
  exact hreplaced.trans (laws.agree_copyPermissions file copy _).agreeExcept

/-- The target of a copy is empty when both files are open. -/
theorem contents_bothOpen
    (h : fs.opened? .replacing target (fs.afterOpen .reading source tree) = some copy) :
    fs.contents (fs.bothOpen source target file copy tree) copy = some [] := by
  rw [bothOpen, (laws.agree_copyPermissions _ _ _).contents, laws.contents_afterOpen h]
  rfl

/-- The path of the target leads to it when both files are open. -/
theorem resolve_bothOpen
    (h : fs.opened? .replacing target (fs.afterOpen .reading source tree) = some copy) :
    fs.resolve (fs.bothOpen source target file copy tree) target = some copy := by
  rw [bothOpen, (laws.agree_copyPermissions _ _ _).resolve]
  exact laws.resolve_afterOpen_self h

end FileSystem.Lawful

namespace FileTask

/-! ## Single tasks -/

/-- A task to prepare a file does just that. -/
theorem run_prepare (text : String) (config : Config) (workspace : Workspace Tree) :
    ((prepare text config).perform fs).run.run workspace =
      (((prepareFile fs text config).run.run workspace).1.map .report,
        ((prepareFile fs text config).run.run workspace).2) :=
  Task.run_bind_pure (prepareFile fs text config) FileAnswer.report workspace

/-- A task to promote an image does just that. -/
theorem run_promote (flashed source : String) (answer : String → Bool)
    (workspace : Workspace Tree) :
    ((promote flashed source answer).perform fs).run.run workspace =
      (((FlashPatch.promote fs flashed source answer).run.run workspace).1.map .promoted,
        ((FlashPatch.promote fs flashed source answer).run.run workspace).2) :=
  Task.run_bind_pure (FlashPatch.promote fs flashed source answer) FileAnswer.promoted workspace

/-- A task to read a header does just that. -/
theorem run_readHeader (text : String) (format : Format) (requested : Int64)
    (workspace : Workspace Tree) :
    ((readHeader text format requested).perform fs).run.run workspace =
      (((readFileHeader fs text format requested).run.run workspace).1.map .header,
        ((readFileHeader fs text format requested).run.run workspace).2) :=
  Task.run_bind_pure (readFileHeader fs text format requested) FileAnswer.header workspace

variable {fs} (laws : fs.Lawful)

include laws

/-- A header is read from a file exactly if the file can be opened and its bytes decode to it. -/
theorem readFileHeader_eq_ok_iff {text : String} {format : Format} {requested : Int64}
    {header : Header} (workspace : Workspace Tree) :
    ((readFileHeader fs text format requested).run.run workspace).1 = .ok header ↔
      ∃ file contents, fs.opened? .reading text workspace.tree = some file ∧
        fs.contents workspace.tree file = some contents ∧
        Header.decode contents format requested = .ok header := by
  cases hopened : fs.opened? .reading text workspace.tree with
  | none =>
    obtain ⟨cause, hresult⟩ :=
      run_readFileHeader_of_opened?_eq_none fs workspace format requested hopened
    simp [hresult]
  | some file =>
    obtain ⟨contents, hfound⟩ := laws.exists_contents hopened rfl
    have hread := ((laws.agree_reading text).contents file).trans hfound
    have hfails : ¬Device.Fails { contents } .read := by simp [Device.Fails]
    have hunread : Device.unread { contents } = contents := List.drop_zero
    rw [run_readFileHeader_of_opened? fs workspace format requested hopened hread,
      Session.readHeader_eq_ok_iff, hunread]
    simp [hfails, hfound]

private theorem effect_prepare (text : String) (config : Config) (workspace : Workspace Tree) :
    Effect fs workspace.tree (prepare text config) ((prepare text config).result fs workspace)
      ((prepare text config).after fs workspace).tree := by
  rw [result, after, run_prepare]
  cases hopened : fs.opened? .changing text workspace.tree with
  | none =>
    obtain ⟨cause, hrun⟩ := run_prepareFile_of_opened?_eq_none fs workspace config hopened
    rw [hrun]
    apply Effect.failed _ (laws.agree_changing text)
    simp [Possible, hopened]
  | some file =>
    obtain ⟨contents, hfound⟩ := laws.exists_contents hopened rfl
    have hread := ((laws.agree_changing text).contents file).trans hfound
    let session : Session := ⟨{ contents }, workspace.events ++ [.preparing]⟩
    rw [run_prepareFile_of_opened? fs workspace config hopened hread]
    cases hencode : config.encode (UInt64.ofNat contents.length) with
    | error cause =>
      -- The bytes are stored all the same, but they are those that were read.
      obtain ⟨hresult, hcontents, -⟩ :=
        prependHeader_of_encode_error (rfl : session.device.fault = none) hencode
      rw [hresult, hcontents]
      apply Effect.failed _ ((laws.agree_changing text).trans (laws.agree_store hread))
      simp [Possible, hopened, hfound, hencode]
    | ok header =>
      have hpresent := Option.ne_none_iff_exists'.mpr ⟨contents, hread⟩
      obtain ⟨hresult, hcontents, -⟩ :=
        prependHeader_of_encode (rfl : session.device.fault = none) rfl hencode
      rw [hresult, hcontents]
      exact .prepared hopened hfound hencode (laws.contents_store_self _ hpresent)
        ((laws.agree_changing text).agreeExcept.trans (laws.agreeExcept_store hpresent))

private theorem effect_copied {flashed source : String} {answer : String → Bool} {tree : Tree}
    {file copy : File} (hanswer : answer (promotionPrompt flashed source) = true)
    (hflashed : fs.opened? .reading flashed tree = some file)
    (hsource : fs.opened? .replacing source (fs.afterOpen .reading flashed tree) = some copy) :
    let opened := fs.bothOpen flashed source file copy tree
    Effect fs tree (promote flashed source answer) (.ok (.promoted true))
      (fs.store copy ((fs.contents opened file).getD []) opened) := by
  intro opened
  have hopened : fs.contents opened copy = some [] := laws.contents_bothOpen hsource
  have hpresent := Option.ne_none_iff_exists'.mpr ⟨[], hopened⟩
  have hagree : fs.AgreeExcept copy tree opened := laws.agreeExcept_bothOpen hsource
  obtain ⟨contents, hfound⟩ := laws.exists_contents hflashed rfl
  apply Effect.promoted hanswer hflashed hsource
  case leads =>
    rw [laws.resolve_store _ _ hpresent]
    exact laws.resolve_bothOpen hsource
  case copied =>
    intro hne
    have hread : fs.contents opened file = some contents :=
      (hagree.contents file hne.symm).trans hfound
    rw [hfound, laws.contents_store_self _ hpresent, hread]
    rfl
  case emptied =>
    rintro rfl
    rw [laws.contents_store_self _ hpresent, hopened]
    rfl
  case others => exact hagree.trans (laws.agreeExcept_store hpresent)

private theorem effect_promote (flashed source : String) (answer : String → Bool)
    (workspace : Workspace Tree) :
    Effect fs workspace.tree (promote flashed source answer)
      ((promote flashed source answer).result fs workspace)
      ((promote flashed source answer).after fs workspace).tree := by
  let first := fs.afterOpen .reading flashed workspace.tree
  let asked : Workspace Tree :=
    { workspace with prompts := workspace.prompts ++ [promotionPrompt flashed source] }
  have hfirst : fs.Agree workspace.tree first := laws.agree_reading flashed
  rw [result, after, run_promote, FlashPatch.run_promote]
  cases hanswer : answer (promotionPrompt flashed source) with
  | false => exact .declined hanswer
  | true =>
    rw [if_pos rfl]
    cases hflashed : fs.opened? .reading flashed workspace.tree with
    | none =>
      obtain ⟨cause, hrun⟩ := run_copyFile_of_source_eq_none fs asked source hflashed
      rw [hrun]
      apply Effect.failed _ hfirst
      simp [Possible, hanswer, hflashed]
    | some file =>
      cases hsource : fs.opened? .replacing source first with
      | none =>
        obtain ⟨cause, hrun⟩ := run_copyFile_of_target_eq_none fs asked hflashed hsource
        rw [hrun]
        apply Effect.failed _ (hfirst.trans (laws.agree_of_opened?_eq_none hsource))
        simp [Possible, hanswer, hflashed, hsource, first]
      | some copy =>
        rw [run_copyFile_of_opened? fs asked hflashed hsource]
        exact effect_copied laws hanswer hflashed hsource

private theorem effect_readHeader (text : String) (format : Format) (requested : Int64)
    (workspace : Workspace Tree) :
    Effect fs workspace.tree (readHeader text format requested)
      ((readHeader text format requested).result fs workspace)
      ((readHeader text format requested).after fs workspace).tree := by
  have hagree : fs.Agree workspace.tree
      ((readHeader text format requested).after fs workspace).tree := by
    rw [after, run_readHeader, run_readFileHeader]
    exact laws.agree_reading text
  rw [result, run_readHeader]
  cases hread : ((readFileHeader fs text format requested).run.run workspace).1 with
  | ok header =>
    obtain ⟨file, contents, hpossible⟩ := (readFileHeader_eq_ok_iff laws workspace).mp hread
    exact .looked ⟨file, contents, header, hpossible⟩ hagree
  | error cause =>
    apply Effect.failed _ hagree
    rintro ⟨file, contents, header, hpossible⟩
    have hok := (readFileHeader_eq_ok_iff laws workspace).mpr ⟨file, contents, hpossible⟩
    simp [hread] at hok

/-- Every task has one of the effects. -/
theorem effect_perform (task : FileTask) (workspace : Workspace Tree) :
    Effect fs workspace.tree task (task.result fs workspace) (task.after fs workspace).tree := by
  cases task with
  | prepare text config => exact effect_prepare laws text config workspace
  | promote flashed source answer => exact effect_promote laws flashed source answer workspace
  | readHeader text format requested =>
    exact effect_readHeader laws text format requested workspace

end FileTask

end FlashPatch
