import FlashPatch.Proofs.Preparation.Readable
import FlashPatch.Proofs.Storage.FileSystem
import FlashPatch.Workspace

/-!
# Runs of tasks on files

What each task does in a workspace, said by what its paths lead to when they are opened. An open
file is a device that serves every call and takes all bytes, so only the file system and the header
decide.
-/

namespace FlashPatch

variable {Tree File α : Type} (fs : FileSystem Tree File) {file copy : File}
  {contents : List UInt8}

namespace Workspace

/-- Opening a path leaves the tree after it, whether the path could be opened or not. -/
theorem run_openWith (options : OpenOptions) (text : String) (workspace : Workspace Tree) :
    (openWith fs options text).run.run workspace =
      ((fs.openWith options text workspace.tree).1.mapError .storage,
        { workspace with tree := fs.afterOpen options text workspace.tree }) := by
  unfold openWith
  rw [Task.run_get_bind]
  show _ = (Except.mapError _ (fs.openWith options text workspace.tree).1,
    { workspace with tree := (fs.openWith options text workspace.tree).2 })
  rcases fs.openWith options text workspace.tree with ⟨cause | opened, tree⟩
  · rfl
  · rfl

/-- A task on an open file runs on a device with its bytes. -/
theorem run_onBytes (file : File) (task : SessionM α) (workspace : Workspace Tree) :
    let run := task.run.run
      ⟨{ contents := (fs.contents workspace.tree file).getD [] }, workspace.events⟩
    (onBytes fs file task).run.run workspace =
      (.ok (run.1, run.2.device.contents), { workspace with events := run.2.events }) := rfl

/-- A result is passed on. -/
theorem run_liftExcept (result : Except PatchError α) (workspace : Workspace Tree) :
    (liftExcept result : WorkspaceM Tree α).run.run workspace = (result, workspace) := by
  cases result with
  | ok a => rfl
  | error cause => rfl

/-- Puts a question to a user who looks around in the workspace to answer it. -/
def confirmSeeing (look : Workspace Tree → String → Bool) (prompt : String) :
    WorkspaceM Tree Bool := do
  confirm (look (← get)) prompt

end Workspace

open Workspace

variable (workspace : Workspace Tree)

/-! ## Preparations -/

/-- A preparation opens its file, puts a header in front of what is there and stores what comes of
that. -/
theorem run_prepareFile (text : String) (config : Config) :
    let opened : Workspace Tree :=
      { workspace with
        tree := fs.afterOpen .changing text workspace.tree
        events := workspace.events ++ [.preparing] }
    (prepareFile fs text config).run.run workspace =
      match (fs.openWith .changing text workspace.tree).1 with
      | .ok (.file file) =>
        let run := (prependHeader config).run.run
          ⟨{ contents := (fs.contents opened.tree file).getD [] }, opened.events⟩
        (run.1, { opened with
          tree := fs.store file run.2.device.contents opened.tree
          events := run.2.events })
      | .ok .folder => (.error (.storage .isDirectory), opened)
      | .error cause => (.error (.storage cause), opened) := by
  intro opened
  have hemit : (emit .preparing).run.run workspace =
      (.ok (), { workspace with events := workspace.events ++ [.preparing] }) := rfl
  rw [prepareFile, Task.run_bind_ok _ hemit, Task.run_bind, run_openWith]
  dsimp only
  cases (fs.openWith .changing text workspace.tree).1 with
  | error cause => rfl
  | ok found =>
    cases found with
    | folder => rfl
    | file file =>
      simp only [Except.mapError]
      rw [Task.run_bind_ok _ (run_onBytes fs file (prependHeader config) opened)]
      exact run_liftExcept _ _

/-- A preparation whose file cannot be opened fails. -/
theorem run_prepareFile_of_opened?_eq_none {text : String} (config : Config)
    (h : fs.opened? .changing text workspace.tree = none) :
    ∃ cause, (prepareFile fs text config).run.run workspace =
      (.error cause, { workspace with
        tree := fs.afterOpen .changing text workspace.tree
        events := workspace.events ++ [.preparing] }) := by
  rw [run_prepareFile]
  rcases FileSystem.opened?_eq_none_iff.mp h with hfolder | ⟨cause, hcause⟩
  · rw [hfolder]
    exact ⟨_, rfl⟩
  · rw [hcause]
    exact ⟨_, rfl⟩

/-- A preparation whose file is open runs on a device with its bytes. -/
theorem run_prepareFile_of_opened? {text : String} (config : Config)
    (h : fs.opened? .changing text workspace.tree = some file)
    (hcontents : fs.contents (fs.afterOpen .changing text workspace.tree) file = some contents) :
    let run := (prependHeader config).run.run
      ⟨{ contents }, workspace.events ++ [.preparing]⟩
    (prepareFile fs text config).run.run workspace =
      (run.1, { workspace with
        tree := fs.store file run.2.device.contents
          (fs.afterOpen .changing text workspace.tree)
        events := run.2.events }) := by
  rw [run_prepareFile, FileSystem.opened?_eq_some_iff.mp h]
  dsimp only
  rw [hcontents]
  rfl

/-- A preparation asks nothing. -/
theorem prompts_prepareFile (text : String) (config : Config) :
    ((prepareFile fs text config).run.run workspace).2.prompts = workspace.prompts := by
  rw [run_prepareFile]
  split <;> rfl

/-! ## Looks at a header -/

/-- A look at a header opens the file and leaves it as it is. The result is that of reading from a
device with the bytes of the file. -/
theorem run_readFileHeader (text : String) (format : Format) (requested : Int64) :
    let opened : Workspace Tree :=
      { workspace with tree := fs.afterOpen .reading text workspace.tree }
    (readFileHeader fs text format requested).run.run workspace =
      (match (fs.openWith .reading text workspace.tree).1 with
        | .ok (.file file) =>
          ((readHeader format requested).run.run
            ⟨{ contents := (fs.contents opened.tree file).getD [] }, workspace.events⟩).1
        | .ok .folder =>
          match format.headerLength requested with
          | .error cause => .error (.header cause)
          | .ok _ => .error (.storage .isDirectory)
        | .error cause => .error (.storage cause),
        opened) := by
  intro opened
  rw [readFileHeader, Task.run_bind, run_openWith]
  cases (fs.openWith .reading text workspace.tree).1 with
  | error cause => rfl
  | ok found =>
    simp only [Except.mapError]
    cases found with
    | file file =>
      -- The device is thrown away, so only the events could tell that it was read.
      obtain ⟨-, -, hevents⟩ := Session.kept_by_readHeader format requested
        ⟨{ contents := (fs.contents opened.tree file).getD [] }, workspace.events⟩
      dsimp only
      rw [Task.run_bind_ok _ (run_onBytes fs file (readHeader format requested) opened)]
      dsimp only
      rw [run_liftExcept, hevents]
    | folder =>
      cases format.headerLength requested with
      | error cause => rfl
      | ok length => rfl

/-- A look at a header fails if its file cannot be opened. -/
theorem run_readFileHeader_of_opened?_eq_none {text : String} (format : Format)
    (requested : Int64) (h : fs.opened? .reading text workspace.tree = none) :
    ∃ cause, ((readFileHeader fs text format requested).run.run workspace).1 = .error cause := by
  rw [run_readFileHeader]
  rcases FileSystem.opened?_eq_none_iff.mp h with hfolder | ⟨cause, hcause⟩
  · rw [hfolder]
    dsimp only
    split <;> exact ⟨_, rfl⟩
  · rw [hcause]
    exact ⟨_, rfl⟩

/-- A look at a header reads it from a device with the bytes of the file. -/
theorem run_readFileHeader_of_opened? {text : String} (format : Format) (requested : Int64)
    (h : fs.opened? .reading text workspace.tree = some file)
    (hcontents : fs.contents (fs.afterOpen .reading text workspace.tree) file = some contents) :
    ((readFileHeader fs text format requested).run.run workspace).1 =
      ((readHeader format requested).run.run ⟨{ contents }, workspace.events⟩).1 := by
  rw [run_readFileHeader, FileSystem.opened?_eq_some_iff.mp h]
  dsimp only
  rw [hcontents]
  rfl

/-! ## Copies -/

/-- The tree in which both files of a copy are open. -/
def FileSystem.bothOpen (source target : String) (file copy : File) (tree : Tree) : Tree :=
  fs.copyPermissions file copy
    (fs.afterOpen .replacing target (fs.afterOpen .reading source tree))

/-- A copy opens the source and then the target, and stores the bytes of the one in the other. -/
theorem run_copyFile (source target : String) :
    let first := fs.afterOpen .reading source workspace.tree
    let second := fs.afterOpen .replacing target first
    (copyFile fs source target).run.run workspace =
      match (fs.openWith .reading source workspace.tree).1 with
      | .ok (.file file) =>
        match (fs.openWith .replacing target first).1 with
        | .ok (.file copy) =>
          let opened := fs.bothOpen source target file copy workspace.tree
          (.ok (), { workspace with
            tree := fs.store copy ((fs.contents opened file).getD []) opened })
        | .ok .folder => (.error (.storage .isDirectory), { workspace with tree := second })
        | .error cause => (.error (.storage cause), { workspace with tree := second })
      | .ok .folder => (.error (.storage .notAFile), { workspace with tree := first })
      | .error cause => (.error (.storage cause), { workspace with tree := first }) := by
  intro first second
  rw [copyFile, Task.run_bind, run_openWith]
  cases (fs.openWith .reading source workspace.tree).1 with
  | error cause => rfl
  | ok found =>
    cases found with
    | folder => rfl
    | file file =>
      have hopen := run_openWith fs .replacing target { workspace with tree := first }
      simp only [Except.mapError]
      rw [Task.run_bind, hopen]
      cases (fs.openWith .replacing target first).1 with
      | error cause => rfl
      | ok found =>
        cases found with
        | folder => rfl
        | file copy => rfl

/-- A copy without a source fails. -/
theorem run_copyFile_of_source_eq_none {source : String} (target : String)
    (h : fs.opened? .reading source workspace.tree = none) :
    ∃ cause, (copyFile fs source target).run.run workspace =
      (.error cause, { workspace with tree := fs.afterOpen .reading source workspace.tree }) := by
  rw [run_copyFile]
  rcases FileSystem.opened?_eq_none_iff.mp h with hfolder | ⟨cause, hcause⟩
  · rw [hfolder]
    exact ⟨_, rfl⟩
  · rw [hcause]
    exact ⟨_, rfl⟩

/-- A copy without a target fails. -/
theorem run_copyFile_of_target_eq_none {source target : String}
    (hsource : fs.opened? .reading source workspace.tree = some file)
    (h : fs.opened? .replacing target (fs.afterOpen .reading source workspace.tree) = none) :
    ∃ cause, (copyFile fs source target).run.run workspace =
      (.error cause, { workspace with
        tree := fs.afterOpen .replacing target
          (fs.afterOpen .reading source workspace.tree) }) := by
  rw [run_copyFile, FileSystem.opened?_eq_some_iff.mp hsource]
  dsimp only
  rcases FileSystem.opened?_eq_none_iff.mp h with hfolder | ⟨cause, hcause⟩
  · rw [hfolder]
    exact ⟨_, rfl⟩
  · rw [hcause]
    exact ⟨_, rfl⟩

/-- A copy with both files open stores the bytes of the source in the target. -/
theorem run_copyFile_of_opened? {source target : String}
    (hsource : fs.opened? .reading source workspace.tree = some file)
    (htarget : fs.opened? .replacing target (fs.afterOpen .reading source workspace.tree) =
      some copy) :
    let opened := fs.bothOpen source target file copy workspace.tree
    (copyFile fs source target).run.run workspace =
      (.ok (), { workspace with
        tree := fs.store copy ((fs.contents opened file).getD []) opened }) := by
  rw [run_copyFile, FileSystem.opened?_eq_some_iff.mp hsource]
  dsimp only
  rw [FileSystem.opened?_eq_some_iff.mp htarget]

private theorem prompts_copyFile (source target : String) :
    ((copyFile fs source target).run.run workspace).2.prompts = workspace.prompts := by
  rw [run_copyFile]
  split
  · split <;> rfl
  · rfl
  · rfl

/-! ## Promotions -/

/-- A promotion notes its question in any case. It stops if the answer is no, or else does what the
copy does. -/
theorem run_promote (flashed source : String) (answer : String → Bool) :
    let prompt := promotionPrompt flashed source
    let asked : Workspace Tree := { workspace with prompts := workspace.prompts ++ [prompt] }
    (promote fs flashed source answer).run.run workspace =
      if answer prompt then
        match (copyFile fs flashed source).run.run asked with
        | (.ok (), after) =>
          (.ok true, { after with events := after.events ++ [.sourceUpdated] })
        | (.error cause, after) => (.error cause, after)
      else (.ok false, { asked with events := workspace.events ++ [.sourceKept] }) := by
  intro prompt asked
  have hask : (confirm answer prompt).run.run workspace = (.ok (answer prompt), asked) := rfl
  rw [promote, promoteAsking, Task.run_bind_ok _ hask]
  cases answer prompt with
  | false => rfl
  | true =>
    rw [if_pos rfl, if_pos rfl, Task.run_bind]
    rcases (copyFile fs flashed source).run.run asked with ⟨cause | _, after⟩
    · rfl
    · rfl

/-- A promotion asks one question, whatever comes of it. -/
theorem prompts_promote (flashed source : String) (answer : String → Bool) :
    ((promote fs flashed source answer).run.run workspace).2.prompts =
      workspace.prompts ++ [promotionPrompt flashed source] := by
  let asked : Workspace Tree :=
    { workspace with prompts := workspace.prompts ++ [promotionPrompt flashed source] }
  have hcopy := prompts_copyFile fs asked flashed source
  rw [run_promote]
  cases answer (promotionPrompt flashed source) with
  | false => rfl
  | true =>
    rw [if_pos rfl]
    rcases h : (copyFile fs flashed source).run.run asked with ⟨cause | _, after⟩
    · rw [h] at hcopy
      exact hcopy
    · rw [h] at hcopy
      exact hcopy

/-- The question comes before anything else: whoever looks around when asked finds the workspace as
it was in the beginning. -/
theorem run_promoteAsking_confirmSeeing (flashed source : String)
    (look : Workspace Tree → String → Bool) :
    (promoteAsking fs flashed source (confirmSeeing look)).run.run workspace =
      (promote fs flashed source (look workspace)).run.run workspace := by
  let prompt := promotionPrompt flashed source
  have hask : (confirmSeeing look prompt).run.run workspace =
      (confirm (look workspace) prompt).run.run workspace := rfl
  rw [promote, promoteAsking, promoteAsking, Task.run_bind, Task.run_bind, hask]

end FlashPatch
