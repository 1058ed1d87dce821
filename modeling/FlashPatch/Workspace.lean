import FlashPatch.Preparation
import FlashPatch.Storage.FileSystem

/-!
# Tasks on files

Preparing a patch file, reading the header of one, and promoting a flashed image. A promotion is
put to the user before any file is looked at, and a declined one touches nothing.
-/

namespace FlashPatch

/-- A tree of files in use, with the events and the questions so far. -/
structure Workspace (Tree : Type) where
  /-- The files. -/
  tree : Tree
  /-- The events, first to last. -/
  events : List Event := []
  /-- The questions put to the user, first to last. -/
  prompts : List String := []
deriving DecidableEq, Repr

/-- A task in a workspace. The workspace is there also after a failure. -/
abbrev WorkspaceM (Tree : Type) := ExceptT PatchError (StateM (Workspace Tree))

variable {Tree File α : Type}

namespace Workspace

/-- Reports an event. -/
def emit (event : Event) : WorkspaceM Tree Unit :=
  modify fun workspace ↦ { workspace with events := workspace.events ++ [event] }

/-- Puts a question to the user. -/
def confirm (answer : String → Bool) (prompt : String) : WorkspaceM Tree Bool := do
  modify fun workspace ↦ { workspace with prompts := workspace.prompts ++ [prompt] }
  return answer prompt

/-- Changes the files. -/
def change (step : Tree → Tree) : WorkspaceM Tree Unit :=
  modify fun workspace ↦ { workspace with tree := step workspace.tree }

/-- Opens what a path leads to. -/
def openWith (fs : FileSystem Tree File) (options : OpenOptions) (text : String) :
    WorkspaceM Tree (Opened File) := do
  let workspace ← get
  let (result, tree) := fs.openWith options text workspace.tree
  set { workspace with tree }
  match result with
  | .ok opened => return opened
  | .error cause => throw (.storage cause)

/-- The bytes of an open file. -/
def bytesOf (fs : FileSystem Tree File) (file : File) : WorkspaceM Tree (List UInt8) := do
  return (fs.contents (← get).tree file).getD []

/-- Runs a task on the bytes of an open file, as far as it gets, and gives the bytes in the end. -/
def onBytes (fs : FileSystem Tree File) (file : File) (task : SessionM α) :
    WorkspaceM Tree (Except PatchError α × List UInt8) := do
  let contents ← bytesOf fs file
  let workspace ← get
  let (result, session) := task.run.run ⟨{ contents }, workspace.events⟩
  set { workspace with events := session.events }
  return (result, session.device.contents)

end Workspace

open Workspace

/-- Puts a header in front of the contents of a file. -/
def prepareFile (fs : FileSystem Tree File) (text : String) (config : Config) :
    WorkspaceM Tree Report := do
  emit .preparing
  match ← openWith fs .changing text with
  | .file file =>
    let (result, bytes) ← onBytes fs file (prependHeader config)
    change (fs.store file bytes)
    liftExcept result
  | .folder => throw (.storage .isDirectory)

/-- Reads the header at the start of a file. A folder can be opened, but not read. -/
def readFileHeader (fs : FileSystem Tree File) (text : String) (format : Format)
    (requested : Int64) : WorkspaceM Tree Header := do
  match ← openWith fs .reading text with
  | .file file =>
    let (result, _) ← onBytes fs file (readHeader format requested)
    liftExcept result
  | .folder =>
    match format.headerLength requested with
    | .ok _ => throw (.storage .isDirectory)
    | .error cause => throw (.header cause)

/-- Copies a file over another one, or to where none is. The source is opened first. Opening the
target empties it, so that a file has no bytes left to be copied over itself. -/
def copyFile (fs : FileSystem Tree File) (source target : String) : WorkspaceM Tree Unit := do
  match ← openWith fs .reading source with
  | .file file =>
    match ← openWith fs .replacing target with
    | .file copy =>
      change (fs.copyPermissions file copy)
      let bytes ← bytesOf fs file
      change (fs.store copy bytes)
    | .folder => throw (.storage .isDirectory)
  | .folder => throw (.storage .notAFile)

/-- The question before a promotion. -/
def promotionPrompt (flashed source : String) : String :=
  "Set " ++ flashed ++ " as source/currently running image " ++ source ++ "?"

/-- Asks first, and replaces the source image by the flashed one if the answer is yes. Tells whether
it did. -/
def promoteAsking (fs : FileSystem Tree File) (flashed source : String)
    (ask : String → WorkspaceM Tree Bool) : WorkspaceM Tree Bool := do
  if ← ask (promotionPrompt flashed source) then
    copyFile fs flashed source
    emit .sourceUpdated
    return true
  else
    emit .sourceKept
    return false

/-- Replaces the source image by the flashed one if the user agrees, and tells whether it did. -/
def promote (fs : FileSystem Tree File) (flashed source : String) (answer : String → Bool) :
    WorkspaceM Tree Bool :=
  promoteAsking fs flashed source (confirm answer)

/-- A task on files. -/
inductive FileTask where
  /-- Puts a header in front of the contents of a file. -/
  | prepare (text : String) (config : Config)
  /-- Replaces the source image by the flashed one if the answer is yes. -/
  | promote (flashed source : String) (answer : String → Bool)
  /-- Reads the header at the start of a file. -/
  | readHeader (text : String) (format : Format) (requested : Int64)

/-- What a task on files gives. -/
inductive FileAnswer where
  | report (report : Report)
  | promoted (updated : Bool)
  | header (header : Header)
deriving DecidableEq, Repr

namespace FileTask

/-- Carries out a task. -/
def perform (fs : FileSystem Tree File) : FileTask → WorkspaceM Tree FileAnswer
  | prepare text config => do
    return .report (← prepareFile fs text config)
  | promote flashed source answer => do
    return .promoted (← FlashPatch.promote fs flashed source answer)
  | readHeader text format requested => do
    return .header (← readFileHeader fs text format requested)

/-- What a task gives in the workspace. -/
def result (fs : FileSystem Tree File) (task : FileTask) (workspace : Workspace Tree) :
    Except PatchError FileAnswer :=
  ((task.perform fs).run.run workspace).1

/-- The workspace after a task, whether it succeeded or not. -/
def after (fs : FileSystem Tree File) (task : FileTask) (workspace : Workspace Tree) :
    Workspace Tree :=
  ((task.perform fs).run.run workspace).2

/-- The workspace after tasks, one after the other. -/
def afterAll (fs : FileSystem Tree File) (tasks : List FileTask) (workspace : Workspace Tree) :
    Workspace Tree :=
  tasks.foldl (fun workspace task ↦ task.after fs workspace) workspace

end FileTask

end FlashPatch
