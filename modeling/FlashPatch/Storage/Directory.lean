import FlashPatch.Storage.FileSystem
import FlashPatch.Storage.Path

/-!
# Directories

Files and folders below one root, and a working directory that relative paths start from. A name is
looked up in a folder only, so whatever a path passes has to be one. A text that ends in a slash
asks for a folder. Places may be closed to reading or to writing.
-/

namespace FlashPatch

/-- Files and folders, seen from a working directory. -/
structure Directory where
  /-- The files by their places. -/
  files : List (Path × List UInt8)
  /-- The folders that stand even without a file in them. -/
  folders : List Path := []
  /-- The working directory. -/
  working : Path := []
  /-- The places that are closed to reading. -/
  unreadable : List Path := []
  /-- The places that are closed to writing. Nothing is created in a folder among them. -/
  readOnly : List Path := []
deriving DecidableEq, Repr

/-- What stands at a place. -/
inductive Entry where
  | file (contents : List UInt8)
  | folder
  | vacant
deriving DecidableEq, Repr

namespace Directory

/-- Whether a place is a folder. Every place on the way to a file, a folder or the working directory
is one. -/
def isFolder (directory : Directory) (path : Path) : Bool :=
  path.isPrefixOf directory.working || directory.folders.any path.isPrefixOf
    || directory.files.any fun file ↦ path.isPrefixOf file.1

/-- What stands at a place. -/
def entry (directory : Directory) (path : Path) : Entry :=
  match directory.files.lookup path with
  | some contents => .file contents
  | none => if directory.isFolder path then .folder else .vacant

/-- The files with new contents at a place. The other files and the order stay. -/
def replace (files : List (Path × List UInt8)) (path : Path) (contents : List UInt8) :
    List (Path × List UInt8) :=
  match files with
  | [] => [(path, contents)]
  | (first, old) :: rest =>
    if first = path then (first, contents) :: rest
    else (first, old) :: replace rest path contents

/-- Stores a file at a place. -/
def store (path : Path) (contents : List UInt8) (directory : Directory) : Directory :=
  { directory with files := replace directory.files path contents }

/-! ## Paths -/

/-- The bytes of the longest name that a folder looks up. -/
def maxNameLength : Nat := 255

/-- The bytes that are too many for the text of a path. -/
def pathLimit : Nat := 4096

/-- The place that a name leads to from a place, which has to be a folder. -/
def enter (directory : Directory) (path : Path) (name : String) : Except StorageError Path :=
  match directory.entry path with
  | .folder =>
    if maxNameLength < name.utf8ByteSize then .error .nameTooLong else .ok (path.move name)
  | .file _ => .error .notDirectory
  | .vacant => .error .notFound

/-- The place that the text of a path starts from: the root if it has a slash in front, or else the
working directory. An empty text leads nowhere. -/
def start (directory : Directory) (text : String) : Except StorageError Path :=
  if text.toList.contains '\x00' then .error .nulInPath
  else if text = "" then .error .notFound
  else if pathLimit ≤ text.utf8ByteSize then .error .nameTooLong
  else if text.toList.head? = some '/' then .ok []
  else .ok directory.working

/-- The place that names lead to from the start of a path. It may be vacant. -/
def follow (directory : Directory) (text : String) (names : List String) :
    Except StorageError Path := do
  names.foldlM directory.enter (← directory.start text)

/-- The file that a path leads to, or would lead to if it was there. -/
def resolve (directory : Directory) (text : String) : Option Path :=
  match directory.follow text (Path.names text) with
  | .ok place => if directory.entry place = .folder then none else some place
  | .error _ => none

/-! ## Openings -/

/-- The place that a path leads to when it is opened. No file is created behind a slash at the end:
the last name in front of it is not even looked up, but the place to look it up has to be a
folder. -/
def placeFor (directory : Directory) (options : OpenOptions) (text : String) :
    Except StorageError Path := do
  let names := Path.names text
  if options.create ∧ names.getLast? = some "" then
    let before := (names.reverse.dropWhile (· = "")).tail.reverse
    let _ ← directory.follow text (before ++ [""])
    throw .isDirectory
  directory.follow text names

/-- Whether a place is open to what the options ask for. -/
def allows (directory : Directory) (options : OpenOptions) (path : Path) : Bool :=
  !(options.read && directory.unreadable.contains path)
    && !(options.write && directory.readOnly.contains path)

/-- What opening a path leads to. -/
def find (directory : Directory) (options : OpenOptions) (text : String) :
    Except StorageError (Opened Path) := do
  let path ← directory.placeFor options text
  match directory.entry path with
  | .file _ =>
    if directory.allows options path then return .file path else throw .refused
  | .folder =>
    if options.write then throw .isDirectory
    if directory.allows options path then return .folder else throw .refused
  | .vacant =>
    if !options.create then throw .notFound
    if directory.readOnly.contains path.parent then throw .refused else return .file path

/-- Opens what a path leads to. A new file has no bytes. -/
def openWith (options : OpenOptions) (text : String) (directory : Directory) :
    Except StorageError (Opened Path) × Directory :=
  match directory.find options text with
  | .ok (.file path) =>
    if options.truncate ∨ directory.files.lookup path = none then
      (.ok (.file path), directory.store path [])
    else (.ok (.file path), directory)
  | result => (result, directory)

/-- The places with the target among them exactly if the source is. -/
def share (source target : Path) (places : List Path) : List Path :=
  if places.contains source then target :: places else places.filter (· ≠ target)

/-- Opens or closes the target as the source is. -/
def copyPermissions (source target : Path) (directory : Directory) : Directory :=
  { directory with
    unreadable := share source target directory.unreadable
    readOnly := share source target directory.readOnly }

/-- The file system whose trees are directories. -/
def fileSystem : FileSystem Directory Path where
  contents directory path := directory.files.lookup path
  resolve := resolve
  openWith := openWith
  store := store
  copyPermissions := copyPermissions

/-- The files in the working directory, by the texts of their paths from there. -/
def listing (directory : Directory) : List (String × List UInt8) :=
  (directory.files.filter fun file ↦ directory.working.isPrefixOf file.1).map fun file ↦
    (Path.text (file.1.drop directory.working.length), file.2)

end Directory

end FlashPatch
