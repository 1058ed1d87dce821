import FlashPatch.Storage.Error

/-!
# File systems

What tasks on files need of a file system: paths lead to files, files are opened, and open files are
read and written as a whole. An opening may be refused at any time and for any reason; what is open
can be read and written.
-/

namespace FlashPatch

/-- How a file is opened. -/
structure OpenOptions where
  /-- Whether it is read. -/
  read : Bool := false
  /-- Whether it is written. -/
  write : Bool := false
  /-- Whether it is created if it is not there. -/
  create : Bool := false
  /-- Whether it is emptied if it is there. -/
  truncate : Bool := false
deriving DecidableEq, Repr

namespace OpenOptions

/-- To read a file that is there. -/
def reading : OpenOptions := { read := true }

/-- To read and write a file that is there. -/
def changing : OpenOptions := { read := true, write := true }

/-- To write a file anew, whether it is there or not. -/
def replacing : OpenOptions := { write := true, create := true, truncate := true }

end OpenOptions

/-- What a path led to when it was opened. -/
inductive Opened (File : Type) where
  | file (file : File)
  | folder
deriving DecidableEq, Repr

/-- A file system. A tree is all that it is at one time, what it refuses included. -/
structure FileSystem (Tree File : Type) where
  /-- The bytes of a file, if it is there. -/
  contents : Tree → File → Option (List UInt8)
  /-- The file that a path leads to. It need not be there. -/
  resolve : Tree → String → Option File
  /-- Opens what a path leads to. The tree may be another one then also if that is refused. -/
  openWith : OpenOptions → String → Tree → Except StorageError (Opened File) × Tree
  /-- Replaces the bytes of an open file. -/
  store : File → List UInt8 → Tree → Tree
  /-- Gives an open file the permissions of another one, which comes first. -/
  copyPermissions : File → File → Tree → Tree

namespace FileSystem

variable {Tree File : Type}

/-- The file that is open after opening what a path leads to. -/
def opened? (fs : FileSystem Tree File) (options : OpenOptions) (text : String) (tree : Tree) :
    Option File :=
  match (fs.openWith options text tree).1 with
  | .ok (.file file) => some file
  | .ok .folder | .error _ => none

/-- The tree after opening what a path leads to. -/
def afterOpen (fs : FileSystem Tree File) (options : OpenOptions) (text : String) (tree : Tree) :
    Tree :=
  (fs.openWith options text tree).2

end FileSystem

end FlashPatch
