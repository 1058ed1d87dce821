/-!
# Storage errors

What can go wrong between a patch and the device or directory that holds it.
-/

namespace FlashPatch

/-- The calls that a device serves. -/
inductive DeviceCall where
  | seek
  | read
  | write
  | flush
deriving DecidableEq, Repr

/-- The name of a call. -/
def DeviceCall.name : DeviceCall → String
  | seek => "seek"
  | read => "read"
  | write => "write"
  | flush => "flush"

/-- Why storage did not serve a call. -/
inductive StorageError where
  /-- The contents ended before the requested bytes did. -/
  | endOfContents
  /-- The device took no more bytes. -/
  | noRoom
  /-- A fault that was planned for the call with this number. -/
  | planned (call : DeviceCall) (ordinal : Nat)
  /-- The text of a path has a NUL character in it. -/
  | nulInPath
  /-- A path or a name on it is too long. -/
  | nameTooLong
  /-- Nothing has the path. -/
  | notFound
  /-- A directory stands where a file is wanted. -/
  | isDirectory
  /-- A file stands where a directory is wanted. -/
  | notDirectory
  /-- The source of a copy is a directory. -/
  | notAFile
  /-- The file system does not allow it. -/
  | refused
deriving DecidableEq, Repr

/-- The message for the cause. What the file system reports has no text of its own. -/
def StorageError.message? : StorageError → Option String
  | endOfContents => some "failed to fill whole buffer"
  | noRoom => some "failed to write whole buffer"
  | planned call ordinal => some ("injected " ++ call.name ++ toString ordinal)
  | nulInPath => some "file name contained an unexpected NUL byte"
  | notAFile =>
    some "the source path is neither a regular file nor a symlink to a regular file"
  | nameTooLong | notFound | isDirectory | notDirectory | refused => none

end FlashPatch
