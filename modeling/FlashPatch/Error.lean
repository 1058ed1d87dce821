import FlashPatch.Record.Error
import FlashPatch.Storage.Error

/-!
# Patch errors

The errors of all tasks around a patch in one type, and their messages.
-/

namespace FlashPatch

/-- Why a task around a patch failed. -/
inductive PatchError where
  /-- Storage did not serve the task. -/
  | storage (cause : StorageError)
  /-- The header cannot be written or read. -/
  | header (cause : HeaderError)
  /-- A document is no record of the wanted kind. -/
  | document (cause : RecordError)
  /-- A text is no integer literal. -/
  | literal (cause : IntLiteral.Malformed)
deriving DecidableEq, Repr

/-- The message for the cause, unless the file system has to give it. -/
def PatchError.message? : PatchError → Option String
  | storage cause => cause.message?.map ("I/O error: " ++ ·)
  | header cause => some ("header error: " ++ cause.message)
  | document cause => some ("config error: " ++ cause.message)
  | literal cause => some ("config error: " ++ cause.message)

end FlashPatch
