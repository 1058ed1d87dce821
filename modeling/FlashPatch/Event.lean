import FlashPatch.Bytes.Dump
import FlashPatch.Report.Basic

/-!
# Log events

What the tasks around a patch tell about their progress.
-/

namespace FlashPatch

/-- The weight of an event. -/
inductive EventLevel where
  | trace
  | debug
  | info
  | warn
deriving DecidableEq, Repr

/-- The name of a level. -/
def EventLevel.name : EventLevel → String
  | trace => "trace"
  | debug => "debug"
  | info => "info"
  | warn => "warn"

/-- A step that a task reports. -/
inductive Event where
  /-- The preparation of a file begins. -/
  | preparing
  /-- A header was encoded. -/
  | encoded
  /-- The bytes of the header. -/
  | headerBytes (bytes : List UInt8)
  /-- The patch was prepared. -/
  | prepared (report : Report)
  /-- The prepared patch exceeds its partition. -/
  | tooLarge
  /-- A promotion was declined. -/
  | sourceKept
  /-- A promotion was carried out. -/
  | sourceUpdated
deriving DecidableEq, Repr

namespace Event

/-- The weight of the event. -/
def level : Event → EventLevel
  | preparing | encoded => .debug
  | headerBytes _ => .trace
  | prepared _ | sourceKept | sourceUpdated => .info
  | tooLarge => .warn

/-- The text of the event. -/
def message : Event → String
  | preparing => "preparing patch file"
  | encoded => "encoded patch header"
  | headerBytes bytes => "patch header:\n" ++ Dump.text bytes
  | prepared report => report.line
  | tooLarge => "patch too large for patch partition"
  | sourceKept => "source is not updated"
  | sourceUpdated => "source updated"

end Event

end FlashPatch
