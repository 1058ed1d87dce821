import FlashPatch.Partition.State
import FlashPatch.Preparation

/-!
# Tasks on an image

What is done to an image on a device, in any order and any number of times: putting headers in front
of it, marking it as applied, and looking at what is there. The device is there after a failed task
as well, and the next task goes on with it.
-/

namespace FlashPatch

/-- A task on an image. -/
inductive ImageTask where
  /-- Puts a header in front of all contents. -/
  | prepend (config : Config)
  /-- Marks the contents as applied. -/
  | markApplied (format : Format)
  /-- Decodes the header in front of the contents. -/
  | decode (format : Format) (requested : Int64)
  /-- Tells the state of the contents. -/
  | inspect (format : Format) (requested : Int64)
  /-- Reads a header from the position on. -/
  | readHeader (format : Format) (requested : Int64)
  /-- Moves to a position. -/
  | seek (position : Nat)
deriving DecidableEq, Repr

/-- What a task on an image gives. -/
inductive ImageAnswer where
  | report (report : Report)
  | header (header : Header)
  | state (state : Partition.State)
  | done
deriving DecidableEq, Repr

open Session

/-- Carries out a task. What only looks at the contents does not touch the device. -/
def ImageTask.perform : ImageTask → SessionM ImageAnswer
  | prepend config => do
    return .report (← prependHeader config)
  | markApplied format => do
    let session ← get
    let contents ← onHeader (Partition.markApplied session.device.contents format)
    set { session with device := { session.device with contents } }
    return .done
  | decode format requested => do
    return .header (← onHeader (Header.decode (← get).device.contents format requested))
  | inspect format requested => do
    return .state (← onHeader (Partition.inspect (← get).device.contents format requested))
  | readHeader format requested => do
    return .header (← FlashPatch.readHeader format requested)
  | seek position => do
    onDevice (Device.seek position)
    return .done

/-- The session after a task, whether it succeeded or not. -/
def ImageTask.after (task : ImageTask) (session : Session) : Session :=
  (task.perform.run.run session).2

/-- The session after tasks, one after the other. -/
def ImageTask.afterAll (tasks : List ImageTask) (session : Session) : Session :=
  tasks.foldl (fun session task ↦ task.after session) session

end FlashPatch
