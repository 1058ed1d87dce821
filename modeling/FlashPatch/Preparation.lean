import FlashPatch.Config.Basic
import FlashPatch.Error
import FlashPatch.Event
import FlashPatch.Header.Decoding
import FlashPatch.Storage.Device

/-!
# Preparing patches

Header and payload share the start of one device, so the whole payload is read before the header
is written. Nothing is written if the header cannot be encoded. A patch that does not fit its
partition is prepared all the same, with a warning.
-/

namespace FlashPatch

/-- A device in use, with the events so far. -/
structure Session where
  /-- The device. -/
  device : Device
  /-- The events, first to last. -/
  events : List Event := []
deriving DecidableEq, Repr

/-- A task on a device. The device and the events are there also after a failure. -/
abbrev SessionM := ExceptT PatchError (StateM Session)

namespace Session

/-- An action on the device of the session. -/
def onDevice {α : Type} (action : DeviceM α) : SessionM α := do
  let session ← get
  let (result, device) := action.run.run session.device
  set { session with device }
  match result with
  | .ok a => return a
  | .error cause => throw (.storage cause)

/-- What a header operation gives. -/
def onHeader {α : Type} (result : Except HeaderError α) : SessionM α :=
  match result with
  | .ok a => return a
  | .error cause => throw (.header cause)

/-- Reports an event. -/
def emit (event : Event) : SessionM Unit :=
  modify fun session ↦ { session with events := session.events ++ [event] }

end Session

open Session

/-- Writes a header and the payload behind it at the position of the device. -/
def writePatch (header : EncodedHeader) (payload : List UInt8) : SessionM Unit := do
  onDevice (Device.writeAll header.bytes)
  onDevice (Device.writeAll payload)

/-- Reads one header at the position of the device, and not a byte more. -/
def readHeader (format : Format) (requested : Int64) : SessionM Header := do
  let length ← onHeader (format.headerLength requested)
  let bytes ← onDevice (Device.readExactly length)
  onHeader (Header.decode bytes format requested)

/-- Puts a header in front of all that is on the device. -/
def prependHeader (config : Config) : SessionM Report := do
  onDevice (Device.seek 0)
  let payload ← onDevice Device.readToEnd
  let payloadSize := UInt64.ofNat payload.length
  let header ← onHeader (config.encode payloadSize)
  emit .encoded
  emit (.headerBytes header.bytes)
  onDevice (Device.seek 0)
  writePatch header payload
  onDevice Device.flush
  let report := Report.ofHeader header payloadSize config.maxPartitionSize
  emit (.prepared report)
  if !report.fits then emit .tooLarge
  return report

end FlashPatch
