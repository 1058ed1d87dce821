import FlashPatch.Storage.Error

/-!
# Devices

A device holds bytes and a position. It may have a capacity, beyond which it takes no bytes, and a
fault planned for one of its calls. A failed call may leave the device changed, so an action on a
device always gives the device afterwards.
-/

namespace FlashPatch

/-- A fault: the call of this kind with this number fails, counted from one. -/
structure DeviceFault where
  call : DeviceCall
  ordinal : Nat
deriving DecidableEq, Repr

/-- A device with its contents. -/
structure Device where
  /-- All bytes on the device. -/
  contents : List UInt8
  /-- The offset of the next byte to be read or written. It may lie past the contents. -/
  position : Nat := 0
  /-- The offset from which on no byte is taken. -/
  capacity : Option Nat := none
  /-- The planned fault. -/
  fault : Option DeviceFault := none
  /-- The calls so far, last first. -/
  calls : List DeviceCall := []
deriving DecidableEq, Repr

/-- An action on a device. -/
abbrev DeviceM := ExceptT StorageError (StateM Device)

namespace Device

/-- The contents with bytes written over them from a position on. A gap in front of the bytes is
filled with zeros; writing nothing fills no gap. -/
def overlay (contents : List UInt8) (position : Nat) (bytes : List UInt8) : List UInt8 :=
  if bytes.isEmpty then contents
  else
    contents.take position ++ List.replicate (position - contents.length) 0 ++ bytes
      ++ contents.drop (position + bytes.length)

/-- The first of the bytes, as many as the capacity leaves room for. -/
def accepted (device : Device) (bytes : List UInt8) : List UInt8 :=
  match device.capacity with
  | some capacity => bytes.take (capacity - device.position)
  | none => bytes

/-- Counts a call, which fails if a fault is planned for it. -/
def count (call : DeviceCall) : DeviceM Unit := do
  let device ← get
  set { device with calls := call :: device.calls }
  let ordinal := device.calls.count call + 1
  if device.fault = some ⟨call, ordinal⟩ then throw (.planned call ordinal)

/-- Moves to a position. -/
def seek (position : Nat) : DeviceM Unit := do
  count .seek
  modify fun device ↦ { device with position }

/-- Reads from the position to the end of the contents. -/
def readToEnd : DeviceM (List UInt8) := do
  count .read
  let device ← get
  set { device with position := max device.position device.contents.length }
  return device.contents.drop device.position

/-- Reads the given number of bytes. Too few bytes are all used up, and that is an error. -/
def readExactly (length : Nat) : DeviceM (List UInt8) := do
  count .read
  let device ← get
  if device.position + length ≤ device.contents.length then
    set { device with position := device.position + length }
    return (device.contents.drop device.position).take length
  else
    set { device with position := device.contents.length }
    throw .endOfContents

/-- Writes as many of the bytes as there is room for, and gives their number. -/
def write (bytes : List UInt8) : DeviceM Nat := do
  count .write
  let device ← get
  let taken := device.accepted bytes
  set { device with
    contents := overlay device.contents device.position taken
    position := device.position + taken.length }
  return taken.length

/-- Writes until all bytes are taken. Nothing is called for if there are none. -/
def writeAll (bytes : List UInt8) : DeviceM Unit :=
  match bytes with
  | [] => return
  | first :: rest => do
    let taken ← write (first :: rest)
    if _h : taken = 0 then throw .noRoom else writeAll ((first :: rest).drop taken)
termination_by bytes.length
decreasing_by
  simp only [List.length_drop, List.length_cons]
  omega

/-- Makes sure that what was written is kept. -/
def flush : DeviceM Unit := count .flush

/-- Overwriting gives at least the old length, and room for the bytes if there are any. -/
theorem length_overlay (contents : List UInt8) (position : Nat) {bytes : List UInt8}
    (h : bytes ≠ []) :
    (overlay contents position bytes).length = max contents.length (position + bytes.length) := by
  have : bytes.isEmpty = false := by simpa using h
  simp only [overlay, this, Bool.false_eq_true, if_false, List.length_append, List.length_take,
    List.length_replicate, List.length_drop]
  omega

end Device

end FlashPatch
