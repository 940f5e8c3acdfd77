import SlotUpdate.Boot.Device

/-!
# Calls on a device

The calls on the slots and on the other services of a device, and what they answer, in one type
each, so that two devices can be compared call by call.
-/

namespace SlotUpdate

/-- A call on the slots or on a service of the device. -/
inductive BootCall where
  /-- How many slots there are. -/
  | numSlots
  /-- The slot that is booted. -/
  | currentSlot
  /-- The slot to boot next. -/
  | activeSlot
  /-- The devices of a partition in a slot. -/
  | device (name : String) (slot : Slot)
  /-- Whether a slot can be booted. -/
  | isBootable (slot : Slot)
  /-- Note that a slot cannot be booted. -/
  | markUnbootable (slot : Slot)
  /-- Boot a slot next. -/
  | setActive (slot : Slot)
  /-- Whether a slot was booted with success. -/
  | isSuccessful (slot : Slot)
  /-- Note that the current slot was booted with success. -/
  | markSuccessful
  /-- Whether partitions that share space use snapshots. -/
  | isVirtualAb
  /-- Map the partitions that share space. -/
  | mapAll
  /-- Unmap them. -/
  | unmapAll
  /-- Commit the update of the partitions that share space. -/
  | finishUpdate (powerwash : Bool)
  /-- Ask for a powerwash at the next boot. -/
  | schedulePowerwash
  /-- Take the request for a powerwash back. -/
  | cancelPowerwash
  /-- The options for mounting a partition. -/
  | mountOptions (partition : String)
  /-- Choose whether the next reboot is warm. -/
  | warmReset (on : Bool)
  /-- Set the digest of the inactive slot, or clear it. -/
  | vbmetaDigest (reset : Bool)
  deriving Repr, DecidableEq

/-- A value that a call answers. -/
inductive BootValue where
  /-- No value. -/
  | done
  /-- A truth value. -/
  | flag (value : Bool)
  /-- A slot or a number of slots. -/
  | number (value : UInt32)
  /-- A text. -/
  | text (value : String)
  /-- The devices of a partition. -/
  | device (value : PartitionDevice)
  deriving Repr, DecidableEq

/-- What a call answers. -/
structure BootAnswer where
  /-- The value, or why there is none. -/
  result : Except BootError BootValue
  /-- What was passed on to whoever asked to be told of the outcome. -/
  told : Option Bool

namespace BootAnswer

/-- The answer of a call that tells nobody. -/
def ofResult (result : Except BootError BootValue) : BootAnswer := ⟨result, none⟩

end BootAnswer

end SlotUpdate
