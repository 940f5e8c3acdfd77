import SlotUpdate.Path
import SlotUpdate.Slot
import SlotUpdate.SystemError

/-!
# Devices of partitions

Every partition has a device in each slot. This module holds what a look-up of one answers and how
calls on the slots and on other services of the platform fail.
-/

namespace SlotUpdate

/-- Why a call on the platform fails. -/
inductive BootError where
  /-- There is no such slot. -/
  | invalidSlot (slot : Slot)
  /-- The partition has no device in the slot of this name. -/
  | partitionNotFound (partition slotName : String)
  /-- The platform says so. -/
  | failed (reason : String)
  /-- The operating system says so. -/
  | system (cause : SystemError)
  deriving Repr, DecidableEq

namespace BootError

/-- The name of a failure. -/
def name : BootError → String
  | invalidSlot _ => "InvalidSlot"
  | partitionNotFound _ _ => "PartitionNotFound"
  | failed _ => "Failed"
  | system _ => "Io"

/-- The text of a failure. -/
def message : BootError → String
  | invalidSlot slot => s!"Invalid slot: {slot.toNat}"
  | partitionNotFound partition slotName =>
    s!"Partition {Text.quote partition} not found for slot {slotName}"
  | failed reason => "Operation failed: " ++ reason
  | system _ => "I/O error"

/-- The texts of what lies behind a failure. -/
def causes : BootError → List String
  | system cause => [cause.text]
  | _ => []

end BootError

/-- The devices of a partition in a slot. -/
structure PartitionDevice where
  /-- The device for writing. -/
  writable : Path
  /-- The device for reading. -/
  readonly : Path
  /-- Whether the partition shares space with others. -/
  isDynamic : Bool
  deriving Repr, DecidableEq

end SlotUpdate
