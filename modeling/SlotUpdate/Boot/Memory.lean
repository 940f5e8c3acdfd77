import SlotUpdate.Boot.Device

/-!
# Slots in memory

Slots for rehearsals: every partition has a device, and activating a slot can be made to fail. Only
the exceptions are kept: the slots that cannot be booted and those that were booted with success.
-/

namespace SlotUpdate

/-- The slots of a rehearsal. -/
structure MemorySlots where
  /-- How many slots there are. -/
  count : UInt32
  /-- The slot that is booted. -/
  current : Slot
  /-- The slot to boot next. -/
  active : Slot
  /-- Whether activating a slot fails. -/
  failSetActive : Bool
  /-- The slots that cannot be booted. -/
  unbootable : List Slot
  /-- The slots that were booted with success. -/
  successful : List Slot
  deriving Repr, DecidableEq

namespace MemorySlots

/-- Two slots, the first of them booted. -/
def initial : MemorySlots := ⟨2, 0, 0, false, [], []⟩

/-- Pretend that another slot is booted. -/
def setCurrent (m : MemorySlots) (slot : Slot) : MemorySlots :=
  { m with current := slot, active := slot }

/-- Fail for a slot that there is not. -/
def check (m : MemorySlots) (slot : Slot) : Except BootError Unit :=
  if slot < m.count then .ok () else .error (.invalidSlot slot)

/-- The devices of a partition in a slot, which always are there. -/
def device (m : MemorySlots) (name : String) (slot : Slot) : Except BootError PartitionDevice := do
  m.check slot
  match slot.nameSuffix with
  | none => throw (.invalidSlot slot)
  | some suffix =>
    let path : Path := ⟨"/dev/block/by-name/" ++ name ++ suffix⟩
    return ⟨path, path, false⟩

/-- Whether a slot can be booted. -/
def isBootable (m : MemorySlots) (slot : Slot) : Except BootError Bool := do
  m.check slot
  return !m.unbootable.contains slot

/-- Whether a slot was booted with success. -/
def isSuccessful (m : MemorySlots) (slot : Slot) : Except BootError Bool := do
  m.check slot
  return m.successful.contains slot

/-- Note that a slot cannot be booted. -/
def markUnbootable (m : MemorySlots) (slot : Slot) : Except BootError MemorySlots := do
  m.check slot
  return { m with
    unbootable := slot :: m.unbootable
    successful := m.successful.filter (· != slot) }

/-- Boot a slot next. -/
def setActive (m : MemorySlots) (slot : Slot) : Except BootError MemorySlots := do
  -- The failure that was asked for comes before the check of the slot.
  if m.failSetActive then throw (.failed "set active")
  m.check slot
  return { m with active := slot, unbootable := m.unbootable.filter (· != slot) }

/-- Note that the current slot was booted with success. -/
def markSuccessful (m : MemorySlots) : MemorySlots :=
  { m with successful := m.current :: m.successful }

end MemorySlots

end SlotUpdate
