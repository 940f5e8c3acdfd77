/-!
# Slots

A device keeps its system partitions in several slots, one of which is booted. A slot is a number;
the first 26 have a letter, which names the slot and, in lower case, ends the names of its
partitions.
-/

namespace SlotUpdate

/-- The number of a slot. -/
abbrev Slot := UInt32

namespace Slot

/-- The number that stands for no slot. -/
def invalid : Slot := 0xFFFFFFFF

/-- The name of a slot. -/
def name (s : Slot) : String :=
  if s = invalid then "INVALID"
  else if s < 26 then String.singleton (Char.ofNat (65 + s.toNat))
  else "TOO_BIG"

/-- The end of the names of a slot's partitions, for a slot that has a letter. -/
def nameSuffix (s : Slot) : Option String :=
  if s < 26 then some ("_" ++ String.singleton (Char.ofNat (97 + s.toNat))) else none

end Slot

end SlotUpdate
