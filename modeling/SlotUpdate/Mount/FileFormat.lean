import SlotUpdate.Bytes

/-!
# Formats of program files

The format of a file as its first bytes tell it. Programs of the usual binary format start with a
header that gives the word size, the order of bytes and the machine; all else is just data.
-/

namespace SlotUpdate.FileFormat

/-- How many bytes of a file are looked at. -/
def headerSize : Nat := 20

/-- The bytes that a binary program starts with. -/
def magic : Bytes := [0x7F, 0x45, 0x4C, 0x46]

/-- The name of a machine. -/
def machineName? : Nat → Option String
  | 3 => some "x86"
  | 8 => some "mips"
  | 40 => some "arm"
  | 62 => some "x86-64"
  | 183 => some "aarch64"
  | _ => none

/-- The name of a word size. -/
def wordName? : UInt8 → Option String
  | 1 => some "32-bit"
  | 2 => some "64-bit"
  | _ => none

/-- The name of an order of bytes, and the number that two bytes are in it. -/
def orderName? (machine : Bytes) : UInt8 → Option (String × Nat)
  | 1 => some ("little-endian", machine.toNatLittle)
  | 2 => some ("big-endian", machine.toNat)
  | _ => none

/-- The description of a binary program by its header. -/
def describeBinary? (header : Bytes) : Option String := do
  guard (header.length = headerSize ∧ header.take 4 = magic)
  -- Byte 4 tells the word size, byte 5 the order of bytes, bytes 18 and 19 the machine.
  let word ← wordName? (← header[4]?)
  let (order, machine) ← orderName? (header.drop 18) (← header[5]?)
  return "ELF " ++ word ++ " " ++ order ++
    (match machineName? machine with | some n => " " ++ n | none => "")

/-- The description of a file by its contents, if it can be read. -/
def describe : Option Bytes → String
  | none => "File not found."
  | some contents => (describeBinary? (contents.take headerSize)).getD "data"

end SlotUpdate.FileFormat
