import SlotUpdate.Bytes

/-!
# Tagged values

Certificates and keys are nested values, each with a tag and a length, in the form where every
value is written in exactly one way. A reader takes values off the front of a byte string;
`Der.inside` reads what is inside a value and fails unless all of it is read.
-/

namespace SlotUpdate.Der

/-- A reader takes something off the front of a byte string, or fails. -/
abbrev Reader (α : Type) := StateT Bytes Option α

/-- Tags that are used. -/
inductive Tag where
  /-- A truth value. -/
  | boolean
  /-- A number. -/
  | integer
  /-- A string of bits. -/
  | bitString
  /-- A string of bytes. -/
  | octetString
  /-- No value. -/
  | null
  /-- The name of a kind. -/
  | identifier
  /-- A time with a year of two digits. -/
  | shortTime
  /-- A time with a year of four digits. -/
  | longTime
  /-- A sequence of values. -/
  | sequence
  /-- A set of values. -/
  | set
  deriving Repr, DecidableEq

/-- The byte of a tag. -/
def Tag.byte : Tag → UInt8
  | .boolean => 0x01
  | .integer => 0x02
  | .bitString => 0x03
  | .octetString => 0x04
  | .null => 0x05
  | .identifier => 0x06
  | .shortTime => 0x17
  | .longTime => 0x18
  | .sequence => 0x30
  | .set => 0x31

/-- The bytes of tags that belong to no class of their own. -/
def universalTags : Bytes :=
  [0x01, 0x02, 0x03, 0x04, 0x05, 0x06, 0x09, 0x0A, 0x0C, 0x12, 0x13, 0x14, 0x15, 0x16, 0x17, 0x18,
   0x1A, 0x1B, 0x1E, 0x30, 0x31]

/-- Whether a byte is a tag. -/
def isTag (b : UInt8) : Bool :=
  if b < 0x40 then universalTags.contains b else b % 0x20 != 0x1F

/-- The longest length of a value. -/
def maxLength : Nat := 0xFFFFFFF

/-- Take one byte. -/
def byte : Reader UInt8 := fun
  | [] => none
  | b :: rest => some (b, rest)

/-- Take `n` bytes. -/
def take (n : Nat) : Reader Bytes := fun b =>
  if n ≤ b.length then some (b.take n, b.drop n) else none

/-- Take a length: one byte, or one with the number of the bytes that follow. The shortest form is
the only one. -/
def length : Reader Nat := do
  let b ← byte
  if b < 0x80 then return b.toNat
  else if b = 0x80 ∨ 0x84 < b then failure
  else
    let digits ← take (b.toNat - 0x80)
    let n := digits.toNat
    -- A length below 128 fits one byte, and a leading zero could be left out.
    if n < 0x80 ∨ digits.head? = some 0 ∨ maxLength < n then failure else return n

/-- A value. -/
structure Value where
  /-- The byte of its tag. -/
  tag : UInt8
  /-- What is inside. -/
  content : Bytes
  deriving Repr, DecidableEq

/-- Take a value of any tag. -/
def value : Reader Value := do
  let tag ← byte
  if isTag tag then return ⟨tag, ← take (← length)⟩ else failure

/-- Take a value of the tag and answer what is inside. -/
def content (tag : UInt8) : Reader Bytes := do
  let v ← value
  if v.tag = tag then return v.content else failure

/-- The next byte, which stays. -/
def peek : Reader (Option UInt8) := fun b => some (b.head?, b)

/-- Read all of a byte string. -/
def all? {α : Type} (r : Reader α) (b : Bytes) : Option α :=
  match r b with
  | some (a, []) => some a
  | _ => none

/-- Take a value of the tag and read all that is inside. -/
def inside {α : Type} (tag : UInt8) (r : Reader α) : Reader α := do
  let c ← content tag
  match all? r c with
  | some a => return a
  | none => failure

/-- Take a sequence and read all that is inside. -/
def sequence {α : Type} (r : Reader α) : Reader α := inside Tag.sequence.byte r

/-- Read values up to the end; `fuel` bounds their number. -/
def manyFrom {α : Type} (r : Reader α) : (fuel : Nat) → Reader (List α)
  | 0 => return []
  | fuel + 1 => do
    match ← peek with
    | none => return []
    | some _ =>
      let a ← r
      return a :: (← manyFrom r fuel)

/-- Read values up to the end. There are no more values than bytes. -/
def many {α : Type} (r : Reader α) : Reader (List α) := fun b => manyFrom r (b.length + 1) b

/-! ## Kinds of values -/

/-- Whether bytes are a number in its shortest form. -/
def isInteger : Bytes → Bool
  | [] => false
  | [_] => true
  | a :: b :: _ => !(a == 0 && b < 0x80) && !(a == 0xFF && 0x80 ≤ b)

/-- Take a number and answer its bytes. -/
def integerBytes : Reader Bytes := do
  let c ← content Tag.integer.byte
  if isInteger c then return c else failure

/-- Take a number that is not negative. -/
def natural : Reader Nat := do
  let c ← integerBytes
  match c with
  | b :: _ => if b < 0x80 then return c.toNat else failure
  | [] => failure

/-- Whether the bytes after the first of an identifier are numbers in groups of seven bits, of
which the first ones are not too large. -/
def areArcs (count : Nat) : Bytes → Bool
  | [] => count == 0
  | b :: rest =>
    if 5 ≤ count ∧ 0x10 ≤ b then false
    else areArcs (if b < 0x80 then 0 else count + 1) rest

/-- Take an identifier. -/
def identifier : Reader Bytes := do
  let c ← content Tag.identifier.byte
  match c with
  | b :: rest =>
    if 3 ≤ c.length ∧ c.length ≤ 39 ∧ b < 120 ∧ areArcs 0 rest then return c else failure
  | [] => failure

/-- A string of bits. -/
structure Bits where
  /-- How many bits of the last byte do not count. -/
  unused : Nat
  /-- The bytes. -/
  bytes : Bytes
  deriving Repr, DecidableEq

/-- The string of bits inside a value. -/
def bits? : Bytes → Option Bits
  | [] => none
  | u :: bytes => if u < 8 ∧ (u = 0 ∨ bytes ≠ []) then some ⟨u.toNat, bytes⟩ else none

/-- Take a string of bits with the byte of its tag. -/
def bitString (tag : UInt8) : Reader Bits := do
  match bits? (← content tag) with
  | some b => return b
  | none => failure

/-- Take a truth value. -/
def boolean : Reader Bool := do
  match ← content Tag.boolean.byte with
  | [0] => return false
  | [0xFF] => return true
  | _ => failure

end SlotUpdate.Der
