import SlotUpdate.Bytes

/-!
# Base64

The standard alphabet with canonical padding. `encode` writes a byte string, `decode` reads
symbols and accepts only what `encode` writes: the length is a multiple of four, padding stands
only at the end, and the bits of the last symbol that belong to no byte are zero. What is wrong
with any other input is told by an `Error`.

Reading works on groups of four symbols. All but the last group must be complete; `decodeLast`
reads the last one, where padding is allowed and where the remaining causes arise.
-/

namespace SlotUpdate.Base64

/-- The symbol of a number below 64. -/
def symbol (n : Nat) : UInt8 :=
  if n < 26 then UInt8.ofNat (65 + n)
  else if n < 52 then UInt8.ofNat (71 + n)
  else if n < 62 then UInt8.ofNat (n - 4)
  else if n = 62 then 43
  else 47

/-- The number of a symbol. -/
def value? (b : UInt8) : Option Nat :=
  let n := b.toNat
  if 65 ≤ n ∧ n ≤ 90 then some (n - 65)
  else if 97 ≤ n ∧ n ≤ 122 then some (n - 71)
  else if 48 ≤ n ∧ n ≤ 57 then some (n + 4)
  else if n = 43 then some 62
  else if n = 47 then some 63
  else none

/-- The padding symbol. -/
def pad : UInt8 := 61

/-- The symbols of a byte string. -/
def encode : Bytes → Bytes
  | [] => []
  | [a] =>
    let n := a.toNat * 16
    [symbol (n / 64), symbol (n % 64), pad, pad]
  | [a, b] =>
    let n := (a.toNat * 256 + b.toNat) * 4
    [symbol (n / 4096), symbol (n / 64 % 64), symbol (n % 64), pad]
  | a :: b :: c :: rest =>
    let n := a.toNat * 65536 + b.toNat * 256 + c.toNat
    symbol (n / 262144) :: symbol (n / 4096 % 64) :: symbol (n / 64 % 64) :: symbol (n % 64) ::
      encode rest

/-- Why symbols cannot be read. -/
inductive Error where
  /-- A byte that is no symbol at this place. -/
  | invalidByte (offset : Nat) (byte : UInt8)
  /-- A group with a single symbol. -/
  | invalidLength (length : Nat)
  /-- A last symbol with bits that belong to no byte. -/
  | invalidLastSymbol (offset : Nat) (byte : UInt8)
  /-- Too little padding. -/
  | invalidPadding
  deriving Repr, DecidableEq

/-- The text of an error. -/
def Error.message : Error → String
  | .invalidByte offset byte => s!"Invalid symbol {byte.toNat}, offset {offset}."
  | .invalidLength length => s!"Invalid input length: {length}"
  | .invalidLastSymbol offset byte => s!"Invalid last symbol {byte.toNat}, offset {offset}."
  | .invalidPadding => "Invalid padding"

/-- The number of the symbol at `offset`. -/
def readSymbol (offset : Nat) (b : UInt8) : Except Error Nat :=
  match value? b with
  | some n => .ok n
  | none => .error (.invalidByte offset b)

/-- The numbers of the symbols of the last group and the number of padding symbols after them.
Padding may follow two symbols and nothing may follow padding; `symbols` holds the numbers read so
far with their bytes, `pads` the padding symbols read so far. -/
def scanLast (offset : Nat) (symbols : List (Nat × UInt8)) (pads : Nat) :
    Bytes → Except Error (List (Nat × UInt8) × Nat)
  | [] => .ok (symbols, pads)
  | b :: rest =>
    -- Padding completes a group of at least two symbols.
    if b = pad then
      if symbols.length + pads < 2 then .error (.invalidByte (offset + symbols.length + pads) b)
      else scanLast offset symbols (pads + 1) rest
    else if 0 < pads then .error (.invalidByte (offset + symbols.length) pad)
    else do
      let n ← readSymbol (offset + symbols.length) b
      scanLast offset (symbols ++ [(n, b)]) 0 rest

/-- The bytes of the last group, which starts at `offset`. -/
def decodeLast (offset : Nat) (group : Bytes) : Except Error Bytes := do
  let (symbols, pads) ← scanLast offset [] 0 group
  match symbols with
  | [] => .error (.invalidLength offset)
  | [_] => .error (.invalidLength (offset + 1))
  | (s, _) :: (t, tb) :: rest =>
    if (symbols.length + pads) % 4 ≠ 0 then .error .invalidPadding
    else match rest with
      -- Two symbols hold twelve bits: one byte and four bits that must be zero.
      | [] =>
        let n := s * 64 + t
        if n % 16 ≠ 0 then .error (.invalidLastSymbol (offset + 1) tb)
        else .ok [UInt8.ofNat (n / 16)]
      -- Three symbols hold eighteen bits: two bytes and two bits that must be zero.
      | [(u, ub)] =>
        let n := s * 4096 + t * 64 + u
        if n % 4 ≠ 0 then .error (.invalidLastSymbol (offset + 2) ub)
        else .ok [UInt8.ofNat (n / 1024), UInt8.ofNat (n / 4)]
      -- A whole group of four symbols holds three bytes.
      | (u, _) :: (v, _) :: _ =>
        let n := s * 262144 + t * 4096 + u * 64 + v
        .ok [UInt8.ofNat (n / 65536), UInt8.ofNat (n / 256), UInt8.ofNat n]

/-- The bytes of the groups from `offset` on. -/
def decodeGroups (offset : Nat) : Bytes → Except Error Bytes
  | [] => .ok []
  | a :: b :: c :: d :: e :: rest => do
    let s ← readSymbol offset a
    let t ← readSymbol (offset + 1) b
    let u ← readSymbol (offset + 2) c
    let v ← readSymbol (offset + 3) d
    let n := s * 262144 + t * 4096 + u * 64 + v
    let tail ← decodeGroups (offset + 4) (e :: rest)
    return UInt8.ofNat (n / 65536) :: UInt8.ofNat (n / 256) :: UInt8.ofNat n :: tail
  | group => decodeLast offset group

/-- The bytes that symbols stand for. A last byte that is no symbol and starts a group of its own
is reported before anything else, since it is most often a stray line end. -/
def decode (symbols : Bytes) : Except Error Bytes :=
  match symbols.getLast? with
  | some last =>
    if symbols.length % 4 = 1 ∧ last ≠ pad ∧ value? last = none then
      .error (.invalidByte (symbols.length - 1) last)
    else decodeGroups 0 symbols
  | none => .ok []

end SlotUpdate.Base64
