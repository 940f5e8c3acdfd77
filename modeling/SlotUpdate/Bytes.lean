/-!
# Byte strings

A byte string is a list of bytes. This module holds its two written forms: the hexadecimal text
of a byte string, with its reader, and the big-endian digits of a natural number.

The big-endian reader `toNat` and writer `ofNat` are inverse to each other on numbers that fit:
`toNat_ofNat` says that reading back the `width` written digits gives the number modulo
the power `width` of 256, and `length_ofNat` that exactly `width` digits are written.
-/

namespace SlotUpdate

/-- A byte string. -/
abbrev Bytes := List UInt8

namespace Bytes

/-! ## Hexadecimal text -/

/-- The lower-case hexadecimal digit of a number below sixteen. -/
def hexDigit (n : Nat) : Char :=
  if n < 10 then Char.ofNat (48 + n) else Char.ofNat (87 + n)

/-- The two hexadecimal digits of a byte, the high one first. -/
def hexPair (b : UInt8) : List Char :=
  [hexDigit (b.toNat / 16), hexDigit (b.toNat % 16)]

/-- The hexadecimal text of a byte string: two lower-case digits for each byte. -/
def toHex (b : Bytes) : String :=
  String.ofList (b.flatMap hexPair)

/-- The value of a hexadecimal digit of either case. -/
def hexValue? (c : Char) : Option Nat :=
  if '0' ≤ c ∧ c ≤ '9' then some (c.toNat - 48)
  else if 'a' ≤ c ∧ c ≤ 'f' then some (c.toNat - 87)
  else if 'A' ≤ c ∧ c ≤ 'F' then some (c.toNat - 55)
  else none

/-- The bytes written by pairs of hexadecimal digits; `none` for an odd number of digits or for
another character. -/
def ofHexDigits? : List Char → Option Bytes
  | [] => some []
  | [_] => none
  | a :: b :: rest => do
    let high ← hexValue? a
    let low ← hexValue? b
    let tail ← ofHexDigits? rest
    return UInt8.ofNat (16 * high + low) :: tail

/-- The byte string that a hexadecimal text writes. -/
def ofHex? (s : String) : Option Bytes :=
  ofHexDigits? s.toList

/-! ## Big-endian numbers -/

/-- The number whose base-256 digits are `b`, the most significant first. -/
def toNat (b : Bytes) : Nat :=
  b.foldl (fun n d => 256 * n + d.toNat) 0

/-- The last `width` base-256 digits of `n`, the most significant first. -/
def ofNat : (width : Nat) → Nat → Bytes
  | 0, _ => []
  | width + 1, n => ofNat width (n / 256) ++ [UInt8.ofNat (n % 256)]

/-- The number of base-256 digits of `n`; zero has none. -/
def digitCount (n : Nat) : Nat :=
  if h : n = 0 then 0 else digitCount (n / 256) + 1
termination_by n
decreasing_by omega

/-- The base-256 digits of `n` without leading zeros; zero is written as one zero digit. -/
def ofNatMinimal (n : Nat) : Bytes :=
  ofNat (max 1 (digitCount n)) n

/-- The number whose base-256 digits are `b`, the least significant first. -/
def toNatLittle (b : Bytes) : Nat :=
  b.foldr (fun d n => d.toNat + 256 * n) 0

/-- The last `width` base-256 digits of `n`, the least significant first. -/
def ofNatLittle (width n : Nat) : Bytes :=
  (ofNat width n).reverse

/-- Exactly `width` digits are written. -/
@[simp] theorem length_ofNat (width n : Nat) : (ofNat width n).length = width := by
  induction width generalizing n with
  | zero => rfl
  | succ w ih => simp [ofNat, ih]

/-- Reading one more digit multiplies by 256 and adds it. -/
theorem toNat_append_singleton (b : Bytes) (d : UInt8) :
    toNat (b ++ [d]) = 256 * toNat b + d.toNat := by
  simp [toNat]

/-- Reading back the written digits gives the number modulo the range of the width. -/
theorem toNat_ofNat (width n : Nat) : toNat (ofNat width n) = n % Nat.pow 256 width := by
  induction width generalizing n with
  | zero => simp [ofNat, toNat, Nat.mod_one]
  | succ w ih =>
    -- The last digit is the remainder, and the others write the quotient.
    show _ = n % (Nat.pow 256 w * 256)
    rw [ofNat, toNat_append_singleton, ih, Nat.mul_comm (Nat.pow 256 w) 256, Nat.mod_mul,
      UInt8.toNat_ofNat']
    omega

end Bytes

end SlotUpdate
