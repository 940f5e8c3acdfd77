/-!
# Decimal literals

A literal is an optional sign and then a word for infinity or for "not a number", in any case, or
digits with at most one point, at least one digit, and an optional power of ten. `read?` reads a
text that is exactly one literal.

The number of a literal is kept exactly, as a natural number times a power of ten; `toFloat` rounds
it to the nearest float. Powers of ten far outside the range of floats are settled before any power
is computed.
-/

namespace SlotUpdate.Decimal

/-- The value of a literal. -/
inductive Literal where
  /-- Not a number. -/
  | notANumber
  /-- An infinity. -/
  | infinity (negative : Bool)
  /-- `mantissa * 10 ^ exponent`, or its negative. -/
  | number (negative : Bool) (mantissa : Nat) (exponent : Int)
  deriving Repr, DecidableEq

/-- Whether a character is one of the ten ASCII digits. -/
def isDigit (c : Char) : Bool :=
  '0' ≤ c && c ≤ '9'

/-- The number that digits write. -/
def digitsValue (ds : List Char) : Nat :=
  ds.foldl (fun n d => 10 * n + (d.toNat - 48)) 0

/-- The sign at the front of a text, true for a minus, and the rest. -/
def readSign : List Char → Bool × List Char
  | '-' :: rest => (true, rest)
  | '+' :: rest => (false, rest)
  | rest => (false, rest)

/-- The exponent that a text writes, if it is empty or exactly one exponent. -/
def readExponent? : List Char → Option Int
  | [] => some 0
  | e :: rest =>
    let (negative, ds) := readSign rest
    if (e = 'e' ∨ e = 'E') ∧ ds ≠ [] ∧ ds.all isDigit then
      some (if negative then -(digitsValue ds : Int) else digitsValue ds)
    else none

/-- The number that a text without sign writes. -/
def readNumber? (negative : Bool) (cs : List Char) : Option Literal :=
  let whole := cs.takeWhile isDigit
  let rest := cs.dropWhile isDigit
  let (fraction, tail) := match rest with
    | '.' :: r => (r.takeWhile isDigit, r.dropWhile isDigit)
    | r => ([], r)
  if whole = [] ∧ fraction = [] then none
  else (readExponent? tail).map fun e =>
    .number negative (digitsValue (whole ++ fraction)) (e - fraction.length)

/-- The literal that a text is. -/
def read? (cs : List Char) : Option Literal :=
  let (negative, body) := readSign cs
  let word := String.ofList (body.map Char.toLower)
  if word = "nan" then some .notANumber
  else if word = "inf" ∨ word = "infinity" then some (.infinity negative)
  else readNumber? negative body

/-- Infinity as a float. -/
def floatInfinity : Float := Float.ofBits 0x7FF0000000000000

/-- The float nearest to `mantissa * 10 ^ exponent`. -/
def nearestFloat (mantissa : Nat) (exponent : Int) : Float :=
  let magnitude : Int := (Nat.toDigits 10 mantissa).length + exponent
  -- The smallest float above zero is near 10 ^ -324 and the largest near 10 ^ 308.
  if mantissa = 0 ∨ magnitude < -400 then Float.ofBits 0
  else if 400 < magnitude then floatInfinity
  else if exponent < 0 then Float.ofScientific mantissa true exponent.natAbs
  else Float.ofScientific mantissa false exponent.natAbs

/-- The float nearest to a literal. -/
def Literal.toFloat : Literal → Float
  | .notANumber => Float.ofBits 0x7FF8000000000000
  | .infinity negative => if negative then -floatInfinity else floatInfinity
  | .number negative mantissa exponent =>
    let x := nearestFloat mantissa exponent
    if negative then -x else x

end SlotUpdate.Decimal
