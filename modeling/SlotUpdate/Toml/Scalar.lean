import SlotUpdate.Decimal.Literal
import SlotUpdate.Toml.Text

/-!
# Numbers, truth values and dates in TOML

The values that are no texts and hold no other values. A number goes on as long as it can: digits
may have underscores between them, and a point or an exponent makes a fraction of it. Four digits
and a dash start a date, two digits and a colon a time of day.
-/

namespace SlotUpdate.Toml

/-! ## Whole numbers and fractions -/

/-- What a message calls a digit that is missing. -/
def aDigit : List String := ["digit"]

/-- Read what follows the first digit of a number: digits, and underscores with a digit after each
of them. -/
def moreDigits (base : Nat) (part : String) : Reader (List Char)
  | '_' :: c :: rest =>
    if isDigitOf base c then prepend c (moreDigits base part rest)
    else .error (.malformed (c :: rest) part aDigit)
  | ['_'] => .error (.malformed [] part aDigit)
  | c :: rest =>
    if isDigitOf base c then prepend c (moreDigits base part rest) else .ok ([], c :: rest)
  | [] => .ok ([], [])

/-- Read digits, at least one. -/
def digits (base : Nat) (part : String) (missing : List String) : Reader (List Char)
  | c :: rest =>
    if isDigitOf base c then prepend c (moreDigits base part rest)
    else .error (.malformed (c :: rest) part missing)
  | [] => .error (.malformed [] part missing)

/-- The sign at the front of a text, and the rest. -/
def splitSign : List Char → Option Char × List Char
  | '+' :: rest => (some '+', rest)
  | '-' :: rest => (some '-', rest)
  | cs => (none, cs)

/-- Read a decimal number that starts with a digit. A zero at its front stands alone. -/
def decimalDigits : Reader (List Char)
  | '0' :: rest => .ok (['0'], rest)
  | cs => digits 10 "integer" [] cs

/-- A whole number that fits 64 bits with a sign. `start` is where it is written. -/
def fit64 (start : List Char) (n : Int) : Except Fault Value :=
  if n < Int64.minValue.toInt then .error (.unusable start .tooSmall)
  else if Int64.maxValue.toInt < n then .error (.unusable start .tooLarge)
  else .ok (.integer n)

/-- The base that a letter after a leading zero names, and what a number in that base is called. -/
def baseOf? : Char → Option (Nat × String)
  | 'x' => some (16, "hexadecimal integer")
  | 'o' => some (8, "octal integer")
  | 'b' => some (2, "binary integer")
  | _ => none

/-- The kind of a number that is no whole number. -/
def fractionPart : String := "floating-point number"

/-- Read an exponent after its letter: a sign and digits. -/
def exponent : Reader (List Char) := fun cs => do
  let (sign, rest) := splitSign cs
  let (ds, rest) ← digits 10 fractionPart [] rest
  return (sign.toList ++ ds, rest)

/-- Read an exponent if there is one. -/
def exponentPart : Reader (List Char)
  | 'e' :: rest => (exponent rest).map fun (ds, rest) => ('e' :: ds, rest)
  | 'E' :: rest => (exponent rest).map fun (ds, rest) => ('e' :: ds, rest)
  | cs => .ok ([], cs)

/-- A number with `places` digits of `ds` after the point. -/
def pointText (ds : List Char) (places : Nat) : String :=
  let padded := List.replicate (places + 1 - ds.length) '0' ++ ds
  let whole := padded.take (padded.length - places)
  let fraction := (padded.drop whole.length).reverse.dropWhile (· == '0')
  String.ofList (whole ++ '.' :: (if fraction = [] then ['0'] else fraction.reverse))

/-- A decimal number without exponent. -/
def decimalText : Decimal.Literal → String
  | .notANumber => "NaN"
  | .infinity negative => if negative then "-inf" else "inf"
  | .number negative mantissa exponent =>
    let ds := Nat.toDigits 10 mantissa
    (if negative then "-" else "") ++
      (if 0 ≤ exponent then
        if mantissa = 0 then "0.0" else pointText (ds ++ List.replicate exponent.toNat '0') 0
      else pointText ds exponent.natAbs)

/-- The fraction that a decimal literal is. `start` is where it is written. -/
def fraction (start literal : List Char) : Except Fault Value :=
  match Decimal.read? literal with
  | none => .error (.malformed start fractionPart [])
  | some n =>
    let x := n.toFloat
    -- A number above the largest float is refused; one below the least is not.
    if x == Decimal.floatInfinity then .error (.malformed start fractionPart [])
    else if x == 0 then .ok (.fraction (if literal.head? = some '-' then "-0.0" else "0.0"))
    else if x.isInf then .ok (.fraction "-inf")
    else .ok (.fraction (decimalText n))

/-- What stands after a word at the front of a text. -/
def afterWord? (word : String) (cs : List Char) : Option (List Char) :=
  if word.toList.isPrefixOf cs then some (cs.drop word.length) else none

/-- Read a number that is not finite, after its sign. -/
def notFinite? (sign : Option Char) (cs : List Char) : Option (Value × List Char) :=
  match afterWord? "inf" cs, afterWord? "nan" cs with
  | some rest, _ => some (.fraction (if sign = some '-' then "-inf" else "inf"), rest)
  | none, some rest => some (.fraction "NaN", rest)
  | none, none => none

/-- Read a number in the base that the letter after its leading zero names. -/
def inBase (base : Nat) (part : String) : Reader Value := fun cs => do
  let (ds, rest) ← digits base part [] (cs.drop 2)
  return (← fit64 cs ((number? base ds).getD 0), rest)

/-- Read a number in decimal. -/
def inDecimal : Reader Value := fun cs => do
  let (sign, rest) := splitSign cs
  match rest with
  | c :: _ =>
    -- Whole digits first: what follows them tells a fraction from a whole number.
    if isDigitOf 10 c then
      let (whole, rest) ← decimalDigits rest
      let front := sign.toList ++ whole
      match rest with
      | '.' :: after => do
        let (places, rest) ← digits 10 fractionPart aDigit after
        let (e, rest) ← exponentPart rest
        return (← fraction cs (front ++ '.' :: places ++ e), rest)
      | _ => do
        let (e, rest) ← exponentPart rest
        if e ≠ [] then return (← fraction cs (front ++ e), rest)
        else
          let n : Int := (number? 10 whole).getD 0
          return (← fit64 cs (if sign = some '-' then -n else n), rest)
    else match notFinite? sign rest with
      | some read => return read
      | none => throw (.malformed rest "integer" [])
  | [] => throw (.malformed [] "integer" [])

/-- Read a number. -/
def number : Reader Value := fun cs =>
  match cs with
  | '0' :: letter :: _ => match baseOf? letter with
    | some (base, part) => inBase base part cs
    | none => inDecimal cs
  | _ => inDecimal cs

/-! ## Dates and times -/

/-- The number that the digits at the front of a text write, if there are so many. -/
def fixed? (count : Nat) (cs : List Char) : Option Nat :=
  if (cs.take count).length = count then number? 10 (cs.take count) else none

/-- Read a number of two digits from `least` to `greatest`. -/
def twoDigits (least greatest : Nat) (part : String) : Reader (List Char) := fun cs =>
  match fixed? 2 cs with
  | none => .error (.malformed cs part [])
  | some n =>
    if least ≤ n ∧ n ≤ greatest then .ok (cs.take 2, cs.drop 2)
    else .error ((Fault.unusable cs .outOfRange).inside part)

/-- Read a character that must stand at the front of a text. -/
def mark (c : Char) (part : String) : Reader (List Char) := fun cs =>
  if cs.head? = some c then .ok ([c], cs.tail) else .error (.malformed cs part [])

/-- How many days a month has. -/
def daysIn (year month : Nat) : Nat :=
  if month = 2 then if year % 4 = 0 ∧ (year % 100 ≠ 0 ∨ year % 400 = 0) then 29 else 28
  else if month ∈ [4, 6, 9, 11] then 30
  else 31

/-- What a date is called. -/
def datePart : String := "date-time"

/-- Whether a date starts at the front of a text. -/
def startsDate (cs : List Char) : Bool :=
  (fixed? 4 cs).isSome && (cs.drop 4).head? == some '-'

/-- Whether a time starts at the front of a text. -/
def startsTime (cs : List Char) : Bool :=
  (fixed? 2 cs).any (· ≤ 23) && (cs.drop 2).head? == some ':'

/-- Read a date. -/
def date : Reader (List Char) := fun cs => do
  let (month, rest) ← twoDigits 1 12 datePart (cs.drop 5)
  let (dash, rest) ← mark '-' datePart rest
  let (day, after) ← twoDigits 1 31 datePart rest
  if daysIn ((fixed? 4 cs).getD 0) ((number? 10 month).getD 0) < (number? 10 day).getD 0 then
    throw ((Fault.unusable rest .outOfRange).inside datePart)
  return (cs.take 5 ++ month ++ dash ++ day, after)

/-- The part of a second that digits write, to nine places and without zeros at the end. -/
def secondPart (ds : List Char) : List Char :=
  match (ds.take 9).reverse.dropWhile (· == '0') with
  | [] => []
  | reversed => '.' :: reversed.reverse

/-- Read a time that starts at the front of a text. -/
def time (part : String) : Reader (List Char) := fun cs => do
  let (minute, rest) ← twoDigits 0 59 part (cs.drop 3)
  let (colon, rest) ← mark ':' part rest
  let (second, rest) ← twoDigits 0 60 part rest
  let front := cs.take 3 ++ minute ++ colon ++ second
  match rest with
  | '.' :: c :: more =>
    if isDigitOf 10 c then
      let ds := (c :: more).takeWhile (isDigitOf 10)
      return (front ++ secondPart ds, (c :: more).drop ds.length)
    else return (front, rest)
  | _ => return (front, rest)

/-- What a distance from universal time is called. -/
def offsetPart : String := "time offset"

/-- Read a distance from universal time, if there is one. -/
def offset : Reader (List Char) := fun cs =>
  match cs with
  | 'Z' :: rest => .ok (['Z'], rest)
  | 'z' :: rest => .ok (['Z'], rest)
  | sign :: rest =>
    if sign = '+' ∨ sign = '-' then do
      let (hour, rest) ← twoDigits 0 23 offsetPart rest
      let (colon, rest) ← mark ':' offsetPart rest
      let (minute, rest) ← twoDigits 0 59 offsetPart rest
      let zero := hour == ['0', '0'] && minute == ['0', '0']
      return ((if zero then '+' else sign) :: hour ++ colon ++ minute, rest)
    else .ok ([], cs)
  | [] => .ok ([], [])

/-- Read a date, and a time with an optional distance from universal time if one follows. -/
def dateTime : Reader Value := fun cs => do
  let (day, rest) ← date cs
  match rest with
  | c :: after =>
    if (c = 'T' ∨ c = 't' ∨ c = ' ') ∧ startsTime after then
      let (hours, rest) ← time datePart after
      let (distance, rest) ← offset rest
      return (.moment (String.ofList (day ++ 'T' :: hours ++ distance)), rest)
    else return (.moment (String.ofList day), rest)
  | [] => return (.moment (String.ofList day), rest)

/-! ## Words -/

/-- Whether a value that is no text and holds no other values starts at the front of a text. -/
def startsScalar (cs : List Char) : Bool :=
  match cs with
  | c :: _ =>
    c == 't' || c == 'f' || isDigitOf 10 c || (notFinite? none cs).isSome ||
      ((splitSign cs).1.isSome &&
        ((splitSign cs).2.head?.any (isDigitOf 10) ||
          (notFinite? none (splitSign cs).2).isSome))
  | [] => false

/-- Read a value that is no text and holds no other values. -/
def scalar : Reader Value := fun cs =>
  match cs with
  | [] => .error (.misplaced [] [])
  | c :: _ =>
    if c.isDigit || c == '+' || c == '-' then
      -- Dates and times start like numbers, so they are tried first.
      if startsDate cs then dateTime cs
      else if startsTime cs then
        (time "time" cs).map fun (t, rest) => (.moment (String.ofList t), rest)
      else number cs
    else if c = '_' then .error (.malformed cs "integer" ["leading digit"])
    else if c = '.' then .error (.malformed cs fractionPart ["leading digit"])
    else match notFinite? none cs with
      | some read => .ok read
      | none => match afterWord? "true" cs, afterWord? "false" cs with
        | some rest, _ => .ok (.truth true, rest)
        | none, some rest => .ok (.truth false, rest)
        | none, none => .error (unquoted cs)

end SlotUpdate.Toml
