/-!
# Decimal numbers with a fixed number of places

A float stands for an exact fraction. `floatHundredths` writes it with two places: the fraction is
rounded to the nearest hundredth, and a tie goes to the even neighbour. The sign of a negative
number stays when the number rounds to zero.
-/

namespace SlotUpdate.Decimal

/-- The integer nearest to `num / den`; a tie goes to the even neighbour. -/
def roundHalfEven (num den : Nat) : Nat :=
  let q := num / den
  let r := num % den
  if 2 * r < den then q
  else if den < 2 * r then q + 1
  else if q % 2 = 0 then q
  else q + 1

/-- A number of hundredths with a point and two places. -/
def hundredthsText (n : Nat) : String :=
  let frac := n % 100
  toString (n / 100) ++ "." ++ (if frac < 10 then "0" else "") ++ toString frac

/-- A fraction with two places. -/
def fractionHundredths (negative : Bool) (num den : Nat) : String :=
  (if negative then "-" else "") ++ hundredthsText (roundHalfEven (100 * num) den)

/-- A float with two places. -/
def floatHundredths (x : Float) : String :=
  let bits := x.toBits.toNat
  let negative := decide (1 <<< 63 ≤ bits)
  let exponent := bits / (1 <<< 52) % 2048
  let mantissa := bits % (1 <<< 52)
  if exponent = 2047 then
    if mantissa = 0 then if negative then "-inf" else "inf" else "NaN"
  else
    -- The number is `m * 2 ^ (e - 1075)`; the leading bit is not stored unless it is zero.
    let m := if exponent = 0 then mantissa else mantissa + (1 <<< 52)
    let e := max exponent 1
    if e < 1075 then fractionHundredths negative m (1 <<< (1075 - e))
    else fractionHundredths negative (m <<< (e - 1075)) 1

end SlotUpdate.Decimal
