import Mathlib.Data.Rat.Floor
import SlotUpdate.Progress.Weights

/-!
# Exact progress

Progress in fractions, without rounding.

An `ExactNumber` is a fraction, or what no share of progress is to be: an infinity, or undefined.
`clampFraction` makes a fraction from zero to one of each (`clampFraction_eq`), so that the share
that is done is the one that the sums of the weights say, if their total fits a word
(`Aggregator.progress_eq`).
-/

namespace SlotUpdate

/-! ## Exact numbers -/

/-- A number of exact arithmetic. -/
inductive ExactNumber where
  /-- A fraction. -/
  | fraction (q : ℚ)
  /-- An infinity. -/
  | infinity (negative : Bool)
  /-- Not a number. -/
  | undefined
  deriving DecidableEq

/-- The numbers that literals are read as. Exact arithmetic leaves this open: it may be the value
that is written, or the nearest one that a float holds. -/
class LiteralReading where
  /-- The number of a literal. -/
  number : Decimal.Literal → ExactNumber

/-- Every literal is read as the value that is written. -/
@[reducible]
def LiteralReading.written : LiteralReading where
  number
    | .notANumber => .undefined
    | .infinity negative => .infinity negative
    | .number negative mantissa exponent =>
      .fraction ((if negative then -1 else 1) * mantissa * 10 ^ exponent)

namespace ExactNumber

/-- An operation on fractions. Of anything else the result is undefined. -/
def lift (op : ℚ → ℚ → ℚ) : ExactNumber → ExactNumber → ExactNumber
  | fraction a, fraction b => fraction (op a b)
  | _, _ => undefined

/-- The quotient of two fractions, unless the second one is zero. -/
def quotient : ExactNumber → ExactNumber → ExactNumber
  | fraction a, fraction b => if b = 0 then undefined else fraction (a / b)
  | _, _ => undefined

/-- Whether a number is less than another one. What is undefined is neither less nor more. -/
def isLess : ExactNumber → ExactNumber → Bool
  | fraction a, fraction b => decide (a < b)
  | infinity true, fraction _ | infinity true, infinity false | fraction _, infinity false => true
  | _, _ => false

/-- Whether a number is at most another one. -/
def isAtMost (x y : ExactNumber) : Bool := isLess x y || (decide (x = y) && decide (x ≠ undefined))

/-- The distance from zero. -/
def magnitude : ExactNumber → ExactNumber
  | fraction q => fraction |q|
  | infinity _ => infinity false
  | undefined => undefined

/-- Whether a number is a fraction. -/
def isFraction : ExactNumber → Bool
  | fraction _ => true
  | _ => false

/-- The number with two places. -/
def twoPlaces : ExactNumber → String
  | fraction q => Decimal.fractionHundredths (decide (q < 0)) q.num.natAbs q.den
  | infinity negative => if negative then "-inf" else "inf"
  | undefined => "NaN"

/-- The nearest number of hundredths that fits 32 bits. -/
def nearestPercent : ExactNumber → UInt32
  | fraction q => .ofNat (min ⌊100 * q + 1 / 2⌋.toNat (2 ^ 32 - 1))
  | infinity false => .ofNat (2 ^ 32 - 1)
  | infinity true | undefined => 0

variable [LiteralReading]

/-- Exact numbers are progress numbers. -/
instance : ProgressNumber ExactNumber where
  add := lift (· + ·)
  sub := lift (· - ·)
  mul := lift (· * ·)
  div := quotient
  lt x y := isLess x y = true
  le x y := isAtMost x y = true
  decLt _ _ := inferInstanceAs (Decidable (_ = true))
  decLe _ _ := inferInstanceAs (Decidable (_ = true))
  ofWord w := fraction w.toNat
  ofLiteral := LiteralReading.number
  abs := magnitude
  isFinite := isFraction
  hundredths := twoPlaces
  percent := nearestPercent

open ProgressNumber

/-- The number of a word is a fraction. -/
theorem ofWord_eq (w : UInt64) : (ofWord w : ExactNumber) = fraction w.toNat := rfl

/-- Zero is a fraction. -/
@[simp]
theorem zero_eq : (zero : ExactNumber) = fraction 0 := by
  have hzero : (0 : UInt64).toNat = 0 := rfl
  show fraction ((0 : UInt64).toNat : ℚ) = _
  rw [hzero, Nat.cast_zero]

/-- One is a fraction. -/
@[simp]
theorem one_eq : (one : ExactNumber) = fraction 1 := by
  have hone : (1 : UInt64).toNat = 1 := rfl
  show fraction ((1 : UInt64).toNat : ℚ) = _
  rw [hone, Nat.cast_one]

/-- Fractions are added as such. -/
@[simp]
theorem fraction_add (a b : ℚ) : fraction a + fraction b = fraction (a + b) := rfl

/-- Fractions are subtracted as such. -/
@[simp]
theorem fraction_sub (a b : ℚ) : fraction a - fraction b = fraction (a - b) := rfl

/-- Fractions are multiplied as such. -/
@[simp]
theorem fraction_mul (a b : ℚ) : fraction a * fraction b = fraction (a * b) := rfl

/-- Fractions are divided as such. -/
theorem fraction_div (a : ℚ) {b : ℚ} (h : b ≠ 0) : fraction a / fraction b = fraction (a / b) :=
  if_neg h

/-- Fractions are compared as such. -/
@[simp]
theorem fraction_lt (a b : ℚ) : fraction a < fraction b ↔ a < b := decide_eq_true_iff

/-- Fractions are compared as such also where they may be equal. -/
@[simp]
theorem fraction_le (a b : ℚ) : fraction a ≤ fraction b ↔ a ≤ b := by
  show isAtMost (fraction a) (fraction b) = true ↔ a ≤ b
  simp [isAtMost, isLess, le_iff_lt_or_eq]

/-- The distance of a fraction from zero is a fraction. -/
@[simp]
theorem abs_fraction (q : ℚ) : abs (fraction q) = fraction |q| := rfl

/-- Only fractions are finite. -/
@[simp]
theorem isFinite_fraction (q : ℚ) : isFinite (fraction q) = true := rfl

end ExactNumber

/-! ## Shares -/

open ExactNumber ProgressNumber

variable [LiteralReading]

/-- A fraction from zero to one is left as it is. -/
theorem clampFraction_fraction {c : ℚ} (hnonneg : 0 ≤ c) (hle : c ≤ 1) :
    clampFraction (fraction c) = fraction c := by
  unfold clampFraction
  rw [zero_eq, one_eq, if_neg, if_neg]
  · rw [fraction_lt]
    exact not_lt.mpr hle
  · rw [fraction_lt, isFinite_fraction]
    simpa using hnonneg

/-- Nothing done is left as it is. -/
theorem clampFraction_zero : clampFraction (zero : ExactNumber) = fraction 0 := by
  rw [zero_eq, clampFraction_fraction le_rfl zero_le_one]

/-- Whatever is brought into the range is a fraction from zero to one. -/
theorem clampFraction_eq (x : ExactNumber) :
    ∃ c : ℚ, 0 ≤ c ∧ c ≤ 1 ∧ clampFraction x = fraction c := by
  unfold clampFraction
  split
  · exact ⟨0, le_rfl, zero_le_one, zero_eq⟩
  · rename_i hfinite
    split
    · exact ⟨1, zero_le_one, le_rfl, one_eq⟩
    · rename_i hle
      obtain ⟨hx, hnonneg⟩ := not_or.mp hfinite
      cases x with
      | fraction q =>
        rw [zero_eq, fraction_lt] at hnonneg
        rw [one_eq, fraction_lt] at hle
        exact ⟨q, not_lt.mp hnonneg, not_lt.mp hle, rfl⟩
      | infinity => exact absurd (fun h => nomatch h) hx
      | undefined => exact absurd (fun h => nomatch h) hx

/-- The share that is done, as the weights say. -/
theorem weightedProgress_eq {done current total : UInt64} (h : total ≠ 0) {x : ExactNumber} {c : ℚ}
    (hx : clampFraction x = fraction c) :
    weightedProgress done current x total =
      fraction ((done.toNat + current.toNat * c) / total.toNat) := by
  have htotal : (total.toNat : ℚ) ≠ 0 := by
    rw [Nat.cast_ne_zero]
    intro hzero
    exact h (UInt64.toNat_inj.mp hzero)
  unfold weightedProgress
  rw [if_neg h, hx, ofWord_eq, ofWord_eq, ofWord_eq, fraction_mul, fraction_add,
    fraction_div _ htotal]

/-- Where there is nothing to do everything is done. -/
theorem weightedProgress_nothing (done current : UInt64) (x : ExactNumber) :
    weightedProgress done current x 0 = fraction 1 := by
  unfold weightedProgress
  rw [if_pos rfl, one_eq]

namespace Aggregator

/-- At a step the share is that of what is done, and of the finished part of the step. -/
theorem progress_eq {a : Aggregator} {weight : UInt64}
    (hweight : a.weights[a.cursor]? = some weight) (htotal : a.total ≠ 0)
    (hfits : a.total < 2 ^ 64) {x : ExactNumber} {c : ℚ} (hx : clampFraction x = fraction c) :
    a.progress x = fraction ((a.done + weight.toNat * c) / a.total) := by
  have hword : ∀ n ≤ a.total, (UInt64.ofNat n).toNat = n := fun n hn =>
    UInt64.toNat_ofNat_of_lt' (Nat.lt_of_le_of_lt hn hfits)
  have htotal' : UInt64.ofNat a.total ≠ 0 := by
    rw [Ne, ← UInt64.toNat_inj, hword _ le_rfl]
    exact htotal
  unfold progress
  rw [hweight]
  dsimp only
  rw [weightedProgress_eq htotal' hx, hword _ a.done_le, hword _ le_rfl]

/-- Where there is nothing to do, or every step is finished, everything is done. -/
theorem progress_eq_one {a : Aggregator} (h : a.total = 0 ∨ a.weights[a.cursor]? = none)
    (x : ExactNumber) : a.progress x = fraction 1 := by
  unfold progress
  split
  · rename_i weight hweight
    rcases h with hzero | hnone
    · rw [hzero]
      exact weightedProgress_nothing _ _ _
    · rw [hnone] at hweight
      cases hweight
  · exact one_eq

end Aggregator

end SlotUpdate
