import SlotUpdate.Decimal.Literal
import SlotUpdate.Decimal.Places

/-!
# The arithmetic of progress

Progress is computed in floats when the program runs. The same computations make sense in any
arithmetic with the operations of `ProgressNumber`, for instance in exact fractions, where their
laws hold without rounding.
-/

namespace SlotUpdate

/-- The operations that progress is computed with. -/
class ProgressNumber (α : Type) extends Add α, Sub α, Mul α, Div α, LT α, LE α where
  /-- Whether `<` holds. -/
  decLt : DecidableRel (fun a b : α => a < b)
  /-- Whether `≤` holds. -/
  decLe : DecidableRel (fun a b : α => a ≤ b)
  /-- The number of a word. -/
  ofWord : UInt64 → α
  /-- The number of a literal. -/
  ofLiteral : Decimal.Literal → α
  /-- The distance from zero. -/
  abs : α → α
  /-- Whether the number is neither infinite nor undefined. -/
  isFinite : α → Bool
  /-- The number with two places. -/
  hundredths : α → String
  /-- The number of hundredths, to the nearest one, a half away from zero. It is at least zero and
  fits 32 bits. -/
  percent : α → UInt32

namespace ProgressNumber

variable {α : Type} [ProgressNumber α]

/-- Whether a number is less than another one can be decided. -/
instance (a b : α) : Decidable (a < b) := decLt a b

/-- Whether a number is at most another one can be decided. -/
instance (a b : α) : Decidable (a ≤ b) := decLe a b

/-- Zero. -/
def zero : α := ofWord 0

/-- One. -/
def one : α := ofWord 1

end ProgressNumber

/-- Floats are progress numbers. -/
instance : ProgressNumber Float where
  decLt a b := inferInstanceAs (Decidable (a < b))
  decLe a b := inferInstanceAs (Decidable (a ≤ b))
  ofWord := UInt64.toFloat
  ofLiteral := Decimal.Literal.toFloat
  abs := Float.abs
  isFinite := Float.isFinite
  hundredths := Decimal.floatHundredths
  percent x := (x * 100.0).round.toUInt32

end SlotUpdate
