import Mathlib.Algebra.Order.Field.Rat
import Mathlib.Algebra.Order.Ring.Abs
import Mathlib.Tactic.FieldSimp
import Mathlib.Tactic.Linarith
import Mathlib.Tactic.Positivity
import SlotUpdate.Decimal.Places

/-!
# Fractions with two places

`roundHalfEven` gives a nearest number, and the even one of two that are equally near
(`isNearest_roundHalfEven`). There is only one such number (`IsNearest.unique`), so that there is
only one text of a fraction with two places (`inHundredths_iff`).
-/

namespace SlotUpdate.Decimal

/-- A number is nearest to a fraction, and even if another one is as near. -/
structure IsNearest (y : ℚ) (n : ℕ) : Prop where
  /-- It is at most one half away. -/
  near : |y - n| ≤ 1 / 2
  /-- At a distance of one half there is another number, and this one is even. -/
  tie : |y - n| = 1 / 2 → Even n

/-- Only one number is nearest. -/
theorem IsNearest.unique {y : ℚ} {m n : ℕ} (hm : IsNearest y m) (hn : IsNearest y n) : m = n := by
  wlog hle : m ≤ n generalizing m n
  · exact (this hn hm (Nat.le_of_not_le hle)).symm
  obtain ⟨-, hmle⟩ := abs_le.mp hm.near
  obtain ⟨hnle, -⟩ := abs_le.mp hn.near
  have hdist : (n : ℚ) ≤ m + 1 := by linarith
  have hclose : n ≤ m + 1 := by exact_mod_cast hdist
  rcases Nat.eq_or_lt_of_le hle with heq | hlt
  · exact heq
  -- Two neighbours are both one half away, but only one of them is even.
  have hnext : n = m + 1 := Nat.le_antisymm hclose hlt
  subst hnext
  rw [Nat.cast_add, Nat.cast_one] at hnle
  have hmid : y - m = 1 / 2 := by linarith
  have hmid' : y - (m + 1 : ℕ) = -(1 / 2) := by
    rw [Nat.cast_add, Nat.cast_one]
    linarith
  have hmeven : Even m := hm.tie (by rw [hmid, abs_of_pos (by norm_num)])
  have hneven : Even (m + 1) := hn.tie (by rw [hmid', abs_neg, abs_of_pos (by norm_num)])
  exact absurd hmeven (Nat.even_add_one.mp hneven)

/-- A number is rounded to at most one half more or less, and to an even one if it is as much. -/
theorem roundHalfEven_bounds {den : ℕ} (num : ℕ) (h : 0 < den) :
    2 * num ≤ 2 * (roundHalfEven num den * den) + den ∧
      2 * (roundHalfEven num den * den) ≤ 2 * num + den ∧
      (2 * num = 2 * (roundHalfEven num den * den) + den ∨
        2 * (roundHalfEven num den * den) = 2 * num + den → Even (roundHalfEven num den)) := by
  have hsplit : den * (num / den) + num % den = num := Nat.div_add_mod num den
  have hrest : num % den < den := Nat.mod_lt num h
  rw [Nat.mul_comm] at hsplit
  unfold roundHalfEven
  dsimp only
  split_ifs with hlow hhigh heven
  · exact ⟨by omega, by omega, by omega⟩
  · rw [Nat.add_mul, Nat.one_mul]
    exact ⟨by omega, by omega, by omega⟩
  · exact ⟨by omega, by omega, fun _ => Nat.even_iff.mpr heven⟩
  · rw [Nat.add_mul, Nat.one_mul]
    exact ⟨by omega, by omega, fun _ => Nat.even_add_one.mpr (mt Nat.even_iff.mp heven)⟩

/-- A quotient is rounded to the nearest number. -/
theorem isNearest_roundHalfEven {den : ℕ} (num : ℕ) (h : 0 < den) :
    IsNearest (num / den) (roundHalfEven num den) := by
  obtain ⟨hlow, hhigh, htie⟩ := roundHalfEven_bounds num h
  have hden : (0 : ℚ) < den := Nat.cast_pos.mpr h
  have hdist : (num / den - roundHalfEven num den : ℚ) =
      (2 * num - 2 * (roundHalfEven num den * den)) / (2 * den) := by
    field_simp
  have hlow' : (2 * num : ℚ) ≤ 2 * (roundHalfEven num den * den) + den := by exact_mod_cast hlow
  have hhigh' : (2 * (roundHalfEven num den * den) : ℚ) ≤ 2 * num + den := by
    exact_mod_cast hhigh
  have hhalf : (1 / 2 : ℚ) = den / (2 * den) := by
    field_simp
  constructor
  · rw [hdist, hhalf, abs_div, abs_of_pos (by positivity : (0 : ℚ) < 2 * den)]
    apply div_le_div_of_nonneg_right _ (by positivity)
    exact abs_le.mpr ⟨by linarith, by linarith⟩
  · intro heq
    rw [hdist, hhalf, abs_div, abs_of_pos (by positivity : (0 : ℚ) < 2 * den),
      div_left_inj' (by positivity)] at heq
    apply htie
    rcases (abs_eq hden.le).mp heq with hpos | hneg
    · left
      have hsum : (2 * num : ℚ) = 2 * (roundHalfEven num den * den) + den := by linarith
      exact_mod_cast hsum
    · right
      have hsum : (2 * (roundHalfEven num den * den) : ℚ) = 2 * num + den := by linarith
      exact_mod_cast hsum

/-! ## Texts -/

/-- Hundredths are written as a whole number, a point and two digits. -/
theorem hundredthsText_eq (n : ℕ) :
    hundredthsText n =
      toString (n / 100) ++ "." ++ toString (n / 10 % 10) ++ toString (n % 10) := by
  have hplaces : ∀ k < 100, (if k < 10 then "0" else "") ++ toString k =
      toString (k / 10) ++ toString (k % 10) := by
    decide +kernel
  have htens : n % 100 / 10 = n / 10 % 10 := by omega
  have hones : n % 100 % 10 = n % 10 := by omega
  unfold hundredthsText
  dsimp only
  rw [String.append_assoc, hplaces _ (Nat.mod_lt n (by decide)), htens, hones,
    ← String.append_assoc]

/-- A text is a fraction with two places: the sign of a negative one, and the nearest number of
hundredths as a whole number, a point and two digits. -/
def InHundredths (q : ℚ) (text : String) : Prop :=
  ∃ n, IsNearest (100 * |q|) n ∧ text = (if q < 0 then "-" else "") ++
    (toString (n / 100) ++ "." ++ toString (n / 10 % 10) ++ toString (n % 10))

/-- There is exactly one such text. -/
theorem inHundredths_iff {q : ℚ} {text : String} :
    InHundredths q text ↔ text = fractionHundredths (decide (q < 0)) q.num.natAbs q.den := by
  have hquotient : ((100 * q.num.natAbs : ℕ) / q.den : ℚ) = 100 * |q| := by
    rw [Rat.abs_def, Rat.divInt_eq_div, Int.cast_natCast, Int.cast_natCast, Nat.cast_mul,
      Nat.cast_ofNat, mul_div_assoc]
  have hnearest := isNearest_roundHalfEven (100 * q.num.natAbs) q.den_pos
  rw [hquotient] at hnearest
  unfold InHundredths fractionHundredths
  rw [hundredthsText_eq]
  simp only [decide_eq_true_eq]
  constructor
  · rintro ⟨n, hn, rfl⟩
    rw [hn.unique hnearest]
  · rintro rfl
    exact ⟨_, hnearest, rfl⟩

/-- Half a hundredth is a tie, which goes to zero, and the sign stays. -/
example : InHundredths (-1 / 200) "-0.00" := inHundredths_iff.mpr (by decide +kernel)

end SlotUpdate.Decimal
