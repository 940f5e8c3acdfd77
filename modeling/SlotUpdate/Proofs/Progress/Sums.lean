import Mathlib.Logic.Function.Iterate
import SlotUpdate.Proofs.Progress.Exact

/-!
# When weights add up

Weights have an aggregator unless an addition on the way to their total overflows. If there is none
it goes through its steps (`Aggregator.after`), and each step adds a weight to what is done.

Weights add up (`Aggregator.AddsUp`) if nothing of this overflows, all sums are exact and every
share is a fraction from zero to one. They do exactly if their total fits a word (`addsUp_iff`),
since every other sum is at most the total (`exactTotal_take_le`, `done_add_le`).
-/

namespace SlotUpdate.Aggregator

open ExactNumber

variable {ws : List UInt64} {n : Nat}

/-- The aggregator of weights after steps have been finished. -/
def after (ws : List UInt64) (n : Nat) : Aggregator := advance^[n] (ofWeights ws)

/-- One step more is finished. -/
theorem after_succ (ws : List UInt64) (n : Nat) : after ws (n + 1) = (after ws n).advance :=
  Function.iterate_succ_apply' _ _ _

/-- Finishing steps leaves the weights as they are. -/
@[simp]
theorem weights_after (ws : List UInt64) (n : Nat) : (after ws n).weights = ws := by
  induction n with
  | zero => rfl
  | succ n ih => rw [after_succ, advance_weights, ih]

/-- The cursor is as far as steps have been finished, and at most behind the last one. -/
theorem cursor_after (ws : List UInt64) (n : Nat) : (after ws n).cursor = min n ws.length := by
  induction n with
  | zero => exact (Nat.zero_min _).symm
  | succ n ih =>
    rw [after_succ]
    rcases Nat.lt_or_ge n ws.length with hinside | hend
    · have hcursor : (after ws n).cursor = n := by omega
      have hlt : (after ws n).cursor < (after ws n).weights.length := by
        rw [hcursor, weights_after]
        exact hinside
      rw [advance_cursor hlt, hcursor]
      omega
    -- Behind the last weight there is nothing to finish, and the cursor stays.
    · have hpast : (after ws n).weights[(after ws n).cursor]? = none := by
        rw [weights_after, List.getElem?_eq_none_iff]
        omega
      rw [advance_of_past hpast, ih]
      omega

/-- The current weight is that of the step after those that are finished. -/
theorem weight_after (ws : List UInt64) (n : Nat) :
    (after ws n).weights[(after ws n).cursor]? = ws[n]? := by
  rw [weights_after, cursor_after]
  rcases Nat.le_total n ws.length with hinside | hpast
  · rw [Nat.min_eq_left hinside]
  · rw [Nat.min_eq_right hpast, List.getElem?_eq_none le_rfl, List.getElem?_eq_none hpast]

/-- Finishing steps leaves the total as it is. -/
@[simp]
theorem total_after (ws : List UInt64) (n : Nat) : (after ws n).total = exactTotal ws := by
  rw [(after ws n).total_eq, weights_after]

/-- What is done is the total of the weights before the cursor. -/
theorem done_after (ws : List UInt64) (n : Nat) :
    (after ws n).done = exactTotal (ws.take (after ws n).cursor) := by
  rw [(after ws n).done_eq, weights_after]

/-! ## Weights that add up -/

variable [LiteralReading]

/-- Every share is a fraction from zero to one, whatever number it is made of. -/
theorem progress_mem {a : Aggregator} (hfits : a.total < 2 ^ 64) (x : ExactNumber) :
    ∃ q : ℚ, a.progress x = fraction q ∧ 0 ≤ q ∧ q ≤ 1 := by
  by_cases hidle : a.total = 0 ∨ a.weights[a.cursor]? = none
  · exact ⟨1, progress_eq_one hidle x, zero_le_one, le_rfl⟩
  obtain ⟨htotal, hnone⟩ := not_or.mp hidle
  obtain ⟨w, hweight⟩ := Option.ne_none_iff_exists'.mp hnone
  obtain ⟨c, hnonneg, hle, hclamp⟩ := clampFraction_eq x
  have hmost : (a.done + w.toNat : ℚ) ≤ a.total := by
    exact_mod_cast done_add_le hweight
  have hpart : (w.toNat : ℚ) * c ≤ w.toNat := mul_le_of_le_one_right (Nat.cast_nonneg _) hle
  have hless : (a.done + w.toNat * c : ℚ) ≤ a.total := by linarith
  exact ⟨_, progress_eq hweight htotal hfits hclamp, by positivity,
    div_le_one_of_le₀ hless (Nat.cast_nonneg _)⟩

/-- Weights add up: no addition that is made of them overflows, the sums are exact, and no share is
out of range. -/
structure AddsUp (ws : List UInt64) : Prop where
  /-- They have an aggregator, and nothing is done of it. -/
  made : ofWeights? ws = some (after ws 0)
  /-- Its total is the exact one, and fits a word. -/
  total : (after ws 0).total = exactTotal ws ∧ (after ws 0).total < 2 ^ 64
  /-- No addition on the way to the total overflows, and the sum so far is the exact one. -/
  summing : ∀ before w later, ws = before ++ w :: later → ∃ sum next,
    checkedSum before = some sum ∧ checkedAdd sum w = some next ∧
      sum.toNat = exactTotal before ∧ next.toNat = exactTotal before + w.toNat
  /-- No addition of a step that is finished overflows. -/
  finishing : ∀ n w, ws[(after ws n).cursor]? = some w →
    (after ws (n + 1)).done = (after ws n).done + w.toNat ∧ (after ws n).done + w.toNat < 2 ^ 64
  /-- What is done is the exact total of the weights before the cursor. -/
  done : ∀ n, (after ws n).done = exactTotal (ws.take (after ws n).cursor)
  /-- It is at most the total, which stays as it is. -/
  bounded : ∀ n, (after ws n).done ≤ (after ws n).total ∧ (after ws n).total = exactTotal ws
  /-- Every share is a fraction from zero to one, whatever number it is made of. -/
  share : ∀ n x, ∃ q : ℚ, (after ws n).progress x = fraction q ∧ 0 ≤ q ∧ q ≤ 1

/-- Weights whose total fits a word add up. -/
theorem addsUp_of_lt (h : exactTotal ws < 2 ^ 64) : AddsUp ws where
  made := ofWeights?_of_lt h
  total := ⟨total_after ws 0, by rwa [total_after]⟩
  summing before w later hsplit := by
    have hprefix : exactTotal before + w.toNat ≤ exactTotal ws := by
      rw [hsplit, exactTotal_append, exactTotal_cons]
      omega
    have hsum : (UInt64.ofNat (exactTotal before)).toNat = exactTotal before :=
      UInt64.toNat_ofNat_of_lt' (Nat.lt_of_le_of_lt (by omega) h)
    have hnext : (UInt64.ofNat (exactTotal before + w.toNat)).toNat =
        exactTotal before + w.toNat :=
      UInt64.toNat_ofNat_of_lt' (Nat.lt_of_le_of_lt hprefix h)
    exact ⟨_, _, checkedSum_eq_some_iff.mpr hsum, checkedAdd_eq_some_iff.mpr (by rw [hnext, hsum]),
      hsum, hnext⟩
  finishing n w hweight := by
    have hcurrent : (after ws n).weights[(after ws n).cursor]? = some w := by
      rw [weights_after]
      exact hweight
    have hle := done_add_le hcurrent
    rw [total_after] at hle
    exact ⟨by rw [after_succ, advance_done hcurrent], Nat.lt_of_le_of_lt hle h⟩
  done n := done_after ws n
  bounded n := ⟨done_le _, total_after ws n⟩
  share n x := progress_mem (by rwa [total_after]) x

/-- Weights add up exactly if their total fits a word. -/
theorem addsUp_iff (ws : List UInt64) : AddsUp ws ↔ exactTotal ws < 2 ^ 64 := by
  constructor
  · intro h
    obtain ⟨htotal, hfits⟩ := h.total
    rwa [htotal] at hfits
  · exact addsUp_of_lt

end SlotUpdate.Aggregator
