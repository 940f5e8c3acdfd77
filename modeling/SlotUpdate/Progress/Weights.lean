import SlotUpdate.Progress.Number

/-!
# Weighted progress

The steps of a piece of work have weights, and the work as a whole is as far as the weights of the
finished steps and the finished part of the current step say. `Aggregator` holds the weights and
the cursor; `Aggregator.progress` is the share that is done, one once every step is, and
`Aggregator.advance` finishes the current step.

The sums of an aggregator are those of its weights. Where they may be too large for a word,
`Aggregator.ofWeights?` makes one only if no addition on the way to the total overflows.
-/

namespace SlotUpdate

open ProgressNumber

variable {α : Type} [ProgressNumber α]

/-- A fraction brought into the range from zero to one. What is no finite number counts as
nothing. -/
def clampFraction (x : α) : α :=
  -- Infinities are no progress either.
  if ¬isFinite x ∨ x < zero then zero
  else if one < x then one
  else x

/-- The share of the whole that is done when `done` of `total` is and the current step, of weight
`current`, is done to the given fraction. Nothing to do is all done. -/
def weightedProgress (done current : UInt64) (fraction : α) (total : UInt64) : α :=
  if total = 0 then one
  else (ofWord done + ofWord current * clampFraction fraction) / ofWord total

/-! ## Sums of weights -/

/-- The sum of two words, unless it overflows. -/
def checkedAdd (a b : UInt64) : Option UInt64 :=
  if a.toNat + b.toNat < UInt64.size then some (a + b) else none

/-- The sum of words, unless an addition on the way to it overflows. -/
def checkedSum (words : List UInt64) : Option UInt64 := words.foldlM checkedAdd 0

namespace Aggregator

/-- The exact sum of the weights. -/
def exactTotal : List UInt64 → Nat
  | [] => 0
  | w :: ws => w.toNat + exactTotal ws

/-- The first weight and the total of the others are the total. -/
@[simp]
theorem exactTotal_cons (w : UInt64) (ws : List UInt64) :
    exactTotal (w :: ws) = w.toNat + exactTotal ws := rfl

/-- The totals of two parts are the total. -/
@[simp]
theorem exactTotal_append (ws vs : List UInt64) :
    exactTotal (ws ++ vs) = exactTotal ws + exactTotal vs := by
  induction ws with
  | nil => exact (Nat.zero_add _).symm
  | cons w ws ih => rw [List.cons_append, exactTotal_cons, exactTotal_cons, ih, Nat.add_assoc]

/-- No weights have no total. -/
theorem exactTotal_take_zero (ws : List UInt64) : exactTotal (ws.take 0) = 0 := rfl

/-- The total of the first weights is at most that of all. -/
theorem exactTotal_take_le (ws : List UInt64) (n : Nat) :
    exactTotal (ws.take n) ≤ exactTotal ws := by
  have hsplit : exactTotal ws = exactTotal (ws.take n) + exactTotal (ws.drop n) := by
    rw [← exactTotal_append, List.take_append_drop]
  omega

/-- One weight more adds to the total. -/
theorem exactTotal_take_succ {ws : List UInt64} {n : Nat} {w : UInt64} (h : ws[n]? = some w) :
    exactTotal (ws.take (n + 1)) = exactTotal (ws.take n) + w.toNat := by
  rw [List.take_add_one, h, exactTotal_append]
  rfl

end Aggregator

/-- Two words have a sum exactly if it fits a word. -/
theorem checkedAdd_eq_some_iff {a b c : UInt64} :
    checkedAdd a b = some c ↔ c.toNat = a.toNat + b.toNat := by
  have hc := c.toNat_lt
  unfold checkedAdd
  split
  · rename_i hfits
    have hsum : (a + b).toNat = a.toNat + b.toNat := by
      rw [UInt64.toNat_add, Nat.mod_eq_of_lt hfits]
    rw [Option.some_inj, ← UInt64.toNat_inj, hsum]
    exact eq_comm
  · rename_i hlarge
    refine iff_of_false (fun hnone => by cases hnone) fun hsum => hlarge ?_
    rw [← hsum]
    exact hc

open Aggregator in
/-- Words have a sum exactly if it fits a word. -/
theorem checkedSum_eq_some_iff {ws : List UInt64} {t : UInt64} :
    checkedSum ws = some t ↔ t.toNat = exactTotal ws := by
  have hfold : ∀ s, ws.foldlM checkedAdd s = some t ↔ t.toNat = s.toNat + exactTotal ws := by
    induction ws with
    | nil =>
      intro s
      show some s = some t ↔ t.toNat = s.toNat
      rw [Option.some_inj, ← UInt64.toNat_inj]
      exact eq_comm
    | cons w ws ih =>
      intro s
      rw [List.foldlM_cons, Option.bind_eq_bind, Option.bind_eq_some_iff, exactTotal_cons,
        ← Nat.add_assoc]
      constructor
      · rintro ⟨u, hu, ht⟩
        rw [(ih u).mp ht, checkedAdd_eq_some_iff.mp hu]
      · intro ht
        -- The sum of the first two is a word since the whole sum is.
        have hu : (UInt64.ofNat (s.toNat + w.toNat)).toNat = s.toNat + w.toNat :=
          UInt64.toNat_ofNat_of_lt' (Nat.lt_of_le_of_lt (by omega) t.toNat_lt)
        exact ⟨_, checkedAdd_eq_some_iff.mpr hu, (ih _).mpr (by rw [hu, ht])⟩
  exact (hfold 0).trans (by rw [UInt64.toNat_zero, Nat.zero_add])

/-! ## Aggregators -/

/-- Steps with weights, and how many of them are finished. -/
@[ext]
structure Aggregator where
  /-- The weights of the steps. -/
  weights : List UInt64
  /-- Their sum. -/
  total : Nat
  /-- The sum of the weights of the finished steps. -/
  done : Nat
  /-- How many steps are finished. -/
  cursor : Nat
  /-- The total is that of all weights. -/
  total_eq : total = Aggregator.exactTotal weights
  /-- What is done is the total of the weights before the cursor. -/
  done_eq : done = Aggregator.exactTotal (weights.take cursor)
  /-- The cursor is at a weight, or right behind the last one. -/
  cursor_le : cursor ≤ weights.length
  deriving Repr, DecidableEq

namespace Aggregator

/-- Steps of the given weights, none of them finished. -/
def ofWeights (weights : List UInt64) : Aggregator where
  weights := weights
  total := exactTotal weights
  done := 0
  cursor := 0
  total_eq := rfl
  done_eq := (exactTotal_take_zero weights).symm
  cursor_le := Nat.zero_le _

/-- Steps of the given weights, unless the sum of the weights overflows. -/
def ofWeights? (weights : List UInt64) : Option Aggregator :=
  match hsum : checkedSum weights with
  | none => none
  | some total => some
    { weights := weights
      total := total.toNat
      done := 0
      cursor := 0
      total_eq := checkedSum_eq_some_iff.mp hsum
      done_eq := (exactTotal_take_zero weights).symm
      cursor_le := Nat.zero_le _ }

/-- Weights whose total fits a word have an aggregator. -/
theorem ofWeights?_of_lt {ws : List UInt64} (h : exactTotal ws < UInt64.size) :
    ofWeights? ws = some (ofWeights ws) := by
  have hword : (UInt64.ofNat (exactTotal ws)).toNat = exactTotal ws := UInt64.toNat_ofNat_of_lt' h
  unfold ofWeights?
  split
  · rename_i hnone
    rw [checkedSum_eq_some_iff.mpr hword] at hnone
    cases hnone
  · rename_i total hsome
    have htotal : total.toNat = exactTotal ws := checkedSum_eq_some_iff.mp hsome
    exact congrArg some (Aggregator.ext rfl htotal rfl rfl)

/-- Other weights have none. -/
theorem ofWeights?_of_le {ws : List UInt64} (h : UInt64.size ≤ exactTotal ws) :
    ofWeights? ws = none := by
  unfold ofWeights?
  split
  · rfl
  · rename_i total hsome
    have hword : total.toNat < UInt64.size := total.toNat_lt
    rw [checkedSum_eq_some_iff.mp hsome] at hword
    exact absurd h (Nat.not_le_of_lt hword)

/-- The share of the whole that is done when the current step is done to the given fraction. -/
def progress (a : Aggregator) (fraction : α) : α :=
  match a.weights[a.cursor]? with
  | some weight => weightedProgress (.ofNat a.done) weight fraction (.ofNat a.total)
  | none => one

/-- Finish the current step, if there is one. -/
def advance (a : Aggregator) : Aggregator :=
  match hweight : a.weights[a.cursor]? with
  | some weight =>
    { a with
      done := a.done + weight.toNat
      cursor := a.cursor + 1
      done_eq := by rw [exactTotal_take_succ hweight, a.done_eq]
      cursor_le := (List.getElem?_eq_some_iff.mp hweight).1 }
  | none => a

/-- Finishing a step leaves the weights as they are. -/
@[simp]
theorem advance_weights (a : Aggregator) : a.advance.weights = a.weights := by
  unfold advance
  split <;> rfl

/-- Finishing a step leaves the total as it is. -/
@[simp]
theorem advance_total (a : Aggregator) : a.advance.total = a.total := by
  unfold advance
  split <;> rfl

/-- Where there is no step nothing is finished. -/
theorem advance_of_past {a : Aggregator} (h : a.weights[a.cursor]? = none) : a.advance = a := by
  unfold advance
  split
  · rename_i weight hweight
    rw [h] at hweight
    cases hweight
  · rfl

/-- Finishing a step adds its weight to what is done. -/
theorem advance_done {a : Aggregator} {weight : UInt64} (h : a.weights[a.cursor]? = some weight) :
    a.advance.done = a.done + weight.toNat := by
  unfold advance
  split
  · rename_i weight' hweight
    rw [h] at hweight
    rw [Option.some.inj hweight]
  · rename_i hnone
    rw [h] at hnone
    cases hnone

/-- Finishing a step moves the cursor on, if there is a step. -/
theorem advance_cursor {a : Aggregator} (h : a.cursor < a.weights.length) :
    a.advance.cursor = a.cursor + 1 := by
  unfold advance
  split
  · rfl
  · rename_i hnone
    rw [List.getElem?_eq_getElem h] at hnone
    cases hnone

/-- What is done is at most the total. -/
theorem done_le (a : Aggregator) : a.done ≤ a.total := by
  rw [a.done_eq, a.total_eq]
  exact exactTotal_take_le _ _

/-- What is done and the weight of the current step are at most the total. -/
theorem done_add_le {a : Aggregator} {w : UInt64} (h : a.weights[a.cursor]? = some w) :
    a.done + w.toNat ≤ a.total := by
  rw [a.done_eq, a.total_eq, ← exactTotal_take_succ h]
  exact exactTotal_take_le _ _

end Aggregator

end SlotUpdate
