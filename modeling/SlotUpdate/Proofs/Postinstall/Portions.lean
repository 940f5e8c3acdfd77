import SlotUpdate.Proofs.Postinstall.Tale
import SlotUpdate.Proofs.Progress.Sums

/-!
# The share of an attempt in fractions

Each partition that is to be run weighs the same, and the others weigh nothing. So the share that is
done at a place in the plan is a fraction of the number of partitions that are to be run
(`shareAt_eq`): those before the place, and a part of the one there. It lies between the share
before the place and the one behind it (`Proportionate`), whatever number was told.

The count at a place is the aggregator of the weights after as many steps (`countAt_eq_after`). Its
total fits a word, since each weight is at most one and no list has as many elements as there are
words (`countAt_total_lt`).
-/

namespace SlotUpdate.Runner

variable {plan : InstallPlan}

/-! ## Counting the partitions that are to be run -/

/-- How many partitions before a place are to be run. -/
def runsBefore (plan : InstallPlan) (i : Nat) : Nat :=
  (plan.partitions.take i).countP (runsUnder plan)

/-- One if the partition at a place is to be run, and zero otherwise. -/
def runsAt (plan : InstallPlan) (i : Nat) : Nat :=
  (plan.partitions[i]?.toList).countP (runsUnder plan)

/-- How many partitions are to be run. -/
def runsInAll (plan : InstallPlan) : Nat := plan.partitions.countP (runsUnder plan)

/-- Those before a place and the one there are those before the next place. -/
theorem runsBefore_succ (plan : InstallPlan) (i : Nat) :
    runsBefore plan (i + 1) = runsBefore plan i + runsAt plan i := by
  unfold runsBefore runsAt
  rw [List.take_add_one, List.countP_append]

/-- Behind a place there are no fewer than before it. -/
theorem runsBefore_mono (plan : InstallPlan) {i j : Nat} (h : i ≤ j) :
    runsBefore plan i ≤ runsBefore plan j :=
  (List.take_sublist_take_left h).countP_le

/-- No more are before a place than there are in all. -/
theorem runsBefore_le (plan : InstallPlan) (i : Nat) : runsBefore plan i ≤ runsInAll plan :=
  (List.take_sublist i plan.partitions).countP_le

/-- Past the last partition all of them are done. -/
theorem runsBefore_of_le {i : Nat} (h : plan.partitions.length ≤ i) :
    runsBefore plan i = runsInAll plan := by
  unfold runsBefore runsInAll
  rw [List.take_of_length_le h]

/-- Where none is to be run from a place on, all of them are done. -/
theorem runsBefore_of_idle {i : Nat}
    (h : ∀ j p, i ≤ j → plan.partitions[j]? = some p → runsUnder plan p = false) :
    runsBefore plan i = runsInAll plan := by
  have hnone : (plan.partitions.drop i).countP (runsUnder plan) = 0 := by
    rw [List.countP_eq_zero]
    intro p hp
    obtain ⟨j, hj⟩ := List.mem_iff_getElem?.mp hp
    rw [List.getElem?_drop] at hj
    rw [h (i + j) p (Nat.le_add_right i j) hj]
    exact Bool.false_ne_true
  unfold runsBefore runsInAll
  rw [← List.take_append_drop i plan.partitions, List.countP_append, hnone, List.take_append_drop,
    Nat.add_zero]

/-- The weight of a partition: one if it is to be run. -/
def weightOf (plan : InstallPlan) (p : Partition) : UInt64 := if runsUnder plan p then 1 else 0

/-- The total of weights is the number of partitions that are to be run. -/
theorem exactTotal_weights (plan : InstallPlan) (ps : List Partition) :
    Aggregator.exactTotal (ps.map (weightOf plan)) = ps.countP (runsUnder plan) := by
  induction ps with
  | nil => rfl
  | cons p ps ih =>
    rw [List.map_cons, Aggregator.exactTotal_cons, ih, List.countP_cons, Nat.add_comm]
    unfold weightOf
    split <;> rfl

/-- The count at a place is that of the weights, after as many steps. -/
theorem countAt_eq_after (plan : InstallPlan) (i : Nat) :
    countAt plan i = .after (plan.partitions.map (weightOf plan)) i := by
  induction i with
  | zero => rfl
  | succ i ih => rw [countAt, ih, Aggregator.after_succ]

/-- At every place the count has the weights of the partitions. -/
theorem countAt_weights (plan : InstallPlan) (i : Nat) :
    (countAt plan i).weights = plan.partitions.map (weightOf plan) := by
  rw [countAt_eq_after, Aggregator.weights_after]

/-- The count stands at its place, as long as there is a partition. -/
theorem countAt_cursor {i : Nat} (h : i ≤ plan.partitions.length) :
    (countAt plan i).cursor = i := by
  rw [countAt_eq_after, Aggregator.cursor_after, List.length_map, Nat.min_eq_left h]

/-- The total of the count is the number of all partitions that are to be run. -/
theorem countAt_total (plan : InstallPlan) (i : Nat) :
    (countAt plan i).total = runsInAll plan := by
  rw [(countAt plan i).total_eq, countAt_weights]
  exact exactTotal_weights plan plan.partitions

/-- The total of the count fits a word. -/
theorem countAt_total_lt (hsize : plan.partitions.length < 2 ^ 64) (i : Nat) :
    (countAt plan i).total < 2 ^ 64 := by
  rw [countAt_total]
  exact Nat.lt_of_le_of_lt List.countP_le_length hsize

/-- What is done is the number of those before the place. -/
theorem countAt_done {i : Nat} (h : i ≤ plan.partitions.length) :
    (countAt plan i).done = runsBefore plan i := by
  rw [(countAt plan i).done_eq, countAt_weights, countAt_cursor h, ← List.map_take]
  exact exactTotal_weights plan _

/-- The weight at a place is one if the partition there is to be run. -/
theorem weightOf_toNat {i : Nat} {p : Partition} (h : plan.partitions[i]? = some p) :
    (weightOf plan p).toNat = runsAt plan i := by
  unfold weightOf runsAt
  rw [h]
  show _ = [p].countP (runsUnder plan)
  rw [List.countP_singleton]
  split <;> rfl

/-- Past the last partition there is no weight. -/
theorem countAt_past {i : Nat} (h : plan.partitions.length ≤ i) :
    (countAt plan i).weights[(countAt plan i).cursor]? = none := by
  rw [countAt_eq_after, Aggregator.weight_after, List.getElem?_eq_none_iff, List.length_map]
  exact h

/-! ## Shares in fractions -/

/-- The part of an attempt that is done at a place, when the partition there is done to a fraction.
-/
def portion (plan : InstallPlan) (i : Nat) (c : ℚ) : ℚ :=
  if runsInAll plan = 0 then 1 else (runsBefore plan i + runsAt plan i * c) / runsInAll plan

/-- A share is in proportion to the partitions that are to be run, at a place. -/
structure Proportionate (plan : InstallPlan) (i : Nat) (q : ℚ) : Prop where
  /-- It is not negative. -/
  nonneg : 0 ≤ q
  /-- It is at most one. -/
  le_one : q ≤ 1
  /-- It is not less than what is done before the place. -/
  lower : 0 < runsInAll plan → (runsBefore plan i / runsInAll plan : ℚ) ≤ q
  /-- It is not more than what is done behind the place. -/
  upper : 0 < runsInAll plan → q ≤ ((runsBefore plan i + runsAt plan i) / runsInAll plan : ℚ)
  /-- Where none is to be run everything is done. -/
  idle : runsInAll plan = 0 → q = 1
  /-- Past the last partition everything is done. -/
  past : plan.partitions.length ≤ i → q = 1

/-- Past the last partition everything is done. -/
theorem portion_past {i : Nat} (h : plan.partitions.length ≤ i) (c : ℚ) : portion plan i c = 1 := by
  have hat : runsAt plan i = 0 := by
    unfold runsAt
    rw [List.getElem?_eq_none h]
    rfl
  unfold portion
  split
  · rfl
  · rename_i htotal
    rw [runsBefore_of_le h, hat, Nat.cast_zero, zero_mul, add_zero]
    exact div_self (Nat.cast_ne_zero.mpr htotal)

/-- At the start of a partition no less is done than at the start of one before it. -/
theorem portion_mono (plan : InstallPlan) {i j : Nat} (h : i ≤ j) :
    portion plan i 0 ≤ portion plan j 0 := by
  have hle : (runsBefore plan i : ℚ) ≤ runsBefore plan j := Nat.cast_le.mpr (runsBefore_mono plan h)
  unfold portion
  split
  · exact le_rfl
  · rw [mul_zero, mul_zero, add_zero, add_zero]
    exact div_le_div_of_nonneg_right hle (Nat.cast_nonneg _)

/-- Where none is to be run from a place on, everything is done at its start. -/
theorem portion_of_idle {i : Nat}
    (h : ∀ j p, i ≤ j → plan.partitions[j]? = some p → runsUnder plan p = false) :
    portion plan i 0 = 1 := by
  unfold portion
  split
  · rfl
  · rename_i htotal
    rw [runsBefore_of_idle h, mul_zero, add_zero]
    exact div_self (Nat.cast_ne_zero.mpr htotal)

/-- The part that is done is in proportion to the partitions that are to be run. -/
theorem portion_proportionate (plan : InstallPlan) (i : Nat) {c : ℚ} (hnonneg : 0 ≤ c)
    (hle : c ≤ 1) : Proportionate plan i (portion plan i c) := by
  have hat : (0 : ℚ) ≤ runsAt plan i := Nat.cast_nonneg _
  have hbefore : (0 : ℚ) ≤ runsBefore plan i := Nat.cast_nonneg _
  have htotal : (0 : ℚ) ≤ runsInAll plan := Nat.cast_nonneg _
  have hnext : (runsBefore plan i + runsAt plan i : ℚ) ≤ runsInAll plan := by
    have hsucc := runsBefore_le plan (i + 1)
    rw [runsBefore_succ] at hsucc
    exact_mod_cast hsucc
  have hleast : (runsBefore plan i : ℚ) ≤ runsBefore plan i + runsAt plan i * c :=
    le_add_of_nonneg_right (mul_nonneg hat hnonneg)
  have hmost : (runsBefore plan i + runsAt plan i * c : ℚ) ≤ runsBefore plan i + runsAt plan i :=
    add_le_add_right (mul_le_of_le_one_right hat hle) _
  have hsome : 0 < runsInAll plan → portion plan i c =
      (runsBefore plan i + runsAt plan i * c) / runsInAll plan := fun h => if_neg h.ne'
  have hidle : runsInAll plan = 0 → portion plan i c = 1 := fun h => if_pos h
  refine ⟨?_, ?_, fun h => ?_, fun h => ?_, hidle, fun h => portion_past h c⟩
  · rcases Nat.eq_zero_or_pos (runsInAll plan) with h | h
    · rw [hidle h]
      exact zero_le_one
    · rw [hsome h]
      exact div_nonneg (hbefore.trans hleast) htotal
  · rcases Nat.eq_zero_or_pos (runsInAll plan) with h | h
    · rw [hidle h]
    · rw [hsome h]
      exact div_le_one_of_le₀ (hmost.trans hnext) htotal
  · rw [hsome h]
    exact div_le_div_of_nonneg_right hleast htotal
  · rw [hsome h]
    exact div_le_div_of_nonneg_right hmost htotal

open ExactNumber

variable [LiteralReading]

/-- The share at a place is the part that is done there. -/
theorem shareAt_eq (hsize : plan.partitions.length < 2 ^ 64) (i : Nat) {x : ExactNumber} {c : ℚ}
    (hnonneg : 0 ≤ c) (hle : c ≤ 1) (hx : clampFraction x = fraction c) :
    shareAt plan i x = fraction (portion plan i c) := by
  have htotal := countAt_total plan i
  unfold shareAt
  rw [hx]
  by_cases hlt : i < plan.partitions.length
  · obtain ⟨p, hp⟩ : ∃ p, plan.partitions[i]? = some p := ⟨_, List.getElem?_eq_getElem hlt⟩
    by_cases hnone : runsInAll plan = 0
    · rw [Aggregator.progress_eq_one (Or.inl (htotal.trans hnone)), portion, if_pos hnone]
    · have hweight : (countAt plan i).weights[(countAt plan i).cursor]? =
          some (weightOf plan p) := by
        rw [countAt_weights, countAt_cursor hlt.le, List.getElem?_map, hp]
        rfl
      rw [Aggregator.progress_eq hweight (by rwa [htotal]) (countAt_total_lt hsize i)
          (clampFraction_fraction hnonneg hle),
        countAt_done hlt.le, htotal, weightOf_toNat hp, portion, if_neg hnone]
  · have hpast := not_lt.mp hlt
    rw [Aggregator.progress_eq_one (Or.inr (countAt_past hpast)), portion_past hpast]

/-- At the start of a partition the share is the part of those before it. -/
theorem shareAt_zero (hsize : plan.partitions.length < 2 ^ 64) (i : Nat) :
    shareAt plan i ProgressNumber.zero = fraction (portion plan i 0) :=
  shareAt_eq hsize i le_rfl zero_le_one clampFraction_zero

/-- Every share is in proportion to the partitions that are to be run, whatever number it is made
of. -/
theorem shareAt_proportionate (hsize : plan.partitions.length < 2 ^ 64) (i : Nat)
    (x : ExactNumber) : ∃ q, shareAt plan i x = fraction q ∧ Proportionate plan i q := by
  obtain ⟨c, hnonneg, hle, hx⟩ := clampFraction_eq x
  exact ⟨_, shareAt_eq hsize i hnonneg hle hx, portion_proportionate plan i hnonneg hle⟩

end SlotUpdate.Runner
