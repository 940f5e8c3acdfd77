import SlotUpdate.Proofs.Verify.Reports

/-!
# Verification gets on

What a verification reports never decreases, whatever the devices hold and however they are read
(`verification_gets_on`). The relation that is carried is `Climbs`: shares between two bounds, in
order. The shares of one partition climb from what is done before it to what is done behind it
(`climbs_verify`), since no more of it is read than its size says; those of all partitions follow by
induction on the list, up to one where all of them are intact (`climbs_of_intact`) and up to the
share of the first fault otherwise (`FirstFault.climbs`).
-/

namespace SlotUpdate

open ExactNumber ProgressNumber

/-! ## Climbing -/

/-- Fractions in order, from one bound to another. -/
inductive Climbs : ℚ → List ExactNumber → ℚ → Prop where
  /-- None at all. -/
  | stay {low high : ℚ} (le : low ≤ high) : Climbs low [] high
  /-- One, and then others that are no less. -/
  | step {low q high : ℚ} {xs : List ExactNumber} (le : low ≤ q) (rest : Climbs q xs high) :
    Climbs low (fraction q :: xs) high

namespace Climbs

variable {low low' mid high : ℚ} {xs ys : List ExactNumber}

/-- The bounds are in order. -/
theorem le (h : Climbs low xs high) : low ≤ high := by
  induction h with
  | stay hle => exact hle
  | step hle _ ih => exact hle.trans ih

/-- What climbs from a bound climbs from a lower one. -/
theorem from_le (h : Climbs low xs high) (hle : low' ≤ low) : Climbs low' xs high := by
  cases h with
  | stay hstay => exact .stay (hle.trans hstay)
  | step hstep hrest => exact .step (hle.trans hstep) hrest

/-- One climb after the other. -/
theorem append (hxs : Climbs low xs mid) (hys : Climbs mid ys high) :
    Climbs low (xs ++ ys) high := by
  induction hxs with
  | stay hle => exact hys.from_le hle
  | step hle _ ih => exact .step hle (ih hys)

/-- What climbs is fractions in order, within the bounds. -/
theorem exists_fractions (h : Climbs low xs high) : ∃ qs : List ℚ, xs = qs.map fraction ∧
    qs.Pairwise (· ≤ ·) ∧ ∀ q ∈ qs, low ≤ q ∧ q ≤ high := by
  induction h with
  | stay => exact ⟨[], rfl, .nil, fun _ hq => absurd hq List.not_mem_nil⟩
  | @step low q high xs hle hrest ih =>
    obtain ⟨qs, rfl, hordered, hwithin⟩ := ih
    refine ⟨q :: qs, rfl, List.pairwise_cons.mpr ⟨fun q' hq' => (hwithin q' hq').1, hordered⟩,
      List.forall_mem_cons.mpr ⟨⟨hle, hrest.le⟩, fun q' hq' => ?_⟩⟩
    exact ⟨hle.trans (hwithin q' hq').1, (hwithin q' hq').2⟩

end Climbs

/-! ## Places -/

/-- The partitions as far as the first fault have no more bytes than all. -/
theorem FirstFault.bytesOf_le {openDevice : Path → Except SystemError Source} {p : Partition}
    {e : VerifyError} {ps before : List Partition} (h : FirstFault openDevice ps before p e) :
    bytesOf (before ++ [p]) ≤ bytesOf ps := by
  obtain ⟨after, rfl⟩ := h.stands
  rw [bytesOf_append, bytesOf_append, bytesOf_cons, bytesOf_cons]
  exact Nat.add_le_add_left (Nat.add_le_add_left (Nat.zero_le _) _) _

namespace Aggregator

variable {a : Aggregator} {p : Partition} {ps : List Partition}

/-- The share of the whole when a number of bytes is done beyond the finished steps. -/
def part (a : Aggregator) (n : Nat) : ℚ := (a.done + n) / a.total

/-- The more bytes are done the greater the share. -/
theorem part_mono (a : Aggregator) {m n : Nat} (h : m ≤ n) : a.part m ≤ a.part n :=
  div_le_div_of_nonneg_right (add_le_add_right (Nat.cast_le.mpr h) _) (Nat.cast_nonneg _)

/-- An aggregator stands in front of partitions. -/
structure StandsAt (a : Aggregator) (ps : List Partition) : Prop where
  /-- Its total fits a word. -/
  fits : a.total < 2 ^ 64
  /-- The weights from its cursor on are the sizes of the partitions. -/
  ahead : a.weights.drop a.cursor = ps.map (·.size)

/-- The total is the bytes of the partitions. -/
theorem total_ofWeights (ps : List Partition) :
    (ofWeights (ps.map (·.size))).total = bytesOf ps := rfl

/-- At the beginning the share is that of the bytes alone. -/
theorem part_ofWeights (ps : List Partition) (n : Nat) :
    (ofWeights (ps.map (·.size))).part n = n / bytesOf ps := by
  have hdone : (ofWeights (ps.map (·.size))).done = 0 := rfl
  rw [part, hdone, total_ofWeights, Nat.cast_zero, zero_add]

/-- At the beginning it stands in front of all partitions. -/
theorem standsAt_ofWeights (h : bytesOf ps < 2 ^ 64) :
    (ofWeights (ps.map (·.size))).StandsAt ps :=
  ⟨h, List.drop_zero⟩

namespace StandsAt

/-- The current weight is the size of the first partition. -/
theorem weight (h : a.StandsAt (p :: ps)) : a.weights[a.cursor]? = some p.size := by
  rw [← List.head?_drop, h.ahead]
  rfl

/-- Behind the last partition there is no weight. -/
theorem past (h : a.StandsAt []) : a.weights[a.cursor]? = none := by
  rw [← List.head?_drop, h.ahead]
  rfl

/-- Finishing the first partition leads to the others. -/
theorem advance (h : a.StandsAt (p :: ps)) : a.advance.StandsAt ps := by
  obtain ⟨hlt, -⟩ := List.getElem?_eq_some_iff.mp h.weight
  refine ⟨by rw [advance_total]; exact h.fits, ?_⟩
  rw [advance_weights, advance_cursor hlt, ← List.tail_drop, h.ahead]
  rfl

/-- Behind the first partition its bytes are done. -/
theorem part_advance (h : a.StandsAt (p :: ps)) (n : Nat) :
    a.advance.part n = a.part (p.size.toNat + n) := by
  unfold part
  rw [advance_done h.weight, advance_total, Nat.cast_add, Nat.cast_add, add_assoc]

end StandsAt

end Aggregator

/-! ## One partition -/

section

variable [LiteralReading] {openDevice : Path → Except SystemError Source} {a : Aggregator}
  {p : Partition} {ps : List Partition} {e : VerifyError}

/-- The shares that are read climb as far as the size says, if no more is read. -/
theorem climbs_shares {size : UInt64} (hsize : a.weights[a.cursor]? = some size)
    (htotal : a.total ≠ 0) (hfits : a.total < 2 ^ 64) (hne : size ≠ 0) {pieces : List Bytes}
    {n : Nat} (hle : n + pieces.flatten.length ≤ size.toNat) :
    Climbs (a.part n) ((ReadPrefix.shares size n pieces).map a.progress) (a.part size.toNat) := by
  induction pieces generalizing n with
  | nil => exact .stay (a.part_mono hle)
  | cons b pieces ih =>
    rw [List.flatten_cons, List.length_append, ← Nat.add_assoc] at hle
    rw [ReadPrefix.shares, List.map_cons,
      Aggregator.progress_bytes hsize htotal hfits hne (Nat.le_of_add_right_le hle)]
    exact .step (a.part_mono (Nat.le_add_right _ _)) (ih hle)

/-- What is reported of a partition climbs from what is done before it as far as its size says. -/
theorem climbs_verify (h : a.StandsAt (p :: ps)) (htotal : a.total ≠ 0) (hne : p.size ≠ 0)
    (source : Except SystemError Source) :
    Climbs (a.part 0) ((p.verify source : Verification ExactNumber).progress.map a.progress)
      (a.part p.size.toNat) := by
  cases source with
  | error cause =>
    rw [Partition.progress_verify_error]
    exact .stay (a.part_mono (Nat.zero_le _))
  | ok s =>
    have hread := s.length_bytes_readPrefix_le p.size.toNat 0
    rw [Partition.progress_verify]
    exact climbs_shares h.weight htotal h.fits hne (by rw [Nat.zero_add]; exact hread)

/-- In front of a partition the share is that of what is done. -/
theorem Aggregator.StandsAt.progress_zero (h : a.StandsAt (p :: ps)) (htotal : a.total ≠ 0) :
    a.progress (zero : ExactNumber) = fraction (a.part 0) := by
  rw [Aggregator.progress_eq h.weight htotal h.fits clampFraction_zero, mul_zero, Aggregator.part,
    Nat.cast_zero]

/-! ## All partitions -/

/-- What is reported of an intact partition and of others climbs if that of the others does. -/
theorem climbs_cons {high : ℚ} (h : a.StandsAt (p :: ps)) (htotal : a.total ≠ 0)
    (hp : p.Intact openDevice) (hrest : Climbs (a.advance.part 0)
      (verifyFrom openDevice a.advance ps : Verification ExactNumber).progress high) :
    Climbs (a.part 0) (verifyFrom openDevice a (p :: ps) : Verification ExactNumber).progress
      high := by
  -- The others begin where this one is done.
  rw [h.part_advance, Nat.add_zero] at hrest
  by_cases hsize : p.size = 0
  · rw [progress_verifyFrom_cons_of_empty hsize]
    exact hrest.from_le (a.part_mono (Nat.zero_le _))
  · rw [progress_verifyFrom_cons hsize, hp.result_verify hsize]
    exact (climbs_verify h htotal hsize _).append hrest

/-- What is reported of intact partitions climbs as far as one. -/
theorem climbs_of_intact (h : a.StandsAt ps) (htotal : a.total ≠ 0)
    (hps : ∀ p ∈ ps, p.Intact openDevice) :
    Climbs (a.part 0) (verifyFrom openDevice a ps : Verification ExactNumber).progress 1 := by
  induction ps generalizing a with
  | nil =>
    have hle : a.part 0 ≤ 1 := by
      unfold Aggregator.part
      rw [Nat.cast_zero, add_zero]
      exact div_le_one_of_le₀ (Nat.cast_le.mpr a.done_le) (Nat.cast_nonneg _)
    rw [progress_verifyFrom_nil, Aggregator.progress_eq_one (Or.inr h.past)]
    exact .step hle (.stay le_rfl)
  | cons p ps ih =>
    obtain ⟨hp, hps⟩ := List.forall_mem_cons.mp hps
    exact climbs_cons h htotal hp (ih h.advance (by rwa [Aggregator.advance_total]) hps)

/-- What is reported of intact partitions ends with one. -/
theorem getLast?_progress_of_intact (h : a.StandsAt ps) (hps : ∀ p ∈ ps, p.Intact openDevice) :
    (verifyFrom openDevice a ps : Verification ExactNumber).progress.getLast? =
      some (fraction 1) := by
  induction ps generalizing a with
  | nil =>
    rw [progress_verifyFrom_nil, Aggregator.progress_eq_one (Or.inr h.past)]
    rfl
  | cons p ps ih =>
    obtain ⟨hp, hps⟩ := List.forall_mem_cons.mp hps
    have hlast := ih h.advance hps
    by_cases hsize : p.size = 0
    · rw [progress_verifyFrom_cons_of_empty hsize, hlast]
    · rw [progress_verifyFrom_cons hsize, hp.result_verify hsize]
      dsimp only
      rw [List.getLast?_append, hlast]
      rfl

/-- What is reported before the first fault climbs as far as the partition with the fault. -/
theorem FirstFault.climbs {before : List Partition} (h : FirstFault openDevice ps before p e)
    (hstands : a.StandsAt ps) (htotal : a.total ≠ 0) :
    Climbs (a.part 0) (verifyFrom openDevice a ps : Verification ExactNumber).progress
      (a.part (bytesOf (before ++ [p]))) := by
  obtain ⟨⟨after, rfl⟩, hbefore, hfaulty⟩ := h
  -- The bound moves on with the aggregator: what is left of it is the bytes as far as the fault.
  induction before generalizing a with
  | nil =>
    rw [List.nil_append, progress_verifyFrom_cons hfaulty.size_ne, hfaulty.result_verify]
    dsimp only
    rw [List.append_nil]
    exact climbs_verify hstands htotal hfaulty.size_ne _
  | cons q before ih =>
    obtain ⟨hq, hbefore⟩ := List.forall_mem_cons.mp hbefore
    have hrest := ih (by rwa [Aggregator.advance_total]) hbefore hstands.advance
    rw [hstands.part_advance (bytesOf _)] at hrest
    exact climbs_cons hstands htotal hq hrest

/-- Of empty partitions alone it is reported that everything is done. -/
theorem progress_verifyFrom_of_empty (htotal : a.total = 0) (hps : ∀ p ∈ ps, p.size = 0) :
    (verifyFrom openDevice a ps : Verification ExactNumber).progress = [fraction 1] := by
  induction ps generalizing a with
  | nil => rw [progress_verifyFrom_nil, Aggregator.progress_eq_one (Or.inl htotal)]
  | cons p ps ih =>
    obtain ⟨hp, hps⟩ := List.forall_mem_cons.mp hps
    rw [progress_verifyFrom_cons_of_empty hp]
    exact ih (by rwa [Aggregator.advance_total]) hps

/-! ## A whole verification -/

/-- What is reported in the course of a verification is fractions, and these get on as the
partitions do. -/
structure GetsOn (openDevice : Path → Except SystemError Source) (ps : List Partition)
    (v : Verification ExactNumber) (qs : List ℚ) : Prop where
  /-- The fractions are all that is reported. -/
  shares : v.progress = qs.map fraction
  /-- They never decrease. -/
  ordered : qs.Pairwise (· ≤ ·)
  /-- They are from zero to one. -/
  range : ∀ q ∈ qs, 0 ≤ q ∧ q ≤ 1
  /-- The first is zero if a partition is not empty. -/
  begins : (∃ p ∈ ps, p.size ≠ 0) → qs.head? = some 0
  /-- It is one if all of them are. -/
  idle : (∀ p ∈ ps, p.size = 0) → qs.head? = some 1
  /-- The last is one if all partitions are accepted. -/
  completes : v.result = .ok () → qs.getLast? = some 1
  /-- At an error there is a first fault, and no fraction is more than the share of the partitions
  as far as that one. One is among the fractions only if no bytes are behind it. -/
  stops : ∀ e, v.result = .error e → ∃ before p, FirstFault openDevice ps before p e ∧
    (∀ q ∈ qs, q ≤ bytesOf (before ++ [p]) / bytesOf ps) ∧
    (1 ∈ qs → bytesOf (before ++ [p]) = bytesOf ps)

/-- Of empty partitions alone it is reported twice that everything is done. -/
theorem getsOn_of_empty (hne : ps ≠ []) (hps : ∀ p ∈ ps, p.size = 0) :
    GetsOn openDevice ps (verifyPartitions openDevice ps) [1, 1] := by
  have hbytes : bytesOf ps = 0 := bytesOf_eq_zero_iff.mpr hps
  have htotal : (Aggregator.ofWeights (ps.map (·.size))).total = 0 :=
    (Aggregator.total_ofWeights ps).trans hbytes
  obtain ⟨hresult, -, hprogress⟩ := verifyPartitions_of_fits (α := ExactNumber) openDevice hne
    (by rw [hbytes]; decide)
  have hintact : ∀ p ∈ ps, p.Intact openDevice := fun p hp hsize => absurd (hps p hp) hsize
  obtain ⟨hok, -⟩ := verifyFrom_of_intact (α := ExactNumber) (.ofWeights (ps.map (·.size))) hintact
  refine ⟨?_, List.pairwise_pair.mpr le_rfl, ?_, fun ⟨p, hp, hsize⟩ => absurd (hps p hp) hsize,
    fun _ => rfl, fun _ => rfl, fun e herror => ?_⟩
  · rw [hprogress, Aggregator.progress_eq_one (Or.inl htotal),
      progress_verifyFrom_of_empty htotal hps]
    rfl
  · intro q hq
    obtain rfl : q = 1 := by simpa using hq
    exact ⟨zero_le_one, le_rfl⟩
  · rw [hresult, hok] at herror
    cases herror

section

variable (hsome : bytesOf ps ≠ 0) (hfits : bytesOf ps < 2 ^ 64)

include hsome hfits

/-- Where some partition is not empty the reports begin with zero, and climb from there as far as
those that follow. -/
theorem exists_reports {high : ℚ}
    (hclimbs : Climbs ((Aggregator.ofWeights (ps.map (·.size))).part 0)
      (verifyFrom openDevice (.ofWeights (ps.map (·.size))) ps :
        Verification ExactNumber).progress high) :
    ∃ qs : List ℚ, (verifyPartitions openDevice ps : Verification ExactNumber).progress =
      (0 :: qs).map fraction ∧ (0 :: qs).Pairwise (· ≤ ·) ∧ ∀ q ∈ 0 :: qs, 0 ≤ q ∧ q ≤ high := by
  have hstart : (Aggregator.ofWeights (ps.map (·.size))).part 0 = 0 := by
    rw [Aggregator.part_ofWeights, Nat.cast_zero, zero_div]
  -- The first share is read off the first partition, whether that is empty or not.
  cases ps with
  | nil => exact absurd rfl hsome
  | cons p ps =>
    obtain ⟨-, -, hprogress⟩ := verifyPartitions_of_fits (α := ExactNumber) openDevice
      (List.cons_ne_nil p ps) hfits
    rw [hstart] at hclimbs
    obtain ⟨qs, hqs, hordered, hwithin⟩ := hclimbs.exists_fractions
    refine ⟨qs, ?_, List.pairwise_cons.mpr ⟨fun q hq => (hwithin q hq).1, hordered⟩,
      List.forall_mem_cons.mpr ⟨⟨le_rfl, hclimbs.le⟩, hwithin⟩⟩
    rw [hprogress, (Aggregator.standsAt_ofWeights hfits).progress_zero hsome, hstart, hqs]
    rfl

/-- The reports of intact partitions get on to one. -/
theorem getsOn_of_intact (hps : ∀ p ∈ ps, p.Intact openDevice) :
    ∃ qs, GetsOn openDevice ps (verifyPartitions openDevice ps) qs := by
  have hne : ps ≠ [] := by
    rintro rfl
    exact hsome rfl
  have hstands := Aggregator.standsAt_ofWeights hfits
  obtain ⟨hresult, -, hprogress⟩ :=
    verifyPartitions_of_fits (α := ExactNumber) openDevice hne hfits
  obtain ⟨hok, -⟩ := verifyFrom_of_intact (α := ExactNumber) (.ofWeights (ps.map (·.size))) hps
  obtain ⟨qs, hqs, hordered, hwithin⟩ := exists_reports hsome hfits
    (climbs_of_intact hstands hsome hps)
  refine ⟨0 :: qs, hqs, hordered, hwithin, fun _ => rfl,
    fun hempty => absurd (bytesOf_eq_zero_iff.mpr hempty) hsome, fun _ => ?_, fun e herror => ?_⟩
  · have hlast := congrArg List.getLast? hqs
    rw [hprogress, List.getLast?_cons, getLast?_progress_of_intact hstands hps,
      List.getLast?_map, List.getLast?_cons] at hlast
    rw [List.getLast?_cons, ← fraction.inj (Option.some.inj hlast)]
  · rw [hresult, hok] at herror
    cases herror

/-- The reports before the first fault get on as far as the partition with the fault. -/
theorem FirstFault.getsOn {before : List Partition} (h : FirstFault openDevice ps before p e) :
    ∃ qs, GetsOn openDevice ps (verifyPartitions openDevice ps) qs := by
  have hne : ps ≠ [] := by
    rintro rfl
    exact hsome rfl
  obtain ⟨hresult, -⟩ := verifyPartitions_of_fits (α := ExactNumber) openDevice hne hfits
  obtain ⟨herror, -⟩ := h.result_verifyFrom (α := ExactNumber) (.ofWeights (ps.map (·.size)))
  have hclimbs := h.climbs (Aggregator.standsAt_ofWeights hfits) hsome
  rw [Aggregator.part_ofWeights ps (bytesOf _)] at hclimbs
  obtain ⟨qs, hqs, hordered, hwithin⟩ := exists_reports hsome hfits hclimbs
  have hpos : (0 : ℚ) < bytesOf ps := Nat.cast_pos.mpr (Nat.pos_of_ne_zero hsome)
  have hshare : (bytesOf (before ++ [p]) / bytesOf ps : ℚ) ≤ 1 :=
    div_le_one_of_le₀ (Nat.cast_le.mpr h.bytesOf_le) hpos.le
  refine ⟨0 :: qs, hqs, hordered, fun q hq => ⟨(hwithin q hq).1, (hwithin q hq).2.trans hshare⟩,
    fun _ => rfl, fun hempty => absurd (bytesOf_eq_zero_iff.mpr hempty) hsome, fun hok => ?_,
    fun e' herror' => ?_⟩
  · rw [hresult, herror] at hok
    cases hok
  · rw [hresult, herror] at herror'
    obtain rfl := Except.error.inj herror'
    refine ⟨before, p, h, fun q hq => (hwithin q hq).2, fun hone => ?_⟩
    -- One is reached only if no bytes are behind the fault.
    have hreached : (bytesOf ps : ℚ) ≤ bytesOf (before ++ [p]) :=
      (one_le_div hpos).mp (hwithin 1 hone).2
    exact le_antisymm h.bytesOf_le (Nat.cast_le.mp hreached)

end

/-- What a verification reports gets on from nothing to everything, or as far as the first partition
that is not intact. -/
theorem verification_gets_on (openDevice : Path → Except SystemError Source) {ps : List Partition}
    (hne : ps ≠ []) (hfits : bytesOf ps < 2 ^ 64) :
    ∃ qs, GetsOn openDevice ps (verifyPartitions openDevice ps) qs := by
  by_cases hempty : bytesOf ps = 0
  · exact ⟨[1, 1], getsOn_of_empty hne (bytesOf_eq_zero_iff.mp hempty)⟩
  · rcases intact_or_firstFault openDevice ps with hall | ⟨before, p, e, hfirst⟩
    · exact getsOn_of_intact hempty hfits hall
    · exact hfirst.getsOn hempty hfits

end

/-- An empty partition is passed over, and one that is read in short reads accepted. The next one
ends too early, which the reports do not hide. -/
theorem truncated_verification_gets_on :
    letI := LiteralReading.written
    let device : PartitionDevice := ⟨⟨"/dev/image"⟩, ⟨"/dev/image"⟩, false⟩
    let odm := InstallPlan.partitionOf (updateOfSize "odm" 0) device
    let system : Partition :=
      { InstallPlan.partitionOf (updateOfSize "system" 2) device with hash := sha256 [0x11, 0x22] }
    let vendor := InstallPlan.partitionOf (updateOfSize "vendor" 8) device
    let ps := [odm, system, vendor]
    let openDevice : Path → Except SystemError Source :=
      fun _ => .ok ⟨[0x11, 0x22, 0x33], [.short 0, .interrupted]⟩
    let v : Verification ExactNumber := verifyPartitions openDevice ps
    ps ≠ [] ∧ bytesOf ps < 2 ^ 64 ∧ v.result = .error (.truncated "vendor" 8 3) ∧
      ∃ qs, GetsOn openDevice ps v qs := by
  let : LiteralReading := .written
  intro device odm system vendor ps openDevice v
  have hreads : ∀ want cause, ¬Source.Fails ⟨[0x11, 0x22, 0x33], [.short 0, .interrupted]⟩
      want cause :=
    fun _ _ => not_failsWithin_of_not_mem fun _ => by simp
  have hfirst : FirstFault openDevice ps [odm, system] vendor (.truncated "vendor" 8 3) := by
    refine ⟨⟨[], rfl⟩, ?_, .truncated (by decide) rfl (hreads _) (by decide)⟩
    have hodm : odm.Intact openDevice := fun hsize => absurd rfl hsize
    have hsystem : system.Intact openDevice := fun _ =>
      ⟨_, rfl, hreads _, by decide, congrArg sha256 rfl⟩
    exact List.forall_mem_cons.mpr ⟨hodm, List.forall_mem_singleton.mpr hsystem⟩
  have hne : ps ≠ [] := List.cons_ne_nil _ _
  have hfits : bytesOf ps < 2 ^ 64 := by decide
  obtain ⟨hresult, -⟩ := verifyPartitions_of_fits (α := ExactNumber) openDevice hne hfits
  obtain ⟨herror, -⟩ := hfirst.result_verifyFrom (α := ExactNumber) (.ofWeights (ps.map (·.size)))
  exact ⟨hne, hfits, hresult.trans herror, verification_gets_on openDevice hne hfits⟩

end SlotUpdate
