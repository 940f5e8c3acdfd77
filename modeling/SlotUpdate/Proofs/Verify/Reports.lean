import SlotUpdate.Proofs.Progress.Sums
import SlotUpdate.Proofs.Verify.Intact

/-!
# What a verification reports

While a partition is read its own shares are reported as shares of all partitions
(`progress_verifyFrom_cons`), so that all of them are shares of an aggregator of the sizes, after
some steps (`mem_progress_verifyPartitions`). Whether there is one depends on the sizes alone, as
`Aggregator.addsUp_iff` says. The sizes are those of a manifest, which may be any: some of which
every single one is aligned have a total that does not fit a word, and then the sum of the sizes
overflows (`oversized_total_overflows`).
-/

namespace SlotUpdate

variable {α : Type} {openDevice : Path → Except SystemError Source} {p : Partition}
  {ps : List Partition} {a : Aggregator}

/-! ## Shares of one partition -/

/-- The shares of events whose shares are changed are the changed shares. -/
theorem filterMap_progress?_mapShare (f : α → α) (events : List (VerifyEvent α)) :
    (events.map (·.mapShare f)).filterMap VerifyEvent.progress? =
      (events.filterMap VerifyEvent.progress?).map f := by
  have hsame : VerifyEvent.progress? ∘ (·.mapShare f) = Option.map f ∘ VerifyEvent.progress? := by
    funext event
    cases event <;> rfl
  rw [List.filterMap_map, hsame, List.map_filterMap]
  rfl

/-- The shares that are reported are the shares of the events that report them. -/
theorem filterMap_progress?_progress (shares : List α) :
    (shares.map VerifyEvent.progress).filterMap VerifyEvent.progress? = shares := by
  rw [List.filterMap_map]
  exact List.filterMap_some

variable [ProgressNumber α]

/-- Of a partition whose device does not open nothing is reported. -/
theorem Partition.progress_verify_error (p : Partition) (cause : SystemError) :
    (p.verify (.error cause) : Verification α).progress = [] := rfl

/-- Of a partition the shares are reported that are read. -/
theorem Partition.progress_verify (p : Partition) (s : Source) :
    (p.verify (.ok s) : Verification α).progress =
      (s.readPrefix p.size.toNat 0).progress p.size := by
  unfold Partition.verify Verification.progress
  dsimp only
  split
  · rw [List.filterMap_append, filterMap_progress?_progress]
    rfl
  · rw [List.filterMap_append, List.filterMap_append, filterMap_progress?_progress]
    exact List.append_nil _

/-! ## Shares of all partitions -/

/-- At the end the share that is done is reported. -/
theorem progress_verifyFrom_nil (openDevice : Path → Except SystemError Source) (a : Aggregator) :
    (verifyFrom openDevice a [] : Verification α).progress =
      [a.progress ProgressNumber.zero] := rfl

/-- Nothing is reported of an empty partition. -/
theorem progress_verifyFrom_cons_of_empty (h : p.size = 0) :
    (verifyFrom openDevice a (p :: ps) : Verification α).progress =
      (verifyFrom openDevice a.advance ps : Verification α).progress := by
  rw [verifyFrom, if_pos h]
  rfl

/-- Of a partition its shares are reported, as shares of all partitions. If it is accepted those of
the others follow. -/
theorem progress_verifyFrom_cons (h : p.size ≠ 0) :
    (verifyFrom openDevice a (p :: ps) : Verification α).progress =
      (p.verify (openDevice p.target)).progress.map a.progress ++
        match (p.verify (openDevice p.target) : Verification α).result with
        | .ok () => (verifyFrom openDevice a.advance ps : Verification α).progress
        | .error _ => [] := by
  rw [verifyFrom, if_neg h]
  unfold Verification.progress
  dsimp only
  rw [← filterMap_progress?_mapShare]
  split
  · rename_i e herror
    rw [herror, List.filterMap_append]
    rfl
  · rename_i hok
    rw [hok, List.filterMap_append]

/-- What is reported of partitions is shares of the aggregator, after some steps more. -/
theorem mem_progress_verifyFrom {ws : List UInt64} {n : Nat} {x : α}
    (h : x ∈ (verifyFrom openDevice (.after ws n) ps : Verification α).progress) :
    ∃ m y, x = (Aggregator.after ws m).progress y := by
  induction ps generalizing n with
  | nil =>
    rw [progress_verifyFrom_nil, List.mem_singleton] at h
    exact ⟨n, _, h⟩
  | cons p ps ih =>
    by_cases hsize : p.size = 0
    · rw [progress_verifyFrom_cons_of_empty hsize, ← Aggregator.after_succ] at h
      exact ih h
    · rw [progress_verifyFrom_cons hsize, List.mem_append, List.mem_map,
        ← Aggregator.after_succ] at h
      rcases h with ⟨y, -, rfl⟩ | h
      · exact ⟨n, y, rfl⟩
      · split at h
        · exact ih h
        · exact absurd h List.not_mem_nil

/-- What is reported of partitions is shares of an aggregator of their sizes, after some steps. It
is reported only if the bytes of the partitions fit a word. -/
theorem mem_progress_verifyPartitions {x : α}
    (h : x ∈ (verifyPartitions openDevice ps : Verification α).progress) :
    bytesOf ps < 2 ^ 64 ∧ ∃ n y, x = (Aggregator.after (ps.map (·.size)) n).progress y := by
  by_cases hne : ps = []
  · subst hne
    exact absurd h List.not_mem_nil
  rcases Nat.lt_or_ge (bytesOf ps) (2 ^ 64) with hfits | hoverflow
  · obtain ⟨-, -, hprogress⟩ := verifyPartitions_of_fits (α := α) openDevice hne hfits
    rw [hprogress] at h
    rcases List.mem_cons.mp h with rfl | h
    · exact ⟨hfits, 0, _, rfl⟩
    · exact ⟨hfits, mem_progress_verifyFrom (n := 0) h⟩
  · rw [verifyPartitions_of_overflow openDevice hoverflow] at h
    exact absurd h List.not_mem_nil

/-! ## Exact shares -/

open ExactNumber ProgressNumber
open Aggregator (exactTotal)

section

variable [LiteralReading]

/-- The share of all partitions when some bytes of the current one are read. -/
theorem Aggregator.progress_bytes {size : UInt64} (hsize : a.weights[a.cursor]? = some size)
    (htotal : a.total ≠ 0) (hfits : a.total < 2 ^ 64) (hne : size ≠ 0) {n : Nat}
    (hle : n ≤ size.toNat) :
    a.progress (ofWord (.ofNat n) / ofWord size : ExactNumber) =
      fraction ((a.done + n) / a.total) := by
  have hn : (UInt64.ofNat n).toNat = n :=
    UInt64.toNat_ofNat_of_lt' (Nat.lt_of_le_of_lt hle size.toNat_lt)
  have hne' : (size.toNat : ℚ) ≠ 0 := by
    rw [Nat.cast_ne_zero]
    exact fun hzero => hne (UInt64.toNat_inj.mp hzero)
  have hshare : (n / size.toNat : ℚ) ≤ 1 :=
    div_le_one_of_le₀ (Nat.cast_le.mpr hle) (Nat.cast_nonneg _)
  rw [ofWord_eq, ofWord_eq, hn, fraction_div _ hne',
    progress_eq hsize htotal hfits (clampFraction_fraction (by positivity) hshare),
    mul_div_cancel₀ _ hne']

/-- What becomes of weights, and of partitions with these sizes that are verified. -/
structure WeighsExactly (ws : List UInt64) : Prop where
  /-- The weights add up exactly if their total fits a word. -/
  exact : Aggregator.AddsUp ws ↔ exactTotal ws < 2 ^ 64
  /-- Otherwise they have no aggregator, and partitions with these sizes are not gone through, since
  an addition overflows. -/
  overflows : 2 ^ 64 ≤ exactTotal ws → Aggregator.ofWeights? ws = none ∧
    ∀ openDevice ps, ps.map (·.size) = ws →
      (verifyPartitions openDevice ps : Verification ExactNumber) = ⟨.error .sumOverflow, []⟩
  /-- The weights stay as they are. -/
  weights : ∀ n, (Aggregator.after ws n).weights = ws
  /-- The cursor moves on with each step, as far as behind the last weight. -/
  cursor : ∀ n, (Aggregator.after ws n).cursor = min n ws.length
  /-- All that is reported of partitions with these sizes is shares of them, and then they add
  up. -/
  reports : ∀ openDevice ps, ps.map (·.size) = ws →
    ∀ x ∈ (verifyPartitions openDevice ps : Verification ExactNumber).progress,
      Aggregator.AddsUp ws ∧ ∃ n y, x = (Aggregator.after ws n).progress y

/-- Weights add up as long as their total fits a word, and overflow where it does not. -/
theorem weighs_exactly_within_word (ws : List UInt64) : WeighsExactly ws where
  exact := Aggregator.addsUp_iff ws
  overflows h := by
    refine ⟨Aggregator.ofWeights?_of_le h, fun openDevice ps hsizes => ?_⟩
    apply verifyPartitions_of_overflow
    unfold bytesOf
    rwa [hsizes]
  weights := Aggregator.weights_after ws
  cursor := Aggregator.cursor_after ws
  reports openDevice ps hsizes x hx := by
    rw [← hsizes]
    obtain ⟨hfits, hshare⟩ := mem_progress_verifyPartitions hx
    exact ⟨Aggregator.addsUp_of_lt hfits, hshare⟩

end

/-- Updates whose sizes are multiples of the usual block size, and do not fit a word together. -/
def oversizedUpdates : List PartitionUpdate :=
  [updateOfSize "system" 18446744073709547520, updateOfSize "vendor" 8192]

/-- The total of sizes from a manifest overflows, and the partitions are not gone through, whatever
their devices hold. -/
theorem oversized_total_overflows :
    let loaded : Id InstallPlan.Applied :=
      InstallPlan.empty.load (fun _ _ _ => pure (.ok imageDevice)) 4096 oversizedUpdates
    let sizes : List UInt64 := loaded.plan.partitions.map (·.size)
    loaded.failure = none ∧ exactTotal sizes = 2 ^ 64 + 4096 ∧
      Aggregator.ofWeights? sizes = none ∧
      ∀ openDevice, (verifyPartitions openDevice loaded.plan.partitions : Verification Float) =
        ⟨.error .sumOverflow, []⟩ := by
  intro loaded sizes
  have hsizes : sizes = [18446744073709547520, 8192] := rfl
  have htotal : exactTotal sizes = 2 ^ 64 + 4096 := by
    rw [hsizes]
    rfl
  have hlarge : 2 ^ 64 ≤ exactTotal sizes := by omega
  exact ⟨rfl, htotal, Aggregator.ofWeights?_of_le hlarge,
    fun openDevice => verifyPartitions_of_overflow openDevice hlarge⟩

end SlotUpdate
