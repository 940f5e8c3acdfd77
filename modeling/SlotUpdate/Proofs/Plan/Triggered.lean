import Mathlib.Data.List.Infix
import SlotUpdate.Plan.Install

/-!
# Triggered plans

A triggered plan runs the program of one partition outside of an update. `triggeredFor` is the plan
for a partition and its devices, and `triggered_eq_ok_iff` says that no other plan is made: the
partition is the first of its name, it has a program, and its devices are those in the slot that the
plan is for. The devices may come from anywhere, so looking them up may change a state.

Whatever the source of the update is called, also if it is called nothing, the plan is recognised as
a triggered one (`isTriggered_triggeredFor`).
-/

namespace SlotUpdate.InstallPlan

variable {m : Type → Type} [Monad m] {τ : Type}

/-- The first partition of a name. -/
def IsFirstNamed (updates : List PartitionUpdate) (name : String) (u : PartitionUpdate) : Prop :=
  ∃ before after, updates = before ++ u :: after ∧ u.partitionName = name ∧
    ∀ v ∈ before, v.partitionName ≠ name

/-- The first partition of a name is the one that is found by it. -/
theorem find?_partitionName_eq_some_iff {updates : List PartitionUpdate} {name : String}
    {u : PartitionUpdate} :
    updates.find? (·.partitionName == name) = some u ↔ IsFirstNamed updates name u := by
  unfold IsFirstNamed
  rw [List.find?_eq_some_iff_append]
  constructor
  · rintro ⟨hname, before, after, hsplit, hothers⟩
    exact ⟨before, after, hsplit, by simpa using hname, by simpa using hothers⟩
  · rintro ⟨before, after, hsplit, hname, hothers⟩
    exact ⟨by simpa using hname, before, after, hsplit, by simpa using hothers⟩

/-- The slot that a triggered plan is for, of a device that booted the slot `current`. -/
def triggeredSlot (current : Slot) : Slot :=
  if current = 0 then 1 else 0

/-- The plan to run the program of a partition on its devices. -/
def triggeredFor (current : Slot) (url : String) (u : PartitionUpdate) (d : PartitionDevice) :
    InstallPlan :=
  { empty with
    sourceSlot := current
    targetSlot := triggeredSlot current
    switchSlot := false
    downloadUrl := triggeredSource ++ ":" ++ url
    partitions := [partitionOf u d] }

/-- The plan for a partition is recognised as a triggered one, whatever its source is called. -/
theorem isTriggered_triggeredFor (current : Slot) (url : String) (u : PartitionUpdate)
    (d : PartitionDevice) : (triggeredFor current url u d).isTriggered = true := by
  have hsource : triggeredSource.toList <+: (triggeredSource ++ ":" ++ url).toList := by
    rw [String.toList_append, String.toList_append, List.append_assoc]
    exact List.prefix_append _ _
  unfold isTriggered
  rw [Bool.and_eq_true, List.isPrefixOf_iff_prefix]
  exact ⟨rfl, hsource⟩

/-- The plan with a single partition, if that has an aligned size and devices. -/
theorem loadPartitions_singleton [LawfulMonad m] (plan : InstallPlan)
    (lookup : String → Slot → m (Except BootError PartitionDevice)) (blockSize : UInt32)
    (u : PartitionUpdate) :
    plan.loadPartitions lookup blockSize [u] =
      if isAligned u.newSize blockSize then do
        match ← lookup u.partitionName plan.targetSlot with
        | .error e => return .error (.device u.partitionName e)
        | .ok d => return .ok { plan with partitions := [partitionOf u d] }
      else return .error (.unaligned u.partitionName u.newSize blockSize) := by
  unfold loadPartitions resolve
  split_ifs with haligned
  · rw [bind_assoc]
    congr 1
    funext found
    cases found with
    | error e => simp only [pure_bind]
    | ok d => simp only [resolve, pure_bind]
  · simp only [pure_bind]

/-- Without a partition of the name no plan is made. -/
theorem triggered_of_missing {lookup : String → Slot → m (Except BootError PartitionDevice)}
    {current : Slot} {manifest : Manifest} {partition url : String}
    (hmissing : ∀ u, ¬IsFirstNamed manifest.partitions partition u) :
    triggered lookup current manifest partition url = return .error (.missingPartition partition) := by
  have hnone : manifest.partitions.find? (·.partitionName == partition) = none := by
    rw [Option.eq_none_iff_forall_ne_some]
    exact fun u hu => hmissing u (find?_partitionName_eq_some_iff.1 hu)
  unfold triggered
  rw [hnone]

/-- The plan for the first partition of the name is made if that has a program, an aligned size and
devices. -/
theorem triggered_of_first [LawfulMonad m]
    {lookup : String → Slot → m (Except BootError PartitionDevice)}
    {current : Slot} {manifest : Manifest} {partition url : String} {u : PartitionUpdate}
    (hfirst : IsFirstNamed manifest.partitions partition u) :
    triggered lookup current manifest partition url =
      if u.program = "" then return .error (.noProgram partition)
      else if isAligned u.newSize manifest.effectiveBlockSize then do
        match ← lookup partition (triggeredSlot current) with
        | .error e => return .error (.device partition e)
        | .ok d => return .ok (triggeredFor current url u d)
      else return .error (.unaligned partition u.newSize manifest.effectiveBlockSize) := by
  have hname : u.partitionName = partition := by
    obtain ⟨before, after, -, hname, -⟩ := hfirst
    exact hname
  unfold triggered
  rw [find?_partitionName_eq_some_iff.2 hfirst]
  dsimp only
  rw [loadPartitions_singleton, hname]
  rfl

/-- The plans that are made are those for the first partition of the name, if that has a program and
an aligned size, on its devices in the slot that the plan is for. -/
theorem triggered_eq_ok_iff
    {lookup : String → Slot → StateM τ (Except BootError PartitionDevice)} {current : Slot}
    {manifest : Manifest} {partition url : String} {t t' : τ} {plan : InstallPlan} :
    (triggered lookup current manifest partition url).run t = (.ok plan, t') ↔
      ∃ u d, IsFirstNamed manifest.partitions partition u ∧ u.program ≠ "" ∧
        isAligned u.newSize manifest.effectiveBlockSize = true ∧
        (lookup partition plan.targetSlot).run t = (.ok d, t') ∧
        plan = triggeredFor current url u d := by
  constructor
  · intro hplan
    by_cases hmissing : ∀ u, ¬IsFirstNamed manifest.partitions partition u
    · rw [triggered_of_missing hmissing] at hplan
      cases hplan
    obtain ⟨u, hfirst⟩ := not_forall_not.1 hmissing
    rw [triggered_of_first hfirst] at hplan
    split_ifs at hplan with hprogram haligned
    · cases hplan
    · rw [StateT.run_bind] at hplan
      match hfound : (lookup partition (triggeredSlot current)).run t with
      | (.error e, t₁) =>
        rw [hfound] at hplan
        cases hplan
      | (.ok d, t₁) =>
        rw [hfound] at hplan
        cases hplan
        exact ⟨u, d, hfirst, hprogram, haligned, hfound, rfl⟩
    · cases hplan
  · rintro ⟨u, d, hfirst, hprogram, haligned, hfound, rfl⟩
    have hfound' : (lookup partition (triggeredSlot current)).run t = (.ok d, t') := hfound
    rw [triggered_of_first hfirst, if_neg hprogram, if_pos haligned, StateT.run_bind, hfound']
    rfl

end SlotUpdate.InstallPlan
