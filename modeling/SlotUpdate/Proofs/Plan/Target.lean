import Mathlib.Tactic.SplitIfs
import SlotUpdate.Command.Postinstall
import SlotUpdate.Proofs.Boot.Devices
import SlotUpdate.Proofs.Except.Bind
import SlotUpdate.Proofs.Plan.Triggered

/-!
# The slot that a plan is for

A plan that the command builds is for another slot than the booted one, one that the host has, and
its partitions have the devices of that slot (`SparesCurrent`). For an update this is the slot after
the booted one, in a circle; for the program of one partition it is one of the first two, of which
the partition has to have a device.

That the booted slot is one of the host's is what reading a configuration checks
(`Config.currentSlot_lt_of_parse`). What the two ways of building a plan make is told by
`Command.updatePlan_made` and `Command.triggeredPlan_made`, and `Command.buildPlan_eq_ok` says that
there is no third one.
-/

namespace SlotUpdate

/-! ## Reports -/

namespace Command.Report

variable {α β ε : Type}

/-- Commands one after the other have a result if the first one has, and the second one with it. -/
theorem bind_result_eq_ok {r : Report α} {f : α → Report β} {b : β} :
    (r >>= f).result = .ok b ↔ ∃ a, r.result = .ok a ∧ (f a).result = .ok b := by
  show (r.bind f).result = .ok b ↔ _
  unfold Report.bind
  cases hr : r.result with
  | error e =>
    constructor
    · intro h
      cases h
    · rintro ⟨a, h, -⟩
      cases h
  | ok a =>
    constructor
    · intro h
      exact ⟨a, rfl, h⟩
    · rintro ⟨a', h, h'⟩
      cases h
      exact h'

/-- What is taken over is a result, whatever a failure is told as. -/
theorem take_context_result_eq_ok {failure : ε → Failure} {x : Except ε α} {log : List LogLine}
    {text : String} {a : α} :
    ((Report.take failure x log).context text).result = .ok a ↔ x = .ok a :=
  mapError_eq_ok.trans mapError_eq_ok

end Command.Report

/-! ## Slots -/

/-- The booted slot of a configuration is one of its slots. -/
theorem Config.currentSlot_lt_of_parse {path : Path} {text : String} {config : Config}
    (h : Config.parse path text = .ok config) :
    config.device.currentSlot < config.device.numSlots := by
  unfold Config.parse at h
  cases hread : Config.read text with
  | error fault =>
    rw [hread] at h
    cases h
  | ok c =>
    rw [hread] at h
    dsimp only at h
    cases hfault : c.fault? with
    | some fault =>
      rw [hfault] at h
      cases h
    | none =>
      rw [hfault] at h
      cases h
      unfold Config.fault? at hfault
      split_ifs at hfault with _ hle
      exact UInt32.not_le.1 hle

/-- The slot after a slot is found without an overflow. -/
theorem Command.toNat_slotAfter {current : Slot} {numSlots : UInt32} (h : current < numSlots) :
    (slotAfter current numSlots).toNat = (current.toNat + 1) % numSlots.toNat := by
  have hlt : current.toNat < numSlots.toNat := h
  have hfits : current.toNat + 1 < 2 ^ 32 := Nat.lt_of_le_of_lt hlt numSlots.toNat_lt
  have hsucc : (current + 1).toNat = current.toNat + 1 := by
    rw [UInt32.toNat_add]
    exact Nat.mod_eq_of_lt hfits
  rw [slotAfter, UInt32.toNat_mod, hsucc]

/-- Among two slots or more, the slot after one of them is another one of them. -/
theorem Command.slotAfter_spec {current : Slot} {numSlots : UInt32} (h : current < numSlots)
    (htwo : ¬numSlots < 2) : slotAfter current numSlots ≠ current ∧
      slotAfter current numSlots < numSlots := by
  have hnext := toNat_slotAfter h
  have hlt : current.toNat < numSlots.toNat := h
  have htwo' : 2 ≤ numSlots.toNat := UInt32.not_lt.1 htwo
  constructor
  · intro heq
    rw [heq] at hnext
    rcases Nat.lt_or_ge (current.toNat + 1) numSlots.toNat with hinside | hend
    · rw [Nat.mod_eq_of_lt hinside] at hnext
      omega
    · have hlast : current.toNat + 1 = numSlots.toNat := by omega
      rw [hlast, Nat.mod_self] at hnext
      omega
  · show (slotAfter current numSlots).toNat < numSlots.toNat
    rw [hnext]
    exact Nat.mod_lt _ (by omega)

/-! ## Devices -/

/-- The partition has the devices that its name has in the slot. -/
def Partition.ResolvedIn (slots : HostSlots) (files : FileTree) (slot : Slot) (p : Partition) :
    Prop :=
  ∃ d, slots.device files p.name slot = .ok d ∧ p.target = d.writable ∧
    p.readonlyTarget = d.readonly

variable {slots : HostSlots} {files : FileTree}

namespace InstallPlan

/-- A triggered plan is for another slot than the booted one. -/
theorem triggeredSlot_ne (current : Slot) : triggeredSlot current ≠ current := by
  unfold triggeredSlot
  split_ifs with hzero
  · rw [hzero]
    decide
  · exact fun h => hzero h.symm

/-- Every update becomes a partition on its devices in the slot, in order. -/
def MadeOn (slots : HostSlots) (files : FileTree) (slot : Slot) :
    List PartitionUpdate → List Partition → Prop :=
  List.Forall₂ fun u p => ∃ d, slots.device files u.partitionName slot = .ok d ∧ p = partitionOf u d

/-- Updates that are resolved become partitions on the devices of the slot. -/
theorem madeOn_of_resolve {slot : Slot} {blockSize : UInt32} {updates : List PartitionUpdate}
    {ps : List Partition}
    (h : resolve (Command.lookup slots files) slot blockSize updates = Except.ok ps) :
    MadeOn slots files slot updates ps := by
  induction updates generalizing ps with
  | nil =>
    cases h
    exact .nil
  | cons u rest ih =>
    unfold resolve at h
    by_cases haligned : isAligned u.newSize blockSize = true
    case neg =>
      rw [if_neg haligned] at h
      cases h
    rw [if_pos haligned] at h
    cases hdevice : slots.device files u.partitionName slot with
    | error e =>
      have hlookup : Command.lookup slots files u.partitionName slot = Except.error e := hdevice
      simp only [hlookup] at h
      cases h
    | ok d =>
      have hlookup : Command.lookup slots files u.partitionName slot = Except.ok d := hdevice
      cases hrest : resolve (Command.lookup slots files) slot blockSize rest with
      | error e =>
        simp only [hlookup, hrest] at h
        cases h
      | ok ps' =>
        simp only [hlookup, hrest] at h
        cases h
        exact .cons ⟨d, hdevice, rfl⟩ (ih hrest)

/-- No update is left out. -/
theorem MadeOn.names {slot : Slot} {updates : List PartitionUpdate} {ps : List Partition}
    (h : MadeOn slots files slot updates ps) :
    ps.map (·.name) = updates.map (·.partitionName) := by
  induction h with
  | nil => rfl
  | cons hmade hrest ih =>
    obtain ⟨d, -, rfl⟩ := hmade
    rw [List.map_cons, List.map_cons, ih]
    rfl

/-- Every partition has the devices of the slot. -/
theorem MadeOn.resolved {slot : Slot} {updates : List PartitionUpdate} {ps : List Partition}
    (h : MadeOn slots files slot updates ps) : ∀ p ∈ ps, p.ResolvedIn slots files slot := by
  induction h with
  | nil => exact List.forall_mem_nil _
  | cons hmade hrest ih =>
    obtain ⟨d, hdevice, rfl⟩ := hmade
    exact List.forall_mem_cons.2 ⟨⟨d, hdevice, rfl, rfl⟩, ih⟩

/-- Every one of the updates is found among the partitions, on its devices. -/
theorem MadeOn.exists_of_mem {slot : Slot} {updates : List PartitionUpdate} {ps : List Partition}
    (h : MadeOn slots files slot updates ps) {u : PartitionUpdate} (hu : u ∈ updates) :
    ∃ d, slots.device files u.partitionName slot = .ok d ∧ partitionOf u d ∈ ps := by
  induction h with
  | nil => cases hu
  | cons hmade hrest ih =>
    obtain ⟨d, hdevice, rfl⟩ := hmade
    rcases List.mem_cons.1 hu with rfl | hu
    · exact ⟨d, hdevice, List.mem_cons_self⟩
    · obtain ⟨d, hdevice, hmem⟩ := ih hu
      exact ⟨d, hdevice, List.mem_cons_of_mem _ hmem⟩

/-- A plan with the partitions of a manifest is the plan before with what these become. -/
theorem loadPartitions_made {start plan : InstallPlan} {blockSize : UInt32}
    {updates : List PartitionUpdate}
    (h : start.loadPartitions (Command.lookup slots files) blockSize updates = Except.ok plan) :
    ∃ ps, plan = { start with partitions := ps } ∧
      MadeOn slots files start.targetSlot updates ps := by
  unfold loadPartitions at h
  cases hresolve : resolve (Command.lookup slots files) start.targetSlot blockSize updates with
  | error e =>
    simp only [hresolve] at h
    cases h
  | ok ps =>
    simp only [hresolve] at h
    cases h
    exact ⟨ps, rfl, madeOn_of_resolve hresolve⟩

/-- So none is left out, and all of them have the devices of its slot. -/
theorem loadPartitions_eq_ok {start plan : InstallPlan} {blockSize : UInt32}
    {updates : List PartitionUpdate}
    (h : start.loadPartitions (Command.lookup slots files) blockSize updates = Except.ok plan) :
    ∃ ps, plan = { start with partitions := ps } ∧
      ps.map (·.name) = updates.map (·.partitionName) ∧
        ∀ p ∈ ps, p.ResolvedIn slots files start.targetSlot := by
  obtain ⟨ps, hplan, hmade⟩ := loadPartitions_made h
  exact ⟨ps, hplan, hmade.names, hmade.resolved⟩

/-- The plan is for another slot than the booted one, and its partitions have their devices
there. -/
structure SparesCurrent (slots : HostSlots) (files : FileTree) (plan : InstallPlan) : Prop where
  /-- The source is the booted slot. -/
  source : plan.sourceSlot = slots.config.currentSlot
  /-- The target is another slot. -/
  other : plan.targetSlot ≠ plan.sourceSlot
  /-- It is one of the slots of the host. -/
  present : plan.targetSlot < slots.config.numSlots
  /-- Both devices of every partition are those that its name has in the target. -/
  resolved : ∀ p ∈ plan.partitions, p.ResolvedIn slots files plan.targetSlot

end InstallPlan

namespace Command

open InstallPlan (SparesCurrent)

variable {manifest : Manifest} {plan : InstallPlan}

/-- An update is made for the slot after the booted one, on a host of two slots or more. -/
theorem updatePlan_made {start : InstallPlan} {o : PostinstallOptions}
    (h : (updatePlan start slots files manifest o).result = .ok plan) :
    ¬slots.config.numSlots < 2 ∧ plan.sourceSlot = slots.config.currentSlot ∧
      plan.targetSlot = slotAfter slots.config.currentSlot slots.config.numSlots ∧
      InstallPlan.MadeOn slots files plan.targetSlot manifest.partitions plan.partitions := by
  unfold updatePlan at h
  split_ifs at h with htwo
  · cases h
  · obtain ⟨ps, rfl, hmade⟩ := InstallPlan.loadPartitions_made
      (Report.take_context_result_eq_ok.1 h)
    exact ⟨htwo, rfl, rfl, hmade⟩

/-- The slot of an update is another one than the booted one, and one of the host's. -/
theorem updatePlan_eq_ok {start : InstallPlan} {o : PostinstallOptions}
    (hcurrent : slots.config.currentSlot < slots.config.numSlots)
    (h : (updatePlan start slots files manifest o).result = .ok plan) :
    plan.SparesCurrent slots files ∧
      plan.targetSlot = slotAfter slots.config.currentSlot slots.config.numSlots := by
  obtain ⟨htwo, hsource, htarget, hmade⟩ := updatePlan_made h
  obtain ⟨hother, hpresent⟩ := slotAfter_spec hcurrent htwo
  refine ⟨⟨hsource, ?_, ?_, hmade.resolved⟩, htarget⟩
  · rw [hsource, htarget]
    exact hother
  · rw [htarget]
    exact hpresent

/-- The program of one partition is run on the devices that the partition has in one of the first
two slots. -/
theorem triggeredPlan_made {partition url : String}
    (h : (triggeredPlan slots files manifest partition url).result = .ok plan) :
    ∃ u d, InstallPlan.IsFirstNamed manifest.partitions partition u ∧ u.program ≠ "" ∧
      slots.device files partition (InstallPlan.triggeredSlot slots.config.currentSlot) = .ok d ∧
      plan = InstallPlan.triggeredFor slots.config.currentSlot url u d := by
  have hbuilt : InstallPlan.triggered (lookup slots files) slots.config.currentSlot manifest
      partition url = Except.ok plan := Report.take_context_result_eq_ok.1 h
  cases hfind : manifest.partitions.find? (·.partitionName == partition) with
  | none =>
    have hmissing (u) (hfirst : InstallPlan.IsFirstNamed manifest.partitions partition u) :
        False := by
      rw [InstallPlan.find?_partitionName_eq_some_iff.2 hfirst] at hfind
      cases hfind
    rw [InstallPlan.triggered_of_missing hmissing] at hbuilt
    cases hbuilt
  | some u =>
    have hfirst := InstallPlan.find?_partitionName_eq_some_iff.1 hfind
    rw [InstallPlan.triggered_of_first hfirst] at hbuilt
    split_ifs at hbuilt with hprogram haligned
    cases hdevice : slots.device files partition
        (InstallPlan.triggeredSlot slots.config.currentSlot) with
    | error e =>
      have hlookup : lookup slots files partition
          (InstallPlan.triggeredSlot slots.config.currentSlot) = Except.error e := hdevice
      rw [hlookup] at hbuilt
      cases hbuilt
    | ok d =>
      have hlookup : lookup slots files partition
          (InstallPlan.triggeredSlot slots.config.currentSlot) = Except.ok d := hdevice
      rw [hlookup] at hbuilt
      cases hbuilt
      exact ⟨u, d, hfirst, hprogram, rfl, rfl⟩

/-- The program of one partition runs for one of the first two slots, and no slot is switched. The
slot is one of the host's since the partition has a device there. -/
theorem triggeredPlan_eq_ok {partition url : String}
    (h : (triggeredPlan slots files manifest partition url).result = .ok plan) :
    plan.SparesCurrent slots files ∧ plan.switchSlot = false := by
  obtain ⟨u, d, ⟨before, after, -, hname, -⟩, -, hdevice, rfl⟩ := triggeredPlan_made h
  refine ⟨⟨rfl, InstallPlan.triggeredSlot_ne _, (HostSlots.device_eq_ok hdevice).1, ?_⟩, rfl⟩
  refine List.forall_mem_singleton.2 ⟨d, ?_, rfl, rfl⟩
  rw [← hname] at hdevice
  exact hdevice

/-- Every plan that is built is for another slot than the booted one. -/
theorem buildPlan_eq_ok {o : PostinstallOptions}
    (hcurrent : slots.config.currentSlot < slots.config.numSlots)
    (h : (buildPlan o slots files).result = .ok plan) :
    plan.SparesCurrent slots files ∧
      (o.partition = none →
        plan.targetSlot = slotAfter slots.config.currentSlot slots.config.numSlots) ∧
      (o.partition.isSome = true → plan.switchSlot = false) := by
  unfold buildPlan at h
  -- What is read and verified first decides whether there is a plan, and not for which slot it is.
  obtain ⟨start, -, h⟩ := Report.bind_result_eq_ok.1 h
  obtain ⟨verifier, -, h⟩ := Report.bind_result_eq_ok.1 h
  obtain ⟨source, -, h⟩ := Report.bind_result_eq_ok.1 h
  obtain ⟨⟨header, data⟩, -, h⟩ := Report.bind_result_eq_ok.1 h
  obtain ⟨manifest, -, h⟩ := Report.bind_result_eq_ok.1 h
  cases hpartition : o.partition with
  | some partition =>
    simp only [hpartition] at h
    obtain ⟨hspares, hswitch⟩ := triggeredPlan_eq_ok h
    exact ⟨hspares, nofun, fun _ => hswitch⟩
  | none =>
    simp only [hpartition] at h
    obtain ⟨hspares, htarget⟩ := updatePlan_eq_ok hcurrent h
    exact ⟨hspares, fun _ => htarget, nofun⟩

end Command

end SlotUpdate
