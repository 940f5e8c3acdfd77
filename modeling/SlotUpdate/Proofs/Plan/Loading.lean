import SlotUpdate.Plan.Install

/-!
# Loading partitions, all or none

`InstallPlan.load` gives a plan all of a manifest's partitions or none of them. `Loads` says that
updates in a row have aligned sizes and devices, and which partitions they become; `Stops` says why
an update does not. Either all updates load, or there is a first that stops (`loads_or_firstStop`),
and the run follows in both cases (`Loads.run_load`, `FirstStop.run_load`).

Devices may change with every question. What they are asked for is seen by `recording` devices,
which answer in the same way and keep a list of the questions: updates load and stop on them as they
do on the others (`Loads.recording`, `Stops.recording`), so that the same lemmas say what is asked.
-/

namespace SlotUpdate

/-! ## Devices -/

/-- Something that has devices of partitions, by the name, the slot that is written and the one that
is booted. -/
abbrev DeviceTable (τ : Type) := String → Slot → Slot → StateM τ (Except BootError PartitionDevice)

/-- What a device table is asked for. -/
structure DeviceQuestion where
  /-- The name of the partition. -/
  partition : String
  /-- The slot that is written. -/
  target : Slot
  /-- The slot that is booted. -/
  source : Slot
  deriving Repr, DecidableEq

variable {τ : Type}

/-- The same devices, with a list of what they were asked for. -/
def DeviceTable.recording (device : DeviceTable τ) : DeviceTable (τ × List DeviceQuestion) :=
  fun name target source (t, asked) =>
    let given := (device name target source).run t
    (given.1, given.2, asked ++ [⟨name, target, source⟩])

/-- Devices that do not change, and what they are. -/
def DeviceTable.IsFixed (device : DeviceTable τ)
    (answer : String → Slot → Slot → Except BootError PartitionDevice) : Prop :=
  ∀ name target source t, (device name target source).run t = (answer name target source, t)

/-- What is asked for an update, on behalf of a plan. -/
def InstallPlan.question (plan : InstallPlan) (u : PartitionUpdate) : DeviceQuestion :=
  ⟨u.partitionName, plan.targetSlot, plan.sourceSlot⟩

/-- The answer for an update, on behalf of a plan. -/
def InstallPlan.ask (plan : InstallPlan) (device : DeviceTable τ) (u : PartitionUpdate) (t : τ) :
    Except BootError PartitionDevice × τ :=
  (device u.partitionName plan.targetSlot plan.sourceSlot).run t

/-! ## Updates -/

/-- A size is a multiple of the block size. Without blocks every size will do. -/
def Aligned (size : UInt64) (blockSize : UInt32) : Prop :=
  blockSize = 0 ∨ blockSize.toNat ∣ size.toNat

/-- A partition of a plan is what an update says of it, on its devices. -/
structure Enters (u : PartitionUpdate) (d : PartitionDevice) (p : Partition) : Prop where
  /-- The name is that of the update. -/
  name : p.name = u.partitionName
  /-- The device for writing. -/
  target : p.target = d.writable
  /-- The device for reading. -/
  readonlyTarget : p.readonlyTarget = d.readonly
  /-- The size after the update, zero if it is not given. -/
  size : p.size = (u.newPartitionInfo.bind (·.size)).getD 0
  /-- The digest after the update, empty if it is not given. -/
  hash : p.hash = (u.newPartitionInfo.bind (·.hash)).getD []
  /-- The filesystem, empty if it is not given. -/
  filesystem : p.filesystem = u.filesystemType.getD ""
  /-- The program, empty if there is none. -/
  program : p.program = u.postinstallPath.getD ""
  /-- The program runs only if the update says so. -/
  runs : p.runs = u.runPostinstall.getD false
  /-- Its failure is ignored only if the update says so. -/
  optional : p.optional = u.postinstallOptional.getD false

/-- A partition is what an update says exactly if it is made of it. -/
theorem enters_iff {u : PartitionUpdate} {d : PartitionDevice} {p : Partition} :
    Enters u d p ↔ p = InstallPlan.partitionOf u d := by
  constructor
  · rintro ⟨hname, htarget, hreadonly, hsize, hhash, hfilesystem, hprogram, hruns, hoptional⟩
    cases p
    subst hname htarget hreadonly hsize hhash hfilesystem hprogram hruns hoptional
    rfl
  · rintro rfl
    exact ⟨rfl, rfl, rfl, rfl, rfl, rfl, rfl, rfl, rfl⟩

namespace InstallPlan

/-- A size that is checked to be aligned is. -/
theorem isAligned_iff {size : UInt64} {blockSize : UInt32} :
    isAligned size blockSize = true ↔ Aligned size blockSize := by
  have hmod : size % blockSize.toUInt64 = 0 ↔ blockSize.toNat ∣ size.toNat := by
    rw [← UInt64.toNat_inj, UInt64.toNat_mod, UInt32.toNat_toUInt64, UInt64.toNat_zero,
      Nat.dvd_iff_mod_eq_zero]
  rw [isAligned, Bool.or_eq_true, beq_iff_eq, beq_iff_eq, hmod, Aligned]

variable {device : DeviceTable τ} {plan : InstallPlan} {blockSize : UInt32}
  {updates : List PartitionUpdate} {u : PartitionUpdate} {ps : List Partition}
  {t t' : τ} {e : PlanError} {asked last : List DeviceQuestion}

/-- Updates in a row that have aligned sizes and devices, and the partitions that they become. The
devices go from one state to another. -/
inductive Loads (device : DeviceTable τ) (plan : InstallPlan) (blockSize : UInt32) :
    List PartitionUpdate → τ → List Partition → τ → Prop where
  /-- No updates are no partitions. -/
  | nil {t : τ} : Loads device plan blockSize [] t [] t
  /-- An update is a partition, and the others are the others. -/
  | cons {u : PartitionUpdate} {updates : List PartitionUpdate} {t t₁ t' : τ} {d : PartitionDevice}
    {p : Partition} {ps : List Partition} (aligned : Aligned u.newSize blockSize)
    (found : plan.ask device u t = (.ok d, t₁)) (enters : Enters u d p)
    (rest : Loads device plan blockSize updates t₁ ps t') :
    Loads device plan blockSize (u :: updates) t (p :: ps) t'

/-- An update that is no partition: the error, and what was asked for it. -/
inductive Stops (device : DeviceTable τ) (plan : InstallPlan) (blockSize : UInt32)
    (u : PartitionUpdate) (t : τ) : PlanError → List DeviceQuestion → τ → Prop where
  /-- Its size is not aligned. No device is asked for. -/
  | unaligned (misfit : ¬Aligned u.newSize blockSize) :
    Stops device plan blockSize u t (.unaligned u.partitionName u.newSize blockSize) [] t
  /-- Its size is aligned, but it has no device. -/
  | missing {cause : BootError} {t' : τ} (aligned : Aligned u.newSize blockSize)
    (fails : plan.ask device u t = (.error cause, t')) :
    Stops device plan blockSize u t (.device u.partitionName cause) [plan.question u] t'

/-- An update of a list is no partition, and those before it are. -/
inductive FirstStop (device : DeviceTable τ) (plan : InstallPlan) (blockSize : UInt32) :
    List PartitionUpdate → τ → PlanError → List DeviceQuestion → τ → Prop where
  /-- The updates, with the first that stops after those that load. -/
  | intro {before after : List PartitionUpdate} {u : PartitionUpdate} {t t₁ t' : τ}
    {ps : List Partition} {e : PlanError} {last : List DeviceQuestion}
    (loads : Loads device plan blockSize before t ps t₁)
    (stops : Stops device plan blockSize u t₁ e last t') :
    FirstStop device plan blockSize (before ++ u :: after) t e (before.map plan.question ++ last) t'

/-- If the first update stops it is the first that does. -/
theorem Stops.first (h : Stops device plan blockSize u t e last t') :
    FirstStop device plan blockSize (u :: updates) t e last t' :=
  FirstStop.intro Loads.nil h

/-- One more update that loads leaves the first that stops where it is. -/
theorem FirstStop.cons {t₁ : τ} {d : PartitionDevice} (haligned : Aligned u.newSize blockSize)
    (hfound : plan.ask device u t = (.ok d, t₁))
    (h : FirstStop device plan blockSize updates t₁ e asked t') :
    FirstStop device plan blockSize (u :: updates) t e (plan.question u :: asked) t' := by
  obtain ⟨hloads, hstops⟩ := h
  have hmore := Loads.cons haligned hfound (enters_iff.mpr rfl) hloads
  exact FirstStop.intro hmore hstops

/-- All updates load, or there is a first that stops. -/
theorem loads_or_firstStop (device : DeviceTable τ) (plan : InstallPlan) (blockSize : UInt32)
    (updates : List PartitionUpdate) (t : τ) :
    (∃ ps t', Loads device plan blockSize updates t ps t') ∨
      ∃ e asked t', FirstStop device plan blockSize updates t e asked t' := by
  -- The next update is asked for in the state that the devices are left in.
  induction updates generalizing t with
  | nil => exact Or.inl ⟨[], t, .nil⟩
  | cons u updates ih =>
    by_cases haligned : Aligned u.newSize blockSize
    case neg => exact Or.inr ⟨_, _, _, (Stops.unaligned haligned).first⟩
    match hfound : plan.ask device u t with
    | (.error cause, t₁) =>
      exact Or.inr ⟨_, _, _, (Stops.missing haligned hfound).first⟩
    | (.ok d, t₁) =>
      rcases ih t₁ with ⟨ps, t', hloads⟩ | ⟨e, asked, t', hfirst⟩
      · exact Or.inl ⟨_, _, .cons haligned hfound (enters_iff.mpr rfl) hloads⟩
      · exact Or.inr ⟨_, _, _, hfirst.cons haligned hfound⟩

/-! ## Runs -/

/-- The devices of a table for the plan that asks. -/
def lookupFor (plan : InstallPlan) (device : DeviceTable τ) (name : String) (slot : Slot) :
    StateM τ (Except BootError PartitionDevice) :=
  device name slot plan.sourceSlot

/-- An update that is not aligned ends the resolution. -/
theorem run_resolve_of_unaligned (h : ¬Aligned u.newSize blockSize) :
    (resolve (plan.lookupFor device) plan.targetSlot blockSize (u :: updates)).run t =
      (.error (.unaligned u.partitionName u.newSize blockSize), t) := by
  rw [← isAligned_iff] at h
  rw [resolve, if_neg h]
  rfl

/-- An update that has no device ends the resolution. -/
theorem run_resolve_of_missing {cause : BootError} (haligned : Aligned u.newSize blockSize)
    (hfails : plan.ask device u t = (.error cause, t')) :
    (resolve (plan.lookupFor device) plan.targetSlot blockSize (u :: updates)).run t =
      (.error (.device u.partitionName cause), t') := by
  have hlookup : (plan.lookupFor device u.partitionName plan.targetSlot).run t =
      (.error cause, t') := hfails
  rw [resolve, if_pos (isAligned_iff.mpr haligned), StateT.run_bind, hlookup]
  rfl

/-- An update that has a device becomes the first partition, if the others are resolved. -/
theorem run_resolve_of_found {d : PartitionDevice} {t₁ : τ} (haligned : Aligned u.newSize blockSize)
    (hfound : plan.ask device u t = (.ok d, t₁)) :
    (resolve (plan.lookupFor device) plan.targetSlot blockSize (u :: updates)).run t =
      ((resolve (plan.lookupFor device) plan.targetSlot blockSize updates).run t₁).map
        (Except.map (partitionOf u d :: ·)) id := by
  have hlookup : (plan.lookupFor device u.partitionName plan.targetSlot).run t = (.ok d, t₁) :=
    hfound
  rw [resolve, if_pos (isAligned_iff.mpr haligned), StateT.run_bind, hlookup]
  show StateT.run (resolve _ _ _ _ >>= _) t₁ = _
  rw [StateT.run_bind]
  match (resolve (plan.lookupFor device) plan.targetSlot blockSize updates).run t₁ with
  | (.error e, t') => rfl
  | (.ok ps, t') => rfl

/-- Updates that load are resolved. -/
theorem Loads.run_resolve (h : Loads device plan blockSize updates t ps t') :
    (resolve (plan.lookupFor device) plan.targetSlot blockSize updates).run t = (.ok ps, t') := by
  induction h with
  | nil => rfl
  | cons haligned hfound henters _ ih =>
    rw [run_resolve_of_found haligned hfound, ih, enters_iff.mp henters]
    rfl

/-- An update that stops is the error, whatever comes after it. -/
theorem Stops.run_resolve (h : Stops device plan blockSize u t e last t') :
    (resolve (plan.lookupFor device) plan.targetSlot blockSize (u :: updates)).run t =
      (.error e, t') := by
  cases h with
  | unaligned hmisfit => exact run_resolve_of_unaligned hmisfit
  | missing haligned hfails => exact run_resolve_of_missing haligned hfails

/-- The first update that stops is the error. -/
theorem FirstStop.run_resolve (h : FirstStop device plan blockSize updates t e asked t') :
    (resolve (plan.lookupFor device) plan.targetSlot blockSize updates).run t =
      (.error e, t') := by
  obtain ⟨hloads, hstops⟩ := h
  induction hloads with
  | nil => exact hstops.run_resolve
  | cons haligned hfound _ _ ih =>
    rw [List.cons_append, run_resolve_of_found haligned hfound, ih hstops]
    rfl

/-- Loading is resolving, and then putting the partitions in place of the plan's own. -/
theorem run_load (device : DeviceTable τ) (plan : InstallPlan) (blockSize : UInt32)
    (updates : List PartitionUpdate) (t : τ) :
    (plan.load device blockSize updates).run t =
      match (resolve (plan.lookupFor device) plan.targetSlot blockSize updates).run t with
      | (.ok ps, t') => (⟨{ plan with partitions := ps }, none⟩, t')
      | (.error e, t') => (⟨plan, some e⟩, t') := by
  unfold load loadPartitions
  dsimp only
  rw [StateT.run_bind, StateT.run_bind]
  match (resolve (plan.lookupFor device) plan.targetSlot blockSize updates).run t with
  | (.error e, t') => rfl
  | (.ok ps, t') => rfl

/-- Updates that load are the partitions of the plan. -/
theorem Loads.run_load (h : Loads device plan blockSize updates t ps t') :
    (plan.load device blockSize updates).run t =
      (⟨{ plan with partitions := ps }, none⟩, t') := by
  rw [InstallPlan.run_load, h.run_resolve]

/-- With an update that stops the plan stays as it is. -/
theorem FirstStop.run_load (h : FirstStop device plan blockSize updates t e asked t') :
    (plan.load device blockSize updates).run t = (⟨plan, some e⟩, t') := by
  rw [InstallPlan.run_load, h.run_resolve]

/-! ## What is asked -/

/-- The same is answered where a list is kept, and the list is one longer. -/
theorem ask_recording {answer : Except BootError PartitionDevice}
    (h : plan.ask device u t = (answer, t')) (asked : List DeviceQuestion) :
    plan.ask device.recording u (t, asked) = (answer, (t', asked ++ [plan.question u])) :=
  congrArg (fun given => (given.1, given.2, asked ++ [plan.question u])) h

/-- Updates that load also do where a list is kept. They are all asked for. -/
theorem Loads.recording (h : Loads device plan blockSize updates t ps t')
    (asked : List DeviceQuestion) :
    Loads device.recording plan blockSize updates (t, asked) ps
      (t', asked ++ updates.map plan.question) := by
  induction h generalizing asked with
  | nil =>
    rw [List.map_nil, List.append_nil]
    exact .nil
  | cons haligned hfound henters _ ih =>
    rw [List.map_cons, List.append_cons]
    exact .cons haligned (ask_recording hfound asked) henters (ih _)

/-- An update that stops also does where a list is kept. -/
theorem Stops.recording (h : Stops device plan blockSize u t e last t')
    (asked : List DeviceQuestion) :
    Stops device.recording plan blockSize u (t, asked) e last (t', asked ++ last) := by
  cases h with
  | unaligned hmisfit =>
    rw [List.append_nil]
    exact .unaligned hmisfit
  | missing haligned hfails => exact .missing haligned (ask_recording hfails asked)

/-- The first update that stops is the same where a list is kept. -/
theorem FirstStop.recording (h : FirstStop device plan blockSize updates t e last t')
    (asked : List DeviceQuestion) :
    FirstStop device.recording plan blockSize updates (t, asked) e last (t', asked ++ last) := by
  obtain ⟨hloads, hstops⟩ := h
  rw [← List.append_assoc]
  exact .intro (hloads.recording asked) (hstops.recording _)

/-! ## All or none -/

/-- Devices that do not change load all updates exactly if each of them has an aligned size and a
device. -/
theorem loads_iff_of_fixed {answer : String → Slot → Slot → Except BootError PartitionDevice}
    (hfixed : device.IsFixed answer) :
    (∃ ps t', Loads device plan blockSize updates t ps t') ↔
      ∀ u ∈ updates, Aligned u.newSize blockSize ∧
        ∃ d, answer u.partitionName plan.targetSlot plan.sourceSlot = .ok d := by
  have hask : ∀ u t, plan.ask device u t =
      (answer u.partitionName plan.targetSlot plan.sourceSlot, t) := fun u t => hfixed _ _ _ t
  constructor
  · rintro ⟨ps, t', hloads⟩
    induction hloads with
    | nil => exact List.forall_mem_nil _
    | cons haligned hfound _ _ ih =>
      rw [hask, Prod.mk.injEq] at hfound
      exact List.forall_mem_cons.mpr ⟨⟨haligned, _, hfound.1⟩, ih⟩
  · intro h
    induction updates with
    | nil => exact ⟨[], t, .nil⟩
    | cons u updates ih =>
      obtain ⟨⟨haligned, d, hd⟩, hrest⟩ := List.forall_mem_cons.mp h
      obtain ⟨ps, t', hloads⟩ := ih hrest
      exact ⟨_, _, .cons haligned (by rw [hask, hd]) (enters_iff.mpr rfl) hloads⟩

/-- What becomes of a plan, and what the devices are asked for, when partitions are loaded. -/
structure LoadsAllOrNothing (device : DeviceTable τ) (plan : InstallPlan) (blockSize : UInt32)
    (updates : List PartitionUpdate) (t : τ) (out : Applied) (asked : List DeviceQuestion)
    (t' : τ) : Prop where
  /-- Loading succeeds exactly if all updates load. -/
  succeeds : out.failure = none ↔ ∃ ps t₁, Loads device plan blockSize updates t ps t₁
  /-- On devices that do not change they do exactly if each of them has an aligned size and a
  device. -/
  fixed : ∀ answer, device.IsFixed answer → (out.failure = none ↔
    ∀ u ∈ updates, Aligned u.newSize blockSize ∧
      ∃ d, answer u.partitionName plan.targetSlot plan.sourceSlot = .ok d)
  /-- Then what they become is in place of the partitions of the plan, all else is as it was, and
  each update has been asked for once, in order. -/
  loaded : out.failure = none → ∃ ps, Loads device plan blockSize updates t ps t' ∧
    out.plan = { plan with partitions := ps } ∧ asked = updates.map plan.question
  /-- Otherwise the plan is as it was. The error is that of the first update that stops, and nothing
  is asked for those after it. -/
  refused : ∀ e, out.failure = some e → out.plan = plan ∧
    FirstStop device plan blockSize updates t e asked t'

/-- Loading partitions gives a plan all of them or none, and asks for no device after the first
update that stops. -/
theorem loads_all_or_nothing (device : DeviceTable τ) (plan : InstallPlan) (blockSize : UInt32)
    (updates : List PartitionUpdate) (t : τ) :
    ∃ out asked t', (plan.load device blockSize updates).run t = (out, t') ∧
      (plan.load device.recording blockSize updates).run (t, []) = (out, (t', asked)) ∧
      LoadsAllOrNothing device plan blockSize updates t out asked t' := by
  rcases loads_or_firstStop device plan blockSize updates t with
    ⟨ps, t', hloads⟩ | ⟨e, asked, t', hfirst⟩
  · refine ⟨_, updates.map plan.question, t', hloads.run_load, (hloads.recording []).run_load, ?_⟩
    have hsucceeds : ∃ ps t₁, Loads device plan blockSize updates t ps t₁ := ⟨ps, t', hloads⟩
    exact {
      succeeds := iff_of_true rfl hsucceeds
      fixed := fun answer hfixed => iff_of_true rfl ((loads_iff_of_fixed hfixed).mp hsucceeds)
      loaded := fun _ => ⟨ps, hloads, rfl, rfl⟩
      refused := fun e herror => nomatch herror }
  · refine ⟨_, asked, t', hfirst.run_load, (hfirst.recording []).run_load, ?_⟩
    -- Updates cannot load as well: there is only one run.
    have hrefused : ¬∃ ps t₁, Loads device plan blockSize updates t ps t₁ := by
      rintro ⟨ps, t₁, hloads⟩
      have hrun := hfirst.run_resolve
      rw [hloads.run_resolve] at hrun
      cases hrun
    exact {
      succeeds := iff_of_false (fun hnone => nomatch hnone) hrefused
      fixed := fun answer hfixed => iff_of_false (fun hnone => nomatch hnone)
        fun hall => hrefused ((loads_iff_of_fixed hfixed).mpr hall)
      loaded := fun hnone => nomatch hnone
      refused := fun e' herror => ⟨rfl, by rwa [← Option.some.inj herror]⟩ }

end InstallPlan

end SlotUpdate
