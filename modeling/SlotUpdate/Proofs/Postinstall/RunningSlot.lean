import SlotUpdate.Proofs.Payload.Source
import SlotUpdate.Proofs.Plan.Target
import SlotUpdate.Proofs.Postinstall.LaunchOrder
import SlotUpdate.Rehearsal.Memory

/-!
# The running slot is left alone

What a runner mounts are devices of the partitions of its plan (`Course.device_visited`), and the
slot that it makes the active one is the target of the plan (`Course.activates_target`). So a runner
for a plan that spares the booted slot neither mounts a device of it nor makes it the active one, on
every platform and for all calls. `Runner.running_slot_spared` says this of every plan that the
command builds on a host whose configuration was read.
-/

namespace SlotUpdate

variable {α σ : Type}

/-- The device that a request mounts, or makes read-only so that it can be mounted. -/
def Request.device? : Request α → Option Path
  | .setReadonly device _ | .mount device _ _ _ => some device
  | _ => none

/-- A request for a device touches a partition. -/
theorem Request.touches_of_device? {q : Request α} {device : Path}
    (h : q.device? = some device) : q.touches = true := by
  cases q with
  | setReadonly | mount => rfl
  | _ => cases h

namespace Runner

variable {config : PostinstallConfig} {plan : InstallPlan} {scheduled : Bool} {es : List (Event α)}
  {device : Path}

/-! ## Devices -/

/-- To mount a partition its device is used. -/
theorem device_of_mem_mountRequests {p : Partition} {options : String} {q : Request α}
    (hq : q ∈ mountRequests config p options) (hdevice : q.device? = some device) :
    device = p.readonlyTarget := by
  simp only [mountRequests, List.mem_cons, List.not_mem_nil, or_false] at hq
  rcases hq with rfl | rfl | rfl | rfl | rfl <;> cases hdevice <;> rfl

/-- At a visit of a partition no other device than that of the partition is used. -/
theorem Visits.device_eq {p : Partition} {qs : List (Request α)} (h : Visits config plan p qs)
    {q : Request α} (hq : q ∈ qs) (hdevice : q.device? = some device) :
    device = p.readonlyTarget := by
  cases h with
  | mounts options _ hpart => exact device_of_mem_mountRequests (hpart.subset hq) hdevice
  | launches options _ =>
    rcases List.mem_append.1 hq with hmount | hstart
    · exact device_of_mem_mountRequests hmount hdevice
    · simp only [List.mem_cons, List.not_mem_nil, or_false] at hstart
      rcases hstart with rfl | rfl <;> cases hdevice

/-- Every device that an attempt mounts is that of a partition of the plan. -/
theorem Course.device_visited {pt : Point} (h : Course config plan scheduled es pt)
    {x : Exchange α} (hx : x ∈ Event.exchanges es) (hdevice : x.request.device? = some device) :
    ∃ p ∈ plan.partitions, device = p.readonlyTarget := by
  obtain ⟨n, visits, htour, htouched⟩ := h.tours.exists_tour
  have hmem : x.request ∈ touched es :=
    List.mem_filter.2 ⟨List.mem_map_of_mem hx, Request.touches_of_device? hdevice⟩
  rw [htouched] at hmem
  obtain ⟨v, hv, hq⟩ := List.mem_flatMap.1 hmem
  obtain ⟨-, p, hp, hvisits⟩ := htour.visited v hv
  exact ⟨p, List.mem_of_getElem? hp, hvisits.device_eq hq hdevice⟩

/-! ## The active slot -/

/-- The exchanges make no slot the active one but the target of a plan that switches slots. -/
def Activates (plan : InstallPlan) (xs : List (Exchange α)) : Prop :=
  ∀ x ∈ xs, ∀ slot, x.request = .setActive slot → plan.switchSlot = true ∧ slot = plan.targetSlot

namespace Activates

/-- No exchange makes a slot the active one. -/
theorem nil : Activates plan ([] : List (Exchange α)) := fun _ hx => nomatch hx

/-- Exchanges after exchanges make no other slot the active one if neither do. -/
theorem append {xs ys : List (Exchange α)} (hxs : Activates plan xs) (hys : Activates plan ys) :
    Activates plan (xs ++ ys) :=
  List.forall_mem_append.2 ⟨hxs, hys⟩

/-- Exchanges that are not about the slots make no slot the active one. -/
theorem of_about {topics : List Topic} {xs : List (Exchange α)} (h : About topics xs)
    (hslots : .slots ∉ topics) : Activates plan xs := by
  intro x hx slot hslot
  have htopic := h x hx
  rw [hslot] at htopic
  exact absurd htopic hslots

/-- What is done about the slots at the end of an attempt makes only the target the active one. -/
theorem of_settles {code c : ErrorCode} {ss : List (Exchange α)} (h : Settles plan code ss c) :
    Activates plan ss := by
  unfold Settles at h
  split_ifs at h with hcode hswitch
  · intro x hx slot hslot
    refine ⟨hswitch, ?_⟩
    cases h <;> simp only [List.mem_cons, List.not_mem_nil, or_false] at hx <;>
      rcases hx with rfl | rfl | rfl | rfl <;> cases hslot <;> rfl
  · exact h.1 ▸ nil
  · exact h.1 ▸ nil

end Activates

/-- No step makes another slot the active one. -/
theorem Step.activates_target {pt pt' : Point} {fs : List (Event α)}
    (h : Step config plan scheduled pt fs pt') : Activates plan (Event.exchanges fs) := by
  -- Only the step that ends the attempt is about the slots.
  cases hresult : pt'.result? with
  | none => exact .of_about (h.about hresult).2 (by decide)
  | some result =>
    cases h with
    | noted => exact .nil
    | @ends code c mounted us ss ps hus hss hps =>
      rw [Event.exchanges_map_asked]
      have hcomplete : About [.delivery] [(⟨.complete c, ()⟩ : Exchange α)] := by simp
      exact (((Activates.of_about hus.about (by decide)).append (.of_settles hss)).append
        (.of_about (about_of_takesBack hps) (by decide))).append (.of_about hcomplete (by decide))
    | unmaps reply =>
      have hunmaps : About [.mapping] [(⟨.unmapAll, reply⟩ : Exchange α)] := by simp
      exact .of_about hunmaps (by decide)
    | _ => cases hresult

/-- An attempt makes no slot the active one but the target of its plan. -/
theorem Course.activates_target {pt : Point} (h : Course config plan scheduled es pt) :
    Activates plan (Event.exchanges es) := by
  induction h with
  | @opens before c r xs pt hsilent _ _ hworks hopens =>
    have hxs : Activates plan xs := .of_about hopens.about (by decide)
    simpa [hsilent] using hxs
  | step _ hstep ih =>
    rw [Event.exchanges_append]
    exact ih.append hstep.activates_target

/-! ## Records -/

/-- A record leaves a slot of the host alone. -/
structure LeavesAlone (slots : HostSlots) (slot : Slot) (plan : InstallPlan)
    (xs : List (Exchange α)) : Prop where
  /-- No device of the slot is mounted, nor made read-only for this. -/
  unmounted : ∀ x ∈ xs, ∀ device, x.request.device? = some device →
    ¬slots.NamesDevice slot device
  /-- The slot is not made the active one. -/
  inactive : ∀ x ∈ xs, x.request ≠ .setActive slot
  /-- No slot is, unless the plan says that slots are switched. -/
  unswitched : plan.switchSlot = false → ∀ x ∈ xs, ∀ other, x.request ≠ .setActive other

/-- What is on the map leaves the booted slot alone if the plan spares it. -/
theorem Charted.leavesAlone {slots : HostSlots} {files : FileTree} {r : Runner}
    (h : Charted config (some plan) es r) (hspares : plan.SparesCurrent slots files) :
    LeavesAlone slots slots.config.currentSlot plan (Event.exchanges es) := by
  cases h with
  | begun harrives =>
    obtain ⟨pt, hcourse, -⟩ := harrives
    have hother : plan.targetSlot ≠ slots.config.currentSlot := hspares.source ▸ hspares.other
    constructor
    case unmounted =>
      intro x hx device hdevice hnames
      obtain ⟨p, hp, rfl⟩ := hcourse.device_visited hx hdevice
      obtain ⟨d, hd, -, hreadonly⟩ := hspares.resolved p hp
      -- The device of the partition is one of the target, so it is none of the booted slot.
      have htarget : slots.NamesDevice plan.targetSlot p.readonlyTarget :=
        hreadonly ▸ HostSlots.namesDevice_of_device hd
      exact hother (htarget.slot_unique hnames)
    case inactive =>
      intro x hx hslot
      exact hother (hcourse.activates_target x hx _ hslot).2.symm
    case unswitched =>
      intro hswitch x hx other hslot
      rw [(hcourse.activates_target x hx other hslot).1] at hswitch
      cases hswitch

variable [ProgressNumber α]

/-- **No plan is for the running slot**: a plan that the command builds, for the program of one
partition or for an update, on a host whose configuration was read, is for another slot that the
host has, and its partitions have the devices of that slot. An update is for the next slot, in a
circle, and the program of one partition switches no slots. A runner that carries the plan out
mounts no device of the running slot and does not make it the active one, on every platform and for
all calls, before it is given up and when it is. -/
theorem running_slot_spared {path : Path} {text : String} {config : Config}
    {o : Command.PostinstallOptions} {files : FileTree} {plan : InstallPlan}
    (hconfig : Config.parse path text = .ok config)
    (hplan : (Command.buildPlan o (Host.ofConfig config.device files).slots files).result =
      .ok plan) :
    plan.SparesCurrent (.ofConfig config.device) files ∧
    (o.partition = none → plan.targetSlot.toNat =
      (config.device.currentSlot.toNat + 1) % config.device.numSlots.toNat) ∧
    (o.partition.isSome = true → plan.switchSlot = false) ∧
    ∀ (settings : PostinstallConfig) (p : Platform α σ) (s : σ) (cs : List RunnerCall),
      RunnerCall.firstPlan cs = some plan →
        LeavesAlone (.ofConfig config.device) config.device.currentSlot plan
            (afterCalls settings cs p s).exchanges ∧
          LeavesAlone (.ofConfig config.device) config.device.currentSlot plan
            (afterLifetime settings cs p s).exchanges := by
  have hcurrent := Config.currentSlot_lt_of_parse hconfig
  obtain ⟨hspares, hnext, hswitch⟩ := Command.buildPlan_eq_ok hcurrent hplan
  refine ⟨hspares, fun hnone => ?_, hswitch, ?_⟩
  · rw [hnext hnone]
    exact Command.toNat_slotAfter hcurrent
  · intro settings p s cs hcs
    have hcalls := afterCalls_charted settings cs p s
    have hlifetime := lifetime_charted settings cs p s
    rw [hcs] at hcalls hlifetime
    have hleaves := hcalls.leavesAlone hspares
    have hleaves' := hlifetime.leavesAlone hspares
    rw [record_exchanges] at hleaves
    rw [lifetimeRecord_exchanges] at hleaves'
    exact ⟨hleaves, hleaves'⟩

/-! ### The last of three slots is booted -/

/-- A configuration with three slots, of which the last one is booted. -/
def lastSlotText : String := "[device]\nnum_slots = 3\ncurrent_slot = 2\ndevice_dir = \"by-name\"\n"

/-- What is read from it. -/
def lastSlotConfig : Config :=
  { Config.default with
    device := { DeviceConfig.default with
      numSlots := 3
      currentSlot := 2
      deviceDir := ⟨"by-name"⟩ } }

/-- The sample payload, the key that it is signed with, and the devices of its partition in all
three slots. -/
def sampleFiles : FileTree :=
  { FileTree.empty with
    entries := [(["key"], .file Payload.sampleKeyFile),
      (["payload"], .file (Payload.sampleSigned ++ Payload.sampleContainer)),
      (["by-name"], .directory), (["by-name", "systäm_a"], .device),
      (["by-name", "systäm_b"], .device), (["by-name", "systäm_c"], .device)] }

/-- The options for an update with the sample payload. -/
def sampleOptions : Command.PostinstallOptions where
  payload := ⟨"payload"⟩
  keys := ⟨[], [⟨"key"⟩]⟩
  signature := none
  properties := none
  partition := none
  downloadUrl := none
  recoveryStatus := false
  skipVerification := false

/-- The plan of this update, for the first slot. -/
def samplePlan : InstallPlan :=
  { InstallPlan.empty with
    downloadUrl := "file://payload"
    sourceSlot := 2
    targetSlot := 0
    partitions := [⟨"systäm", ⟨"by-name/systäm_a"⟩, ⟨"by-name/systäm_a"⟩, 0, [], "", "", false,
      false⟩] }

/-- The update goes to the first slot, and carrying it out leaves the last one alone. -/
theorem last_slot_spared :
    Config.parse ⟨"config"⟩ lastSlotText = .ok lastSlotConfig ∧
    (Command.buildPlan sampleOptions (Host.ofConfig lastSlotConfig.device sampleFiles).slots
      sampleFiles).result = .ok samplePlan ∧
    samplePlan.SparesCurrent (.ofConfig lastSlotConfig.device) sampleFiles ∧
    LeavesAlone (.ofConfig lastSlotConfig.device) 2 samplePlan
      (afterLifetime .default [.perform samplePlan]
        (Memory.platform : Platform Float (Memory Float)) (.initial .empty)).exchanges := by
  have hconfig : Config.parse ⟨"config"⟩ lastSlotText = .ok lastSlotConfig := by
    apply eq_ok_of_toOption
    decide +kernel
  have hplan : (Command.buildPlan sampleOptions
      (Host.ofConfig lastSlotConfig.device sampleFiles).slots sampleFiles).result =
        .ok samplePlan := by
    apply eq_ok_of_toOption
    decide +kernel
  obtain ⟨hspares, -, -, hruns⟩ := running_slot_spared (α := Float) hconfig hplan
  obtain ⟨-, hlifetime⟩ := hruns .default Memory.platform (.initial .empty)
    [.perform samplePlan] rfl
  exact ⟨hconfig, hplan, hspares, hlifetime⟩

end Runner

end SlotUpdate
