import SlotUpdate.Proofs.Command.Acceptance
import SlotUpdate.Proofs.Plan.Target

/-!
# The slots of an update and of a triggered run

An update writes the slot after the booted one, in a circle; the program of one partition, run
outside of an update, is run in the second slot if the first one is booted, and in the first slot
otherwise. Both are the same slot exactly if the booted slot is the first or the last one
(`Command.slotAfter_eq_triggeredSlot_iff`), as always with two slots.

`Command.slots_compared` says this of any two plans for the same payload. Where the slots are the
same, the triggered run mounts what the update wrote; with more than two slots and one in the middle
booted, it mounts a device that the update did not write (`Command.middle_slot_missed`).
-/

namespace SlotUpdate

open InstallPlan (triggeredSlot)

/-! ## Slots -/

/-- The booted slot is the first or the last one. -/
def DeviceConfig.BootsAtEnd (config : DeviceConfig) : Prop :=
  config.currentSlot = 0 ∨ config.currentSlot.toNat + 1 = config.numSlots.toNat

namespace Command

variable {current : Slot} {numSlots : UInt32}

/-- The slot after the booted one is the one for triggered runs at both ends, and only there. -/
theorem slotAfter_eq_triggeredSlot_iff (h : current < numSlots) (htwo : ¬numSlots < 2) :
    slotAfter current numSlots = triggeredSlot current ↔
      current = 0 ∨ current.toNat + 1 = numSlots.toNat := by
  have hlt : current.toNat < numSlots.toNat := h
  have htwo' : 2 ≤ numSlots.toNat := UInt32.not_lt.1 htwo
  rw [← UInt32.toNat_inj, toNat_slotAfter h]
  by_cases hzero : current = 0
  · have hnext : (current.toNat + 1) % numSlots.toNat = 1 := by
      rw [hzero]
      exact Nat.mod_eq_of_lt htwo'
    rw [hnext, triggeredSlot, if_pos hzero]
    exact iff_of_true rfl (.inl hzero)
  · rw [triggeredSlot, if_neg hzero, or_iff_right hzero]
    constructor
    · intro hfirst
      by_contra hlast
      have hinside : current.toNat + 1 < numSlots.toNat := by omega
      rw [Nat.mod_eq_of_lt hinside] at hfirst
      cases hfirst
    · intro hlast
      rw [hlast, Nat.mod_self]
      rfl

/-- The slots are apart where a slot in the middle is booted: the next one and the first one. -/
theorem slotAfter_of_middle (h : current < numSlots)
    (hmiddle : ¬(current = 0 ∨ current.toNat + 1 = numSlots.toNat)) :
    (slotAfter current numSlots).toNat = current.toNat + 1 ∧ triggeredSlot current = 0 := by
  have hlt : current.toNat < numSlots.toNat := h
  obtain ⟨hzero, hlast⟩ := not_or.1 hmiddle
  rw [toNat_slotAfter h, triggeredSlot, if_neg hzero]
  exact ⟨Nat.mod_eq_of_lt (by omega), rfl⟩

end Command

/-! ## Plans -/

/-- An update and the run of the program of one partition, planned on the same host. -/
structure SlotsCompared (slots : HostSlots) (name : String) (full triggered : InstallPlan) :
    Prop where
  /-- The source of the update is the booted slot. -/
  full_source : full.sourceSlot = slots.config.currentSlot
  /-- So is that of the triggered run. -/
  triggered_source : triggered.sourceSlot = slots.config.currentSlot
  /-- The targets are the same exactly if the booted slot is the first or the last one. -/
  same_iff : triggered.targetSlot = full.targetSlot ↔ slots.config.BootsAtEnd
  /-- Then the triggered run is for a partition that the update wrote. -/
  same : slots.config.BootsAtEnd →
    ∃ p ∈ full.partitions, p.name = name ∧ triggered.partitions = [p]
  /-- Otherwise it is for the first slot, the update for the next one, and what the triggered run
  mounts is nothing that the update wrote. -/
  apart : ¬slots.config.BootsAtEnd → triggered.targetSlot = 0 ∧
    full.targetSlot.toNat = slots.config.currentSlot.toNat + 1 ∧
    ∀ p ∈ full.partitions, ∀ q ∈ triggered.partitions, q.readonlyTarget.same p.target = false

variable {slots : HostSlots} {files : FileTree}

/-- The devices of partitions in two slots are different. -/
theorem Partition.ResolvedIn.same_eq_false {slot slot' : Slot} {p q : Partition}
    (hp : p.ResolvedIn slots files slot) (hq : q.ResolvedIn slots files slot') (hne : slot' ≠ slot) :
    q.readonlyTarget.same p.target = false := by
  obtain ⟨d, hd, htarget, -⟩ := hp
  obtain ⟨d', hd', -, hreadonly⟩ := hq
  rw [htarget, hreadonly, Bool.eq_false_iff]
  intro hsame
  exact hne ((HostSlots.namesDevice_of_device hd').slot_unique ⟨files, p.name, d, hd, .inr hsame⟩)

namespace Command

variable {i i' : MetadataInputs} {start start' : InstallPlan} {header header' : Payload.Header}
  {manifest manifest' : Manifest}

/-- A payload has one manifest, by whatever keys and properties it is accepted. -/
theorem Accepts.manifest_eq (h : Accepts files i start header manifest)
    (h' : Accepts files i' start' header' manifest') (hpayload : i'.payload = i.payload) :
    manifest' = manifest := by
  obtain ⟨bytes, data, v, hread, hmetadata, -, hverifies⟩ := h.verifies
  obtain ⟨bytes', data', v', hread', hmetadata', -, hverifies'⟩ := h'.verifies
  rw [hpayload] at hread'
  obtain rfl := Except.ok.inj (hread.symm.trans hread')
  obtain ⟨rfl, rfl⟩ := Prod.mk.inj (Except.ok.inj (hmetadata.symm.trans hmetadata'))
  obtain ⟨-, -, -, hdecode⟩ := Payload.verifyAndParse_eq_ok_iff.1 hverifies
  obtain ⟨-, -, -, hdecode'⟩ := Payload.verifyAndParse_eq_ok_iff.1 hverifies'
  exact Except.ok.inj (hdecode'.symm.trans hdecode)

/-- Plans of both kinds for one manifest compare as the slots do. -/
theorem slotsCompared_of_manifest (hcurrent : slots.config.currentSlot < slots.config.numSlots)
    {o : PostinstallOptions} {name url : String} {full triggered : InstallPlan}
    (hfull : (updatePlan start slots files manifest o).result = .ok full)
    (htriggered : (triggeredPlan slots files manifest name url).result = .ok triggered) :
    SlotsCompared slots name full triggered := by
  obtain ⟨htwo, hsource, htarget, hmade⟩ := updatePlan_made hfull
  obtain ⟨u, d, ⟨before, after, hupdates, hname, -⟩, -, hdevice, rfl⟩ :=
    triggeredPlan_made htriggered
  have hiff := slotAfter_eq_triggeredSlot_iff hcurrent htwo
  constructor
  case full_source => exact hsource
  case triggered_source => rfl
  case same_iff =>
    rw [htarget]
    exact eq_comm.trans hiff
  case same =>
    intro hend
    have hmem : u ∈ manifest.partitions := by
      rw [hupdates]
      exact List.mem_append_right before List.mem_cons_self
    obtain ⟨d', hdevice', hp⟩ := hmade.exists_of_mem hmem
    rw [htarget, hiff.2 hend, hname, hdevice] at hdevice'
    cases hdevice'
    exact ⟨_, hp, hname, rfl⟩
  case apart =>
    intro hmiddle
    obtain ⟨hnext, hfirst⟩ := slotAfter_of_middle hcurrent hmiddle
    refine ⟨hfirst, by rw [htarget, hnext], fun p hp => List.forall_mem_singleton.2 ?_⟩
    have hq : (InstallPlan.partitionOf u d).ResolvedIn slots files
        (triggeredSlot slots.config.currentSlot) := by
      rw [← hname] at hdevice
      exact ⟨d, hdevice, rfl, rfl⟩
    refine (hmade.resolved p hp).same_eq_false hq fun heq => hmiddle (hiff.1 ?_)
    rw [heq, htarget]

/-- The plans of an update and of a triggered run, made of the same payload on a host whose
configuration was read, have the same source; they have the same target exactly if the booted slot
is the first or the last one. -/
theorem slots_compared {path : Path} {text : String} {config : Config}
    (hconfig : Config.parse path text = .ok config) {o o' : PostinstallOptions} {name : String}
    (hpayload : o'.payload = o.payload) (ho : o.partition = none)
    (ho' : o'.partition = some name) {full triggered : InstallPlan}
    (hfull : (buildPlan o (.ofConfig config.device) files).result = .ok full)
    (htriggered : (buildPlan o' (.ofConfig config.device) files).result = .ok triggered) :
    SlotsCompared (.ofConfig config.device) name full triggered := by
  obtain ⟨start, header, manifest, haccepts, hplan⟩ := buildPlan_eq_ok_iff.1 hfull
  obtain ⟨start', header', manifest', haccepts', hplan'⟩ := buildPlan_eq_ok_iff.1 htriggered
  obtain rfl := haccepts.manifest_eq haccepts' hpayload
  simp only [planOf, ho] at hplan
  simp only [planOf, ho'] at hplan'
  exact slotsCompared_of_manifest (Config.currentSlot_lt_of_parse hconfig) hplan hplan'

/-! ### Three slots -/

/-- A payload with one partition that has a program, signed with the sample key. -/
def programPayload : Bytes :=
  [0x43, 0x72, 0x41, 0x55, 0x00, 0x00, 0x00, 0x00, 0x00, 0x00, 0x00, 0x02, 0x00, 0x00, 0x00, 0x00,
   0x00, 0x00, 0x00, 0x0f, 0x00, 0x00, 0x00, 0x47, 0x6a, 0x0d, 0x0a, 0x06, 0x73, 0x79, 0x73, 0x74,
   0x65, 0x6d, 0x10, 0x01, 0x1a, 0x01, 0x70,
   0x0a, 0x45, 0x12, 0x3e, 0x80, 0x70, 0x98, 0x82, 0xd0, 0x01, 0x78, 0xbd, 0xb7, 0x8d, 0x3f, 0xba,
   0x09, 0xb8, 0x8f, 0x8b, 0xf4, 0x26, 0xd6, 0x90, 0xc6, 0x35, 0x76, 0x05, 0x67, 0x8d, 0x0d, 0x4d,
   0x2f, 0xcd, 0x1e, 0xbb, 0x9d, 0xe3, 0x73, 0xd5, 0x0f, 0x00, 0xbb, 0xbd, 0x74, 0x25, 0x79, 0x75,
   0x0c, 0x78, 0xc6, 0xac, 0x5a, 0x2d, 0xb0, 0x47, 0xe7, 0x59, 0x20, 0xe8, 0xdc, 0xab, 0x05, 0x1d,
   0x04, 0x13, 0x1d, 0x3e, 0x00, 0x00, 0x00]

/-- The manifest of this payload. -/
def programManifest : Manifest :=
  { Manifest.kind.empty with
    partitions := [
      { PartitionUpdate.kind.empty with
        partitionName := "system"
        runPostinstall := some true
        postinstallPath := some "p" }] }

/-- The payload, its key, and the devices of its partition in three slots. -/
def programFiles : FileTree :=
  { FileTree.empty with
    entries := [(["key"], .file Payload.sampleKeyFile), (["payload"], .file programPayload),
      (["dev"], .directory), (["dev", "system_a"], .device), (["dev", "system_b"], .device),
      (["dev", "system_c"], .device)] }

/-- The options to update with the payload, or to run the program of a partition. -/
def programOptions (partition : Option String) : PostinstallOptions :=
  ⟨⟨"payload"⟩, ⟨[], [⟨"key"⟩]⟩, none, none, partition, none, false, false⟩

/-- Configurations with three slots, of which the last one or the one in the middle is booted. -/
def threeSlotsText (booted : String) : String :=
  "[device]\nnum_slots = 3\ndevice_dir = \"dev\"\ncurrent_slot = " ++ booted

/-- What is read from them. -/
def threeSlots (booted : Slot) : Config :=
  { Config.default with
    device := { DeviceConfig.default with
      numSlots := 3
      currentSlot := booted
      deviceDir := ⟨"dev"⟩ } }

/-- The partition on its device in a slot of a letter. -/
def programPartition (letter : String) : Partition :=
  ⟨"system", ⟨"dev/system_" ++ letter⟩, ⟨"dev/system_" ++ letter⟩, 0, [], "", "p", true, false⟩

/-- The update, for a slot of a letter. -/
def programUpdate (booted target : Slot) (letter : String) : InstallPlan :=
  { InstallPlan.empty with
    downloadUrl := "file://payload"
    sourceSlot := booted
    targetSlot := target
    partitions := [programPartition letter] }

/-- The triggered run, in the first slot. -/
def programRun (booted : Slot) : InstallPlan :=
  { InstallPlan.empty with
    downloadUrl := "manifest-bytes:file://payload"
    sourceSlot := booted
    targetSlot := 0
    switchSlot := false
    partitions := [programPartition "a"] }

/-- The payload is accepted by whoever trusts its key. -/
theorem accepts_program (partition : Option String) :
    Accepts programFiles (programOptions partition).inputs .empty ⟨2, 15, 71⟩ programManifest := by
  have hread : programFiles.read ⟨"payload"⟩ = .ok programPayload := rfl
  have hmetadata : Payload.readMetadata programPayload programPayload.length =
      .ok (⟨2, 15, 71⟩, programPayload) := by
    apply eq_ok_of_toOption
    decide +kernel
  have hverifies : Payload.verifyAndParse ⟨2, 15, 71⟩ programPayload "" none
      Payload.sampleVerifier = .ok programManifest := by
    apply eq_ok_of_toOption
    decide +kernel
  exact ⟨rfl, _, _, _, hread, hmetadata, trusts_sample rfl, hverifies⟩

/-- A plan is made of the payload as of its manifest. -/
theorem buildPlan_program {partition : Option String} {slots : HostSlots} {plan : InstallPlan}
    (h : (planOf (programOptions partition) slots programFiles .empty programManifest).result =
      .ok plan) :
    (buildPlan (programOptions partition) slots programFiles).result = .ok plan :=
  buildPlan_eq_ok_iff.2 ⟨_, _, _, accepts_program partition, h⟩

/-- With the last of three slots booted, both are for the first one. -/
theorem last_slot_compared :
    Config.parse ⟨"config"⟩ (threeSlotsText "2") = .ok (threeSlots 2) ∧
    (buildPlan (programOptions none) (.ofConfig (threeSlots 2).device) programFiles).result =
      .ok (programUpdate 2 0 "a") ∧
    (buildPlan (programOptions (some "system")) (.ofConfig (threeSlots 2).device)
      programFiles).result = .ok (programRun 2) ∧
    SlotsCompared (.ofConfig (threeSlots 2).device) "system" (programUpdate 2 0 "a")
      (programRun 2) := by
  have hconfig : Config.parse ⟨"config"⟩ (threeSlotsText "2") = .ok (threeSlots 2) := by
    apply eq_ok_of_toOption
    decide +kernel
  have hfull : (buildPlan (programOptions none) (.ofConfig (threeSlots 2).device)
      programFiles).result = .ok (programUpdate 2 0 "a") := by
    apply buildPlan_program
    apply eq_ok_of_toOption
    decide +kernel
  have htriggered : (buildPlan (programOptions (some "system")) (.ofConfig (threeSlots 2).device)
      programFiles).result = .ok (programRun 2) := by
    apply buildPlan_program
    apply eq_ok_of_toOption
    decide +kernel
  have hpayload : (programOptions (some "system")).payload = (programOptions none).payload := rfl
  exact ⟨hconfig, hfull, htriggered, slots_compared hconfig hpayload rfl rfl hfull htriggered⟩

/-- With the middle one of three slots booted, the update is for the last one, and the triggered run
for the first one. -/
theorem middle_slot_missed :
    Config.parse ⟨"config"⟩ (threeSlotsText "1") = .ok (threeSlots 1) ∧
    (buildPlan (programOptions none) (.ofConfig (threeSlots 1).device) programFiles).result =
      .ok (programUpdate 1 2 "c") ∧
    (buildPlan (programOptions (some "system")) (.ofConfig (threeSlots 1).device)
      programFiles).result = .ok (programRun 1) ∧
    (programRun 1).targetSlot ≠ (programUpdate 1 2 "c").targetSlot := by
  refine ⟨?_, buildPlan_program ?_, buildPlan_program ?_, by decide⟩ <;>
    apply eq_ok_of_toOption <;> decide +kernel

end Command

end SlotUpdate
