import SlotUpdate.Proofs.Postinstall.RunningSlot
import SlotUpdate.Proofs.Verify.Intact

/-!
# The directory of the devices

A host looks for the device of a partition under the name of the partition with the letter of the
slot, from the directory of the devices on (`HostSlots.device_eq_ok_iff`). That is an entry of the
directory exactly if there is no slash in the name (`Path.isEntryOf_join_iff`): a name that begins
with a slash replaces the directory, and one that begins with two dots leaves it.

What is verified and mounted are the devices of the partitions of a plan
(`mem_opened_verifyPartitions`, `Runner.Course.device_visited`). So with names without slashes
nothing outside of the directory is touched (`InstallPlan.keepsTo_of_resolved`).
-/

namespace SlotUpdate

/-! ## Names of devices -/

/-- The name of the file that is the device of a partition in a slot. -/
def Slot.deviceName (slot : Slot) (partition : String) : String :=
  partition ++ ("_" ++ String.singleton slot.letter)

/-- A path is the entry of this name in a directory. -/
def Path.IsEntryOf (p dir : Path) (name : String) : Prop :=
  p.components = dir.components ++ [.normal name]

section Names

variable {slot : Slot} {partition : String}

/-- The characters of the name of a device. -/
theorem Slot.toList_deviceName (slot : Slot) (partition : String) :
    (slot.deviceName partition).toList = partition.toList ++ ['_'] ++ [slot.letter] := by
  simp [deviceName]

/-- There is a slash in the name of a device exactly if there is one in the name of the
partition. -/
theorem Slot.slash_mem_deviceName (h : slot < 26) :
    '/' ∈ (slot.deviceName partition).toList ↔ '/' ∈ partition.toList := by
  have hletter := (Slot.letter_ne h).1.symm
  rw [Slot.toList_deviceName]
  simp [hletter]

/-- Without a slash the name of a device is the name of an entry. -/
theorem Slot.isName_deviceName (h : slot < 26) (hslash : '/' ∉ partition.toList) :
    Path.IsName (slot.deviceName partition) := by
  -- The name ends in a letter, and a directory's names for itself and its parent end in a dot.
  have hlast : (slot.deviceName partition).toList.getLast? = some slot.letter := by
    rw [Slot.toList_deviceName, List.getLast?_concat]
  have hne : ∀ s : String, s.toList.getLast? ≠ some slot.letter →
      slot.deviceName partition ≠ s := by
    rintro s hs rfl
    exact hs hlast
  have hdot := (Slot.letter_ne h).2
  refine ⟨hne "" nofun, hne "." ?_, hne ".." ?_, ?_⟩
  · exact fun heq => hdot (Option.some.inj heq).symm
  · exact fun heq => hdot (Option.some.inj heq).symm
  · rwa [Slot.slash_mem_deviceName h]

/-- A name is the name of an entry of a directory exactly if there is no slash in it. -/
theorem Path.isEntryOf_join_iff (dir : Path) (h : slot < 26) :
    (dir.join ⟨slot.deviceName partition⟩).IsEntryOf dir (slot.deviceName partition) ↔
      '/' ∉ partition.toList := by
  constructor
  · intro hentry
    have hmem : .normal (slot.deviceName partition) ∈
        (dir.join ⟨slot.deviceName partition⟩).components := by
      rw [hentry]
      exact List.mem_append_right _ (List.mem_singleton_self _)
    rw [← Slot.slash_mem_deviceName h]
    exact (isName_of_mem_components hmem).single
  · intro hslash
    have hnames : ∀ name ∈ [slot.deviceName partition], IsName name := by
      rw [List.forall_mem_singleton]
      exact Slot.isName_deviceName h hslash
    have hjoin := components_join_names dir hnames
    rwa [String.intercalate_singleton] at hjoin

end Names

/-! ## Devices of a host -/

namespace HostSlots

variable {h : HostSlots} {files : FileTree} {name : String} {slot : Slot} {d : PartitionDevice}

/-- Where a host looks for the device of a partition. -/
def devicePath (h : HostSlots) (name : String) (slot : Slot) : Path :=
  h.config.deviceDir.join ⟨slot.deviceName name⟩

/-- A partition has a device in a slot exactly if the host has the slot, the slot has a letter, and
there is something where the device is looked for. That is the device for reading and writing. -/
theorem device_eq_ok_iff : h.device files name slot = .ok d ↔
    slot < h.config.numSlots ∧ slot < 26 ∧ files.hasPath (h.devicePath name slot) = true ∧
      d = ⟨h.devicePath name slot, h.devicePath name slot, false⟩ := by
  -- The suffix of a slot that has a letter is the end of the name of the device.
  unfold device has Slot.nameSuffix
  by_cases hhas : slot < h.config.numSlots
  case neg => simp [hhas]
  by_cases hletter : slot < 26
  case neg => simp [hhas, hletter]
  have hpath : h.config.deviceDir.join
      ⟨name ++ ("_" ++ String.singleton (Char.ofNat (97 + slot.toNat)))⟩ =
        h.devicePath name slot := rfl
  simp only [hhas, hletter, decide_true, if_true, hpath, true_and]
  by_cases hfound : files.hasPath (h.devicePath name slot) = true
  · rw [if_pos hfound, Except.ok.injEq, and_iff_right hfound, eq_comm]
  · rw [if_neg hfound]
    exact iff_of_false nofun fun hd => hfound hd.1

/-- What is known of the device of a partition in a slot. -/
structure Resolves (h : HostSlots) (name : String) (slot : Slot) (d : PartitionDevice) : Prop where
  /-- There is one path, for reading and for writing. -/
  same : d.readonly = d.writable
  /-- It is an entry of the directory of the devices, under the name of the partition and the letter
  of the slot, exactly if there is no slash in the name. -/
  entry_iff : d.writable.IsEntryOf h.config.deviceDir (slot.deviceName name) ↔ '/' ∉ name.toList
  /-- A name that begins with a slash replaces the directory. -/
  replaces : name.toList.head? = some '/' → d.writable = ⟨slot.deviceName name⟩
  /-- The parts of any other name follow those of the directory, two dots among them as well. -/
  follows : name.toList.head? ≠ some '/' →
    d.writable.parts = h.config.deviceDir.parts ++ (Path.mk (slot.deviceName name)).parts

/-- Whether the name of a device begins with a slash is seen from the name of the partition. -/
theorem isAbsolute_deviceName (slot : Slot) (name : String) :
    (Path.mk (slot.deviceName name)).isAbsolute = true ↔ name.toList.head? = some '/' := by
  unfold Path.isAbsolute
  rw [beq_iff_eq, Slot.toList_deviceName]
  cases name.toList with
  | nil => simp
  | cons c cs => simp

/-- Every device that is found is resolved in this way. -/
theorem resolves_of_device (hd : h.device files name slot = .ok d) : h.Resolves name slot d := by
  obtain ⟨-, hletter, -, rfl⟩ := device_eq_ok_iff.mp hd
  constructor
  case same => rfl
  case entry_iff => exact Path.isEntryOf_join_iff h.config.deviceDir hletter
  case replaces =>
    intro hslash
    exact if_pos ((isAbsolute_deviceName slot name).mpr hslash)
  case follows =>
    intro hslash
    apply Path.parts_join
    rw [← Bool.not_eq_true, isAbsolute_deviceName]
    exact hslash

end HostSlots

/-! ## What is verified and mounted -/

section Verified

variable {α : Type} [ProgressNumber α] {openDevice : Path → Except SystemError Source}
  {path : Path}

/-- Only devices of partitions are opened. -/
theorem mem_opened_verifyFrom (a : Aggregator) {ps : List Partition}
    (h : path ∈ (verifyFrom openDevice a ps : Verification α).opened) :
    ∃ p ∈ ps, path = p.target := by
  induction ps generalizing a with
  | nil => cases h
  | cons p ps ih =>
    have hlater : path ∈ (verifyFrom openDevice a.advance ps : Verification α).opened →
        ∃ q ∈ p :: ps, path = q.target := fun hrest =>
      (ih a.advance hrest).imp fun q hq => ⟨List.mem_cons_of_mem p hq.1, hq.2⟩
    by_cases hsize : p.size = 0
    · rw [(verifyFrom_cons_of_empty (α := α) openDevice a hsize ps).2] at h
      exact hlater h
    · obtain ⟨hgoesOn, hends⟩ := verifyFrom_cons (α := α) openDevice a hsize ps
      cases hresult : (p.verify (openDevice p.target) : Verification α).result with
      | error e =>
        rw [(hends e hresult).2] at h
        exact ⟨p, List.mem_cons_self, List.mem_singleton.mp h⟩
      | ok =>
        rw [(hgoesOn hresult).2] at h
        rcases List.mem_cons.mp h with rfl | hrest
        · exact ⟨p, List.mem_cons_self, rfl⟩
        · exact hlater hrest

/-- A verification opens no other devices than those of the partitions. -/
theorem mem_opened_verifyPartitions {ps : List Partition}
    (h : path ∈ (verifyPartitions openDevice ps : Verification α).opened) :
    ∃ p ∈ ps, path = p.target := by
  by_cases hnil : ps = []
  · subst hnil
    cases h
  rcases Nat.lt_or_ge (bytesOf ps) (2 ^ 64) with hfits | hoverflow
  · rw [(verifyPartitions_of_fits (α := α) openDevice hnil hfits).2.1] at h
    exact mem_opened_verifyFrom _ h
  · rw [verifyPartitions_of_overflow openDevice hoverflow] at h
    cases h

end Verified

namespace InstallPlan

variable {h : HostSlots} {files : FileTree} {plan : InstallPlan}

/-- Nothing that is verified, mounted or made read-only for a plan is outside of a directory: it is
the entry for a partition of the plan. -/
structure KeepsTo (α : Type) [ProgressNumber α] (plan : InstallPlan) (dir : Path) : Prop where
  /-- Both devices of every partition are entries. -/
  targets : ∀ p ∈ plan.partitions,
    p.target.IsEntryOf dir (plan.targetSlot.deviceName p.name) ∧
      p.readonlyTarget.IsEntryOf dir (plan.targetSlot.deviceName p.name)
  /-- So is what a verification opens. -/
  verified : ∀ openDevice : Path → Except SystemError Source,
    ∀ path ∈ (verifyPartitions openDevice plan.partitions : Verification α).opened,
      ∃ p ∈ plan.partitions, path.IsEntryOf dir (plan.targetSlot.deviceName p.name)
  /-- And what a runner mounts or makes read-only, on every platform and for all calls. -/
  mounted : ∀ (σ : Type) (settings : PostinstallConfig) (platform : Platform α σ) (s : σ)
    (cs : List RunnerCall), RunnerCall.firstPlan cs = some plan →
      ∀ x ∈ (Runner.afterLifetime settings cs platform s).exchanges, ∀ path,
        x.request.device? = some path →
          ∃ p ∈ plan.partitions, path.IsEntryOf dir (plan.targetSlot.deviceName p.name)

/-- A plan whose partitions have their devices on a host, and names without slashes, keeps to the
directory of the devices. -/
theorem keepsTo_of_resolved (α : Type) [ProgressNumber α]
    (hresolved : ∀ p ∈ plan.partitions, p.ResolvedIn h files plan.targetSlot)
    (hplain : ∀ p ∈ plan.partitions, '/' ∉ p.name.toList) :
    plan.KeepsTo α h.config.deviceDir := by
  have htargets : ∀ p ∈ plan.partitions,
      p.target.IsEntryOf h.config.deviceDir (plan.targetSlot.deviceName p.name) ∧
        p.readonlyTarget.IsEntryOf h.config.deviceDir (plan.targetSlot.deviceName p.name) := by
    intro p hp
    obtain ⟨d, hd, htarget, hreadonly⟩ := hresolved p hp
    have hresolves := HostSlots.resolves_of_device hd
    rw [htarget, hreadonly, hresolves.same, and_self, hresolves.entry_iff]
    exact hplain p hp
  constructor
  case targets => exact htargets
  case verified =>
    intro openDevice path hpath
    obtain ⟨p, hp, rfl⟩ := mem_opened_verifyPartitions hpath
    exact ⟨p, hp, (htargets p hp).1⟩
  case mounted =>
    intro σ settings platform s cs hcs x hx path hpath
    have hcharted := Runner.lifetime_charted settings cs platform s
    rw [hcs] at hcharted
    rw [← Runner.lifetimeRecord_exchanges] at hx
    cases hcharted with
    | begun harrives =>
      obtain ⟨pt, hcourse, -⟩ := harrives
      obtain ⟨p, hp, rfl⟩ := hcourse.device_visited hx hpath
      exact ⟨p, hp, (htargets p hp).2⟩

end InstallPlan

/-! ## Main results -/

/-- The devices of a host are where their names say, and names without slashes keep everything that
a manifest has verified or mounted in the directory of the devices. -/
theorem devices_of_plain_names (α : Type) [ProgressNumber α] :
    (∀ (h : HostSlots) files name slot d, h.device files name slot = .ok d →
      h.Resolves name slot d) ∧
    (∀ (h : HostSlots) files (start plan : InstallPlan) blockSize (updates : List PartitionUpdate),
      start.loadPartitions (Command.lookup h files) blockSize updates = Except.ok plan →
      (∀ u ∈ updates, '/' ∉ u.partitionName.toList) → plan.KeepsTo α h.config.deviceDir) ∧
    ∀ path text (config : Config) o files (plan : InstallPlan),
      Config.parse path text = .ok config →
      (Command.buildPlan o (.ofConfig config.device) files).result = .ok plan →
      (∀ p ∈ plan.partitions, '/' ∉ p.name.toList) →
        plan.KeepsTo α config.device.deviceDir := by
  refine ⟨fun h files name slot d => HostSlots.resolves_of_device, ?_, ?_⟩
  · intro h files start plan blockSize updates hload hplain
    obtain ⟨ps, rfl, hnames, hresolved⟩ := InstallPlan.loadPartitions_eq_ok hload
    refine InstallPlan.keepsTo_of_resolved α hresolved fun p hp => ?_
    have hmem : p.name ∈ updates.map (·.partitionName) := hnames ▸ List.mem_map_of_mem hp
    obtain ⟨u, hu, hname⟩ := List.mem_map.mp hmem
    exact hname ▸ hplain u hu
  · intro path text config o files plan hconfig hplan hplain
    have hcurrent := Config.currentSlot_lt_of_parse hconfig
    obtain ⟨hspares, -⟩ := Command.buildPlan_eq_ok hcurrent hplan
    exact InstallPlan.keepsTo_of_resolved α hspares.resolved hplain

/-! ### Names with slashes -/

/-- A host with its devices in a directory below the working directory. -/
def localSlots : HostSlots := .ofConfig { DeviceConfig.default with deviceDir := ⟨"dev"⟩ }

/-- A device in the directory, a file next to it, and a device of the system. -/
def mixedFiles : FileTree where
  entries := [(["dev"], .directory), (["dev", "system_b"], .device), (["secret_b"], .device)]
  rooted := FileTree.systemEntries ++ [(["dev", "sda_b"], .device)]

/-- A path with as many components as these has is no entry of the directory. -/
theorem not_isEntryOf_localSlots {p : Path} (h : p.components.length ≠ 2) (name : String) :
    ¬p.IsEntryOf localSlots.config.deviceDir name := by
  intro hentry
  apply h
  rw [hentry, List.length_append]
  rfl

/-- What a manifest may say of a partition. -/
def leavingUpdate : PartitionUpdate :=
  { PartitionUpdate.kind.empty with partitionName := "../secret" }

/-- A plan for that partition. -/
def leavingPlan : InstallPlan :=
  { InstallPlan.empty with
    targetSlot := 1
    partitions := [⟨"../secret", ⟨"dev/../secret_b"⟩, ⟨"dev/../secret_b"⟩, 0, [], "", "", false,
      false⟩] }

/-- The device of a name that leads out of the directory is not in it, nor is that of a name that
replaces it. A manifest with such a name is loaded. -/
theorem names_with_slashes_leave :
    localSlots.device mixedFiles "../secret" 1 =
      .ok ⟨⟨"dev/../secret_b"⟩, ⟨"dev/../secret_b"⟩, false⟩ ∧
    (∀ name, ¬Path.IsEntryOf ⟨"dev/../secret_b"⟩ localSlots.config.deviceDir name) ∧
    localSlots.device mixedFiles "/dev/sda" 1 = .ok ⟨⟨"/dev/sda_b"⟩, ⟨"/dev/sda_b"⟩, false⟩ ∧
    (∀ name, ¬Path.IsEntryOf ⟨"/dev/sda_b"⟩ localSlots.config.deviceDir name) ∧
    InstallPlan.loadPartitions { InstallPlan.empty with targetSlot := 1 }
      (Command.lookup localSlots mixedFiles) 4096 [leavingUpdate] = Except.ok leavingPlan := by
  refine ⟨?_, not_isEntryOf_localSlots (by decide +kernel), ?_,
    not_isEntryOf_localSlots (by decide +kernel), ?_⟩
  · decide +kernel
  · decide +kernel
  · apply eq_ok_of_toOption
    decide +kernel

end SlotUpdate
