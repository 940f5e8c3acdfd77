import SlotUpdate.Boot.Call
import SlotUpdate.Files
import SlotUpdate.Log

/-!
# Slots of a host

A platform outside of a real device, described by a few settings: the slots are kept in memory, a
partition's device is the file of its name and the slot's suffix in one directory, and a powerwash
is a file with a command for recovery.
-/

namespace SlotUpdate

/-- The settings of a host. -/
structure DeviceConfig where
  /-- How many slots there are. -/
  numSlots : UInt32
  /-- The slot that is booted. -/
  currentSlot : Slot
  /-- The directory of the devices. -/
  deviceDir : Path
  /-- Whether partitions that share space use snapshots. -/
  virtualAb : Bool
  /-- The file that asks for a powerwash. -/
  powerwashFile : Option Path
  /-- Extra options for mounting, by the name of the partition. -/
  mountOptions : List (String × String)
  deriving Repr, DecidableEq

/-- The settings that hold unless others are given. -/
def DeviceConfig.default : DeviceConfig :=
  ⟨2, 0, ⟨"/dev/block/by-name"⟩, false, none, []⟩

/-- What is known about a slot. -/
structure SlotState where
  /-- Whether it can be booted. -/
  bootable : Bool
  /-- Whether it was booted with success. -/
  successful : Bool
  deriving Repr, DecidableEq

/-- A slot at the start. -/
def SlotState.initial : SlotState := ⟨true, false⟩

/-- The slots of a host. -/
structure HostSlots where
  /-- The settings. -/
  config : DeviceConfig
  /-- The slot to boot next. -/
  active : Slot
  /-- What is known about each slot. -/
  states : Slot → SlotState

namespace HostSlots

/-- The slots of a host at the start. -/
def ofConfig (config : DeviceConfig) : HostSlots :=
  ⟨config, config.currentSlot, fun _ => .initial⟩

/-- Whether there is such a slot. -/
def has (h : HostSlots) (slot : Slot) : Bool :=
  slot < h.config.numSlots

/-- What is known about a slot that there is. -/
def state (h : HostSlots) (slot : Slot) : Except BootError SlotState :=
  if h.has slot then .ok (h.states slot) else .error (.invalidSlot slot)

/-- Change what is known about a slot that there is. -/
def update (h : HostSlots) (slot : Slot) (f : SlotState → SlotState) :
    Except BootError HostSlots :=
  if h.has slot then
    .ok { h with states := fun s => if s = slot then f (h.states s) else h.states s }
  else .error (.invalidSlot slot)

/-- The devices of a partition in a slot: the file of its name and the slot's suffix. -/
def device (h : HostSlots) (files : FileTree) (name : String) (slot : Slot) :
    Except BootError PartitionDevice :=
  if h.has slot then
    match slot.nameSuffix with
    | none => .error (.invalidSlot slot)
    | some suffix =>
      -- The name is taken as it stands, also if it holds slashes.
      let path := h.config.deviceDir.join ⟨name ++ suffix⟩
      if files.hasPath path then .ok ⟨path, path, false⟩
      else .error (.partitionNotFound name slot.name)
  else .error (.invalidSlot slot)

/-- Whether a slot can be booted. -/
def isBootable (h : HostSlots) (slot : Slot) : Except BootError Bool :=
  (h.state slot).map (·.bootable)

/-- Whether a slot was booted with success. -/
def isSuccessful (h : HostSlots) (slot : Slot) : Except BootError Bool :=
  (h.state slot).map (·.successful)

/-- Note that a slot cannot be booted. -/
def markUnbootable (h : HostSlots) (slot : Slot) : Except BootError HostSlots :=
  h.update slot fun _ => ⟨false, false⟩

/-- Boot a slot next. -/
def setActive (h : HostSlots) (slot : Slot) : Except BootError HostSlots := do
  return { ← h.update slot (fun s => { s with bootable := true }) with active := slot }

/-- Note that the current slot was booted with success. -/
def markSuccessful (h : HostSlots) : Except BootError HostSlots :=
  h.update h.config.currentSlot fun s => { s with successful := true }

/-! ### Messages -/

/-- The message before a slot is marked as one that cannot be booted. -/
def unbootableLog (slot : Slot) : List LogLine :=
  [.info s!"Marking slot {slot.name} as unbootable"]

/-- The messages after setting the active slot. -/
def setActiveLog (slot : Slot) : Except BootError HostSlots → List LogLine
  | .ok _ => [.info s!"Marked slot {slot.name} as active"]
  | .error _ => []

/-- The message of mapping the partitions, which are mapped already. -/
def mapLog : List LogLine := [.debug "Logical partitions are already mapped"]

/-- The message of committing an update of partitions that share space. -/
def finishLog (powerwash : Bool) : List LogLine :=
  [.debug s!"Finished dynamic partition update (powerwash: {powerwash})"]

/-- The message of choosing how to reboot. -/
def warmResetLog (on : Bool) : List LogLine :=
  [.debug s!"Warm reset on next reboot: {on}"]

/-- The message of setting the digest of the inactive slot. -/
def vbmetaLog (reset : Bool) : List LogLine :=
  if reset then [.warn "Clearing vbmeta digest for inactive slot"]
  else [.debug "Persisting vbmeta digest for inactive slot"]

end HostSlots

namespace DeviceConfig

/-- The command for recovery that asks for a powerwash. -/
def powerwashCommand : String := "--wipe_data\n--reason=wipe_data_from_ota\n"

/-- The options for mounting a partition. -/
def optionsFor (c : DeviceConfig) (partition : String) : String :=
  ((c.mountOptions.find? (·.1 == partition)).map (·.2)).getD ""

/-- Ask recovery for a powerwash. -/
def schedulePowerwash (c : DeviceConfig) (files : FileTree) :
    Logged (Except BootError Unit × FileTree) :=
  match c.powerwashFile with
  | none => ⟨(.error (.failed "No powerwash file configured"), files), []⟩
  | some path => match files.write path (Utf8.encode powerwashCommand) with
    | .error e => ⟨(.error (.system e), files), []⟩
    | .ok files => ⟨(.ok (), files), [.info ("Powerwash scheduled in " ++ path.quote)]⟩

/-- Take the request for a powerwash back, if there is one. -/
def cancelPowerwash (c : DeviceConfig) (files : FileTree) :
    Logged (Except BootError Unit × FileTree) :=
  match c.powerwashFile with
  | none => ⟨(.ok (), files), []⟩
  | some path => match files.remove path with
    | .ok files => ⟨(.ok (), files), [.info "Powerwash cancelled"]⟩
    | .error e =>
      -- Without a file there is no request to take back.
      if e.kind = .notFound then ⟨(.ok (), files), [.info "Powerwash cancelled"]⟩
      else ⟨(.error (.system e), files), []⟩

end DeviceConfig

/-- A host: its slots and its files. -/
structure Host where
  /-- The slots. -/
  slots : HostSlots
  /-- The files. -/
  files : FileTree

namespace Host

/-- A host at the start. -/
def ofConfig (config : DeviceConfig) (files : FileTree) : Host := ⟨.ofConfig config, files⟩

/-- The outcome of a change of the slots. -/
def changeSlots (h : Host) (changed : Except BootError HostSlots) : BootAnswer × Host :=
  match changed with
  | .ok slots => (.ofResult (.ok .done), { h with slots := slots })
  | .error e => (.ofResult (.error e), h)

/-- The outcome of a change of the files. -/
def changeFiles (h : Host) (changed : Logged (Except BootError Unit × FileTree)) :
    Logged (BootAnswer × Host) := do
  let (outcome, files) ← changed
  return (.ofResult (outcome.map fun () => .done), { h with files := files })

/-- Answer a call on the slots or on a service of the host. -/
def answer (h : Host) : BootCall → Logged (BootAnswer × Host)
  | .numSlots => pure (.ofResult (.ok (.number h.slots.config.numSlots)), h)
  | .currentSlot => pure (.ofResult (.ok (.number h.slots.config.currentSlot)), h)
  | .activeSlot => pure (.ofResult (.ok (.number h.slots.active)), h)
  | .device name slot => pure (.ofResult ((h.slots.device h.files name slot).map .device), h)
  | .isBootable slot => pure (.ofResult ((h.slots.isBootable slot).map .flag), h)
  | .isSuccessful slot => pure (.ofResult ((h.slots.isSuccessful slot).map .flag), h)
  | .markUnbootable slot =>
    ⟨h.changeSlots (h.slots.markUnbootable slot), HostSlots.unbootableLog slot⟩
  | .setActive slot =>
    let changed := h.slots.setActive slot
    ⟨h.changeSlots changed, HostSlots.setActiveLog slot changed⟩
  | .markSuccessful =>
    let (a, h) := h.changeSlots h.slots.markSuccessful
    pure (⟨a.result, some a.result.isOk⟩, h)
  | .isVirtualAb => pure (.ofResult (.ok (.flag h.slots.config.virtualAb)), h)
  | .mapAll => ⟨(.ofResult (.ok .done), h), HostSlots.mapLog⟩
  | .unmapAll => pure (.ofResult (.ok .done), h)
  | .finishUpdate powerwash => ⟨(.ofResult (.ok .done), h), HostSlots.finishLog powerwash⟩
  | .schedulePowerwash => h.changeFiles (h.slots.config.schedulePowerwash h.files)
  | .cancelPowerwash => h.changeFiles (h.slots.config.cancelPowerwash h.files)
  | .mountOptions partition =>
    pure (.ofResult (.ok (.text (h.slots.config.optionsFor partition))), h)
  | .warmReset on => ⟨(.ofResult (.ok .done), h), HostSlots.warmResetLog on⟩
  | .vbmetaDigest reset => ⟨(.ofResult (.ok .done), h), HostSlots.vbmetaLog reset⟩

end Host

end SlotUpdate
