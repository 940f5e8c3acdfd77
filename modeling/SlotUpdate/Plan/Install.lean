import SlotUpdate.Base64
import SlotUpdate.Log
import SlotUpdate.Manifest
import SlotUpdate.Plan.Properties

/-!
# Install plans

An install plan says what an update writes, to which slot, and what runs afterwards. It is filled
from the properties of the payload (`applyProperties`) and from the manifest (`load`). A triggered
plan (`triggered`) runs the program of a single partition outside of an update and never switches
slots.
-/

namespace SlotUpdate

/-- A partition to install, and the program to run afterwards. -/
structure Partition where
  /-- The name of the partition. -/
  name : String
  /-- The device for writing. -/
  target : Path
  /-- The device for reading. -/
  readonlyTarget : Path
  /-- The size in bytes. -/
  size : UInt64
  /-- The digest. -/
  hash : Bytes
  /-- The filesystem, empty if it is not known. -/
  filesystem : String
  /-- The program, relative to the partition; empty if there is none. -/
  program : String
  /-- Whether the program runs. -/
  runs : Bool
  /-- Whether a failure of the program is ignored. -/
  optional : Bool
  deriving Repr, DecidableEq

/-- What an update writes and what runs afterwards. -/
structure InstallPlan where
  /-- Where the payload came from. If this is empty, nothing runs. -/
  downloadUrl : String
  /-- The slot that is booted. -/
  sourceSlot : Slot
  /-- The slot that is written. -/
  targetSlot : Slot
  /-- The partitions. -/
  partitions : List Partition
  /-- Whether the update asks for a powerwash. -/
  powerwashRequired : Bool
  /-- Whether the written slot is booted next. -/
  switchSlot : Bool
  /-- Whether programs run whose failure is ignored. -/
  runPostinstall : Bool
  /-- The size of the payload. -/
  payloadSize : Option UInt64
  /-- The digest of the payload. -/
  payloadHash : Option Bytes
  /-- The size of the metadata. -/
  metadataSize : Option UInt64
  /-- The digest of the metadata. -/
  metadataHash : Option Bytes
  deriving Repr, DecidableEq

namespace InstallPlan

/-- A plan that nothing is known about. -/
def empty : InstallPlan :=
  ⟨"", Slot.invalid, Slot.invalid, [], false, true, true, none, none, none, none⟩

/-- The start of the source of a triggered plan. -/
def triggeredSource : String := "manifest-bytes"

/-- Whether a plan runs a single program outside of an update. -/
def isTriggered (plan : InstallPlan) : Bool :=
  plan.partitions.length == 1 && !plan.switchSlot &&
    triggeredSource.toList.isPrefixOf plan.downloadUrl.toList

/-! ## Properties -/

/-- The outcome of a change of a plan: the plan with what was changed, and the failure that ended
the change, if any. -/
structure Applied where
  /-- The plan. -/
  plan : InstallPlan
  /-- Why not all was changed. -/
  failure : Option PlanError
  deriving Repr, DecidableEq

/-- Apply the size of the payload. -/
def applyPayloadSize (plan : InstallPlan) (p : Properties) : Except PlanError InstallPlan :=
  match p.get? "FILE_SIZE" with
  | none => .ok plan
  | some value => match Properties.word? value with
    | some n => .ok { plan with payloadSize := some n }
    | none => .error (.invalidValue "FILE_SIZE" value)

/-- Apply the digest of the payload. One that is not base64 is passed over, with a warning. -/
def applyPayloadHash (plan : InstallPlan) (p : Properties) : Logged InstallPlan :=
  match p.get? "FILE_HASH" with
  | none => ⟨plan, []⟩
  | some value => match Base64.decode (Utf8.encode value) with
    | .ok hash => ⟨{ plan with payloadHash := some hash }, []⟩
    | .error e =>
      ⟨plan, [.warn s!"Unable to decode base64 file hash: {Text.quote value}: {e.message}"]⟩

/-- Apply the size of the metadata. -/
def applyMetadataSize (plan : InstallPlan) (p : Properties) : Except PlanError InstallPlan :=
  match p.get? "METADATA_SIZE" with
  | none => .ok plan
  | some value => match Properties.word? value with
    | some n => .ok { plan with metadataSize := some n }
    | none => .error (.invalidValue "METADATA_SIZE" value)

/-- Apply the digest of the metadata. -/
def applyMetadataHash (plan : InstallPlan) (p : Properties) : Except PlanError InstallPlan :=
  match p.get? "METADATA_HASH" with
  | none => .ok plan
  | some value => match Base64.decode (Utf8.encode value) with
    | .ok hash => .ok { plan with metadataHash := some hash }
    | .error _ => .error (.invalidValue "METADATA_HASH" value)

/-- Apply the switches. -/
def applySwitches (plan : InstallPlan) (p : Properties) : InstallPlan :=
  { plan with
    powerwashRequired := Properties.switch (p.get? "POWERWASH") false
    switchSlot := Properties.switch (p.get? "SWITCH_SLOT_ON_REBOOT") true
    runPostinstall := Properties.switch (p.get? "RUN_POST_INSTALL") true }

/-- Apply properties, one after the other. What was applied before a failure stays. -/
def applyProperties (plan : InstallPlan) (p : Properties) : Logged Applied :=
  match plan.applyPayloadSize p with
  | .error e => ⟨⟨plan, some e⟩, []⟩
  -- A bad digest of the payload is the one fault that is passed over.
  | .ok sized =>
    let hashed := sized.applyPayloadHash p
    match hashed.value.applyMetadataSize p with
    | .error e => ⟨⟨hashed.value, some e⟩, hashed.log⟩
    | .ok metadataSized => match metadataSized.applyMetadataHash p with
      | .error e => ⟨⟨metadataSized, some e⟩, hashed.log⟩
      | .ok complete => ⟨⟨complete.applySwitches p, none⟩, hashed.log⟩

/-! ## Partitions -/

/-- A partition of a plan by what the manifest says and by its devices. -/
def partitionOf (u : PartitionUpdate) (d : PartitionDevice) : Partition where
  name := u.partitionName
  target := d.writable
  readonlyTarget := d.readonly
  size := u.newSize
  hash := u.newHash
  filesystem := u.filesystem
  program := u.program
  runs := u.runsPostinstall
  optional := u.isPostinstallOptional

/-- Whether a size is a multiple of the block size. Every size is one of zero. -/
def isAligned (size : UInt64) (blockSize : UInt32) : Bool :=
  blockSize == 0 || size % blockSize.toUInt64 == 0

variable {m : Type → Type} [Monad m]

/-- Resolve partitions in order, up to the first that has no aligned size or no device. -/
def resolve (lookup : String → Slot → m (Except BootError PartitionDevice)) (slot : Slot)
    (blockSize : UInt32) : List PartitionUpdate → m (Except PlanError (List Partition))
  | [] => pure (.ok [])
  | u :: rest =>
    -- The size is checked before the device is looked up.
    if isAligned u.newSize blockSize then do
      match ← lookup u.partitionName slot with
      | .error e => return .error (.device u.partitionName e)
      | .ok d =>
        match ← resolve lookup slot blockSize rest with
        | .error e => return .error e
        | .ok ps => return .ok (partitionOf u d :: ps)
    else pure (.error (.unaligned u.partitionName u.newSize blockSize))

/-- The plan with the partitions of a manifest in place of its own. -/
def loadPartitions (plan : InstallPlan)
    (lookup : String → Slot → m (Except BootError PartitionDevice)) (blockSize : UInt32)
    (updates : List PartitionUpdate) : m (Except PlanError InstallPlan) := do
  match ← resolve lookup plan.targetSlot blockSize updates with
  | .error e => return .error e
  | .ok ps => return .ok { plan with partitions := ps }

/-- Load the partitions of a manifest into a plan, in place of its own. Devices are asked for by the
name of the partition, the slot that is written and the one that is booted. -/
def load (plan : InstallPlan)
    (device : String → Slot → Slot → m (Except BootError PartitionDevice)) (blockSize : UInt32)
    (updates : List PartitionUpdate) : m Applied := do
  let lookup name slot := device name slot plan.sourceSlot
  match ← plan.loadPartitions lookup blockSize updates with
  -- Without all of the new partitions the plan keeps its own.
  | .error e => return ⟨plan, some e⟩
  | .ok loaded => return ⟨loaded, none⟩

/-- The plan to run the program of one partition of a manifest, outside of an update, on a device
whose booted slot is `current`. -/
def triggered (lookup : String → Slot → m (Except BootError PartitionDevice)) (current : Slot)
    (manifest : Manifest) (partition url : String) : m (Except PlanError InstallPlan) :=
  let plan := { empty with
    sourceSlot := current
    -- The other one of the first two slots, however many there are.
    targetSlot := if current = 0 then 1 else 0
    switchSlot := false
    downloadUrl := triggeredSource ++ ":" ++ url }
  match manifest.partitions.find? (·.partitionName == partition) with
  | none => pure (.error (.missingPartition partition))
  | some u =>
    if u.program = "" then pure (.error (.noProgram partition))
    else plan.loadPartitions lookup manifest.effectiveBlockSize [u]

/-! ## Messages -/

/-- The message about a partition. -/
def partitionLog (p : Partition) : LogLine :=
  .info (s!"  partition {p.name}: target={p.readonlyTarget.quote} run_postinstall={p.runs}" ++
    s!" path={Text.quote p.program} optional={p.optional}")

/-- The messages that show a plan. -/
def log (plan : InstallPlan) : List LogLine :=
  [.info "Install plan:",
   .info ("  download_url: " ++ Text.quote plan.downloadUrl),
   .info ("  source_slot: " ++ plan.sourceSlot.name),
   .info ("  target_slot: " ++ plan.targetSlot.name),
   .info s!"  powerwash_required: {plan.powerwashRequired}",
   .info s!"  switch_slot_on_reboot: {plan.switchSlot}",
   .info s!"  run_post_install: {plan.runPostinstall}"] ++ plan.partitions.map partitionLog

end InstallPlan

end SlotUpdate
