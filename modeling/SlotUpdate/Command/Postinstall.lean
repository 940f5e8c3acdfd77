import SlotUpdate.Command.Inputs
import SlotUpdate.Config
import SlotUpdate.Platform.Host
import SlotUpdate.Postinstall.Drive
import SlotUpdate.Progress.Recovery
import SlotUpdate.Verify.Partitions

/-!
# The command that runs postinstall programs

The metadata of the payload is verified first. Without the name of a partition the written
partitions are then compared with the manifest, every program runs, and the written slot is made
active; with it only the program of that partition runs. Progress goes to the console or, as
commands, to recovery.
-/

namespace SlotUpdate.Command

/-! ## Progress -/

/-- What watches an attempt. -/
inductive Watcher (α : Type) where
  /-- A console, which shows whole percents, and the last percent that it showed. -/
  | console (lastPercent : Option UInt32)
  /-- Recovery. -/
  | recovery (reporter : RecoveryReporter α)

namespace Watcher

variable {α : Type} [ProgressNumber α]

/-- Tell a watcher of an event. It prints at most one line. -/
def tell (w : Watcher α) (e : RecoveryEvent α) : Watcher α × Report Unit :=
  match w, e with
  | console last, .progress share =>
    let percent := ProgressNumber.percent share
    if last = some percent then (console last, pure ())
    else (console (some percent), Report.status s!"Postinstall progress: {percent.toNat}%")
  | console last, .complete code =>
    (console last, Report.status s!"Postinstall finished: {code.name} ({code.number})")
  | recovery reporter, e =>
    let (reporter, line) := reporter.report e
    (recovery reporter, match line with
      | some line => Report.print line
      | none => pure ())

/-- Tell a watcher of events in order. -/
def tellAll (w : Watcher α) : List (RecoveryEvent α) → Report Unit
  | [] => pure ()
  | e :: rest => do
    let (w, told) := w.tell e
    told
    tellAll w rest

/-- The watcher that the options ask for. -/
def ofOptions (o : PostinstallOptions) : Watcher α :=
  if o.recoveryStatus then recovery .initial else console none

/-- What a watcher is told of an exchange with the platform. -/
def eventOf? (e : Exchange α) : Option (RecoveryEvent α) :=
  match e.request with
  | .progress share => some (.progress share)
  | .complete code => some (.complete code)
  | _ => none

end Watcher

/-! ## Plans -/

/-- The slot after a slot, in a circle. -/
def slotAfter (current : Slot) (numSlots : UInt32) : Slot := (current + 1) % numSlots

/-- Where a payload came from, as recorded in the plan. -/
def sourceOf (o : PostinstallOptions) : String :=
  o.downloadUrl.getD ("file://" ++ o.payload.text)

/-- The devices of a partition on a host. -/
def lookup (slots : HostSlots) (files : FileTree) (name : String) (slot : Slot) :
    Id (Except BootError PartitionDevice) :=
  slots.device files name slot

/-- The plan to run the program of one partition of a verified manifest. -/
def triggeredPlan (slots : HostSlots) (files : FileTree) (manifest : Manifest)
    (partition url : String) : Report InstallPlan :=
  let built : Id (Except PlanError InstallPlan) :=
    InstallPlan.triggered (lookup slots files) slots.config.currentSlot manifest partition url
  (Report.take ofCodedPlan built []).context
    ("Failed to build postinstall plan for " ++ Text.quote partition)

/-- The plan to run every program of a verified manifest, for the slot after the booted one. -/
def updatePlan (plan : InstallPlan) (slots : HostSlots) (files : FileTree) (manifest : Manifest)
    (o : PostinstallOptions) : Report InstallPlan :=
  -- The booted slot is never the one that is written.
  if slots.config.numSlots < 2 then
    Report.fail (.failed "A/B updates require at least two slots" [])
  else
    let plan := { plan with
      downloadUrl := sourceOf o
      sourceSlot := slots.config.currentSlot
      targetSlot := slotAfter slots.config.currentSlot slots.config.numSlots }
    let loaded : Id (Except PlanError InstallPlan) :=
      plan.loadPartitions (lookup slots files) manifest.effectiveBlockSize manifest.partitions
    (Report.take ofPlan loaded []).context ("Failed to load partitions from " ++ o.payload.quote)

/-- The plan for the options on a host, from verified metadata. -/
def buildPlan (o : PostinstallOptions) (slots : HostSlots) (files : FileTree) :
    Report InstallPlan := do
  let plan ← loadPropertiesOf files o.properties
  let verifier ← loadVerifier files o.keys false
  let source ← openPayload files o.payload "Failed to open payload: "
  let (h, data) ← loadMetadata source o.payload
  let manifest ← checkMetadata h data (o.signature.getD "") plan.metadataHash verifier o.payload
  match o.partition with
  | some partition => triggeredPlan slots files manifest partition (sourceOf o)
  | none => updatePlan plan slots files manifest o

/-! ## Verification -/

variable {α : Type} [ProgressNumber α]

/-- The messages of a verification, with the progress in whole percents. -/
def verificationLog (last : Option UInt32) : List (VerifyEvent α) → List LogLine
  | [] => []
  | .opened _ :: rest => verificationLog last rest
  | .message line :: rest => line :: verificationLog last rest
  | .progress share :: rest =>
    let percent := ProgressNumber.percent share
    if last = some percent then verificationLog last rest
    else .debug s!"Verification progress: {percent.toNat}%" :: verificationLog (some percent) rest

/-- Compare the written partitions with the manifest. -/
def verifyTargets (plan : InstallPlan) (files : FileTree) (watcher : Watcher α) : Report Unit :=
  let v : Verification α := verifyPartitions files.openSource plan.partitions
  let log := verificationLog none v.events
  match v.result with
  | .ok () => do
    Report.take id (.ok ()) log
    Report.status s!"Verified {plan.partitions.length} target partitions"
  | .error .sumOverflow => Report.fail (.crashed VerifyError.sumOverflow.message)
  | .error e => do
    Report.take id (.ok ()) log
    -- The watcher learns of the failure although no attempt was started.
    watcher.tellAll [.complete e.errorCode]
    Report.fail
      (.failed (coded e.errorCode "Target partitions do not match") (e.message :: e.causes))

/-! ## The command -/

/-- The plan that is carried out, verified as far as the options ask for it. -/
def prepare (o : PostinstallOptions) (slots : HostSlots) (files : FileTree)
    (watcher : Watcher α) : Report InstallPlan := do
  let plan ← buildPlan o slots files
  Report.note (.info (s!"Running postinstall for slot {plan.targetSlot.name} " ++
    s!"({plan.partitions.length} partitions)"))
  if o.partition.isNone && !o.skipVerification then verifyTargets plan files watcher
  return plan

/-- How many times an attempt waits at most. -/
def maxRounds : Nat := 100000

/-- Make an attempt and give the runner up. -/
def attempt (config : PostinstallConfig) (plan : InstallPlan) : Action α (Option ErrorCode) := do
  match ← (Runner.new config).run plan (List.replicate maxRounds []) with
  | .error _ => return none
  | .ok runner => return (← runner.shutDown).result

/-- The outcome of an attempt. -/
def judge (code : ErrorCode) : Report Unit :=
  if code.isSuccess then return ()
  else Report.fail (.failed s!"Postinstall failed: {code.name} ({code.number})" [])

/-- Carry a plan out on a host. Gives the files afterwards. -/
def carryOut (config : PostinstallConfig) (host : Host) (plan : InstallPlan)
    (watcher : Watcher α) : Report Unit × FileTree :=
  let o := (attempt config plan).run
    (HostPlatform.platform (config.pollIntervalMs.toNat * 1000)) (HostPlatform.ofHost host)
  let report : Report Unit := do
    Report.take id (.ok ()) o.log
    watcher.tellAll (o.exchanges.filterMap Watcher.eventOf?)
    judge (o.result.getD .error)
  (report, o.state.host.files)

/-- Run postinstall programs. Gives the files afterwards. -/
def postinstall (o : PostinstallOptions) (config : Config) (files : FileTree) :
    Report Unit × FileTree :=
  let watcher : Watcher Float := .ofOptions o
  let host := Host.ofConfig config.device files
  let prepared := prepare o host.slots files watcher
  match prepared.result with
  | .error e => (⟨.error e, prepared.printed, prepared.log⟩, files)
  | .ok plan =>
    let (report, files) := carryOut config.postinstall host plan watcher
    (prepared.bind fun _ => report, files)

end SlotUpdate.Command
