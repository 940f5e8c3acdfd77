import SlotUpdate.Mount.Scoped
import SlotUpdate.Plan.Install
import SlotUpdate.Progress.LineBuffer
import SlotUpdate.Progress.Weights

/-!
# Runners of postinstall programs

A runner takes the partitions of a plan in order. It mounts a partition read-only, starts its
program with a status pipe, and passes the progress that the program reports on until the program
exits; then it goes on with the next partition. At the end of an update without failure it makes
the written slot the active one.

This module holds the state of a runner and the steps that end a partition or the whole attempt:
`Runner.cleanUp` releases what belongs to the current partition, and `Runner.completeAttempt`, which
acts once, settles the result, takes a powerwash back if the attempt failed, and reports.
-/

namespace SlotUpdate

/-- The settings of a runner. -/
structure PostinstallConfig where
  /-- Where partitions are mounted while their programs run. -/
  mountDir : Path
  /-- How long to wait for a program before looking at other messages again. -/
  pollIntervalMs : UInt64
  /-- Whether recovery is running, where partitions that share space are mapped already. -/
  recovery : Bool
  /-- The number of the status pipe in a program. -/
  statusFd : Int
  deriving Repr, DecidableEq

/-- The settings that hold unless others are given. -/
def PostinstallConfig.default : PostinstallConfig :=
  ⟨⟨"/postinstall"⟩, 100, false, 3⟩

/-- What a runner is doing. -/
inductive Stage where
  /-- Nothing yet. -/
  | idle
  /-- Preparing the attempt. -/
  | initializing
  /-- Mounting a partition. -/
  | mountingPartition
  /-- Starting a program. -/
  | runningPostinstall
  /-- Waiting for a program. -/
  | monitoringProgress
  /-- Leaving a partition. -/
  | partitionComplete
  /-- Going on to the next partition. -/
  | nextPartition
  /-- Done, with success. -/
  | allComplete
  /-- Done, with a failure. -/
  | aborted
  deriving Repr, DecidableEq

/-- The name of a stage. -/
def Stage.name : Stage → String
  | .idle => "Idle"
  | .initializing => "Initializing"
  | .mountingPartition => "MountingPartition"
  | .runningPostinstall => "RunningPostinstall"
  | .monitoringProgress => "MonitoringProgress"
  | .partitionComplete => "PartitionComplete"
  | .nextPartition => "NextPartition"
  | .allComplete => "AllComplete"
  | .aborted => "Aborted"

/-- A running program. -/
structure RunningChild where
  /-- Its number. -/
  pid : Pid
  /-- Whether its status pipe is still watched. -/
  watched : Bool
  /-- Whether reads of its status pipe return at once. If they do not, the pipe is read once at a
  time. -/
  nonblocking : Bool
  deriving Repr, DecidableEq

/-- Why a call on a runner is refused. -/
inductive RunnerError where
  /-- No program is running. -/
  | noChild
  /-- A signal could not be sent. -/
  | signal (signal : ChildSignal) (pid : Pid) (cause : SystemError)
  /-- The runner was started before. -/
  | alreadyUsed
  deriving Repr, DecidableEq

/-- The text of a refusal. -/
def RunnerError.message : RunnerError → String
  | noChild => "No postinstall program is running"
  | signal s pid _ => s!"Failed to send {s.name} to pid {pid}"
  | alreadyUsed => "Postinstall runner can only be used once"

/-- The state of a runner. -/
structure Runner where
  /-- The settings. -/
  config : PostinstallConfig
  /-- The plan. -/
  plan : InstallPlan
  /-- What the runner is doing. -/
  stage : Stage
  /-- How far the attempt is. -/
  progress : Aggregator
  /-- The place of the current partition in the plan. -/
  cursor : Nat
  /-- The mounted partition. -/
  mount : Option ScopedMount
  /-- The running program. -/
  child : Option RunningChild
  /-- What the program has written of its next line. -/
  lines : LineBuffer
  /-- Whether the program is stopped. -/
  suspended : Bool
  /-- Whether this attempt asked for a powerwash. -/
  powerwashScheduled : Bool
  /-- The result, once there is one. -/
  result : Option ErrorCode
  deriving Repr, DecidableEq

namespace Runner

variable {α : Type} [ProgressNumber α]

/-- A runner that has not been started. -/
def new (config : PostinstallConfig) : Runner where
  config := config
  plan := .empty
  stage := .idle
  progress := .ofWeights []
  cursor := 0
  mount := none
  child := none
  lines := .empty
  suspended := false
  powerwashScheduled := false
  result := none

/-- The number of the running program. -/
def childPid (r : Runner) : Option Pid := r.child.map (·.pid)

/-- Whether a status pipe is watched. -/
def isWatching (r : Runner) : Bool := r.child.any (·.watched)

/-- The current partition, if the cursor is not past the last. -/
def partition? (r : Runner) : Option Partition := r.plan.partitions[r.cursor]?

/-- Report how far the attempt is when the current partition is done to a fraction. -/
def reportProgress (r : Runner) (fraction : α) : Action α Unit :=
  Action.request (.progress (r.progress.progress (clampFraction fraction)))

/-- Finish the current partition in the count of progress. -/
def advance (r : Runner) : Runner :=
  { r with progress := r.progress.advance, cursor := r.cursor + 1 }

/-! ## Ending -/

/-- Unmount the mounted partition, if there is one, and log a failure. -/
def unmountHeld (r : Runner) : Action α Unit :=
  match r.mount with
  | none => return ()
  | some m => do
    match ← m.unmount with
    | .error e => Action.tell (.warn e.message)
    | .ok () => return ()

/-- Release everything that belongs to the current partition. -/
def cleanUp (r : Runner) : Action α Runner := do
  r.unmountHeld
  return { r with mount := none, child := none, lines := .empty, suspended := false }

/-- Make the written slot the active one. -/
def switchSlot (r : Runner) : Action α ErrorCode := do
  -- The slot is switched only after everything that it will boot from is in place.
  match ← Action.request (.finishUpdate r.plan.powerwashRequired) with
  | .error e =>
    Action.tell (.error ("Failed to finish dynamic partition update: " ++ e.message))
    return .postinstallRunnerError
  | .ok () =>
    match ← Action.request (.setActive r.plan.targetSlot) with
    | .error e =>
      Action.tell (.error s!"Failed to set slot {r.plan.targetSlot.name} as active: {e.message}")
      return .postinstallRunnerError
    | .ok () =>
      -- The switch is done: what fails from here on is logged and changes nothing.
      Action.request (.warmReset true)
      match ← Action.request (.vbmetaDigest false) with
      | .error e =>
        Action.tell
          (.warn ("Failed to persist vbmeta digest for inactive slot: " ++ e.message))
      | .ok () => pure ()
      return .success

/-- The result of an attempt that ends with `code`: success still depends on the switch of slots,
if there is to be one. -/
def settle (r : Runner) (code : ErrorCode) : Action α ErrorCode :=
  if code = .success then
    if r.plan.switchSlot then r.switchSlot else return .updatedButNotActive
  else return code

/-- Take back the powerwash that this attempt asked for, if it did. -/
def cancelPowerwash (r : Runner) : Action α Runner :=
  if r.powerwashScheduled then do
    match ← Action.request .cancelPowerwash with
    | .error e => Action.tell (.warn ("Failed to cancel powerwash: " ++ e.message))
    | .ok () => pure ()
    return { r with powerwashScheduled := false }
  else return r

/-- The stage at the end, after the messages and the clean-up that a result calls for. -/
def conclude (r : Runner) (code : ErrorCode) : Action α Runner :=
  if code.isSuccess then do
    Action.tell (.info ("All postinstall programs completed: " ++ code.name))
    return { r with stage := .allComplete }
  else do
    Action.tell (.error s!"Postinstall failed: {code.number} ({code.name})")
    cancelPowerwash { r with stage := .aborted }

/-- End the attempt, unless it has ended before. -/
def completeAttempt (r : Runner) (code : ErrorCode) : Action α Runner :=
  if r.result.isSome then return r
  else do
    -- The partition is unmounted before the slot is switched.
    let r ← r.cleanUp
    let code ← r.settle code
    let r ← r.conclude code
    Action.request (.complete code)
    return { r with result := some code }

/-! ## Signals -/

/-- Stop the running program for now. -/
def suspend (r : Runner) : Action α (Runner × Except RunnerError Unit) :=
  match r.child with
  | none => return (r, .error .noChild)
  | some c => do
    match ← Action.request (.signal c.pid .stop) with
    | .error e => return (r, .error (.signal .stop c.pid e))
    | .ok () => return ({ r with suspended := true }, .ok ())

/-- Let a stopped program go on. A program that is not stopped is left alone. -/
def resume (r : Runner) : Action α (Runner × Except RunnerError Unit) :=
  match r.child with
  | none => return (r, .error .noChild)
  | some c =>
    if !r.suspended then return (r, .ok ())
    else do
      match ← Action.request (.signal c.pid .resume) with
      | .error e => return (r, .error (.signal .resume c.pid e))
      | .ok () => return ({ r with suspended := false }, .ok ())

/-- Let a stopped program go on, since it could not handle the signal to end, and log a failure. -/
def resumeForKill (r : Runner) : Action α Runner :=
  if r.suspended then do
    let (r, outcome) ← r.resume
    match outcome with
    | .error e => Action.tell (.warn e.message)
    | .ok () => pure ()
    return r
  else return r

/-- Send a program the signal to end, log a failure, and forget the program. -/
def endProgram (pid : Pid) : Action α Unit := do
  match ← Action.request (.signal pid .terminate) with
  | .error e => Action.tell (.warn s!"Failed to terminate pid {pid}: {e.text}")
  | .ok () => pure ()
  Action.request (.release pid)

/-- End the running program, if there is one, and do not wait for it. -/
def killChild (r : Runner) : Action α Runner :=
  match r.child with
  | none => return r
  | some c => do
    -- A stopped program would keep the signal until it goes on.
    let r ← r.resumeForKill
    endProgram c.pid
    return r

/-- Cancel the attempt, if one is going on. -/
def terminate (r : Runner) : Action α Runner :=
  if r.stage = .idle ∨ r.result.isSome then return r
  else do
    Action.tell (.info "Terminating postinstall")
    -- The program ends before its partition is unmounted.
    let r ← r.killChild
    let r ← r.cleanUp
    r.completeAttempt .userCanceled

/-- Unmap the partitions of an attempt. -/
def unmapPartitions (r : Runner) : Action α Unit :=
  if r.stage ≠ .idle ∧ r.plan.partitions ≠ [] then do
    match ← Action.request .unmapAll with
    | .error e => Action.tell (.warn ("Failed to unmap partitions: " ++ e.message))
    | .ok () => return ()
  else return ()

/-- Cancel the attempt that is going on, if any. -/
def abandon (r : Runner) : Action α Runner :=
  if r.result.isNone ∧ r.stage ≠ .idle then do
    Action.tell (.info "Postinstall runner dropped during an attempt")
    r.terminate
  else return r

/-- Give a runner up: an attempt that is going on is cancelled, and everything is released. -/
def shutDown (r : Runner) : Action α Runner := do
  -- After a cancelled attempt nothing is left to end or release, so the next two do nothing then.
  let r ← r.abandon
  let r ← r.killChild
  let r ← r.cleanUp
  r.unmapPartitions
  return r

end Runner

end SlotUpdate
