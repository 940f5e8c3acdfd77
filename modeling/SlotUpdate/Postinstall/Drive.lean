import SlotUpdate.Postinstall.Attempt

/-!
# Running an attempt to its end

`Runner.run` starts an attempt and drives it in rounds. Each round first handles the control
messages that have arrived, in order, and then waits once for progress or for the exit of the
program (`Runner.pollOnce`).
-/

namespace SlotUpdate

/-- A message to a running attempt. -/
inductive Control where
  /-- Stop the program for now. -/
  | suspend
  /-- Let the program go on. -/
  | resume
  /-- Cancel the attempt. -/
  | cancel
  deriving Repr, DecidableEq

/-- The name of a control message. -/
def Control.name : Control → String
  | .suspend => "Suspend"
  | .resume => "Resume"
  | .cancel => "Cancel"

namespace Runner

variable {α : Type} [ProgressNumber α]

/-- Wait until the status pipe of the running program can be read, and read it. -/
def pollStatus (r : Runner) (c : RunningChild) : Action α (Runner × Except SystemError Unit) :=
  if c.watched then do
    match ← Action.request (.awaitStatus c.pid) with
    | .error e => return (r, .error e)
    | .ok true => return (← r.onReadable, .ok ())
    | .ok false => return (r, .ok ())
  else do
    Action.request .pause
    return (r, .ok ())

/-- Handle the exit of the running program, if it has exited. -/
def pollExit (r : Runner) (pid : Pid) : Action α (Runner × Except SystemError Unit) := do
  match ← Action.request (.tryWait pid) with
  | .error e => return (r, .error e)
  | .ok (some code) => return (← r.onExited pid code, .ok ())
  | .ok none => return (r, .ok ())

/-- Wait once for progress or for the exit of the running program, and handle both. -/
def pollOnce (r : Runner) : Action α (Runner × Except SystemError Unit) :=
  match r.child with
  | none => return (r, .ok ())
  | some c => do
    let (r, polled) ← r.pollStatus c
    -- What the program wrote before it exited is read first.
    match polled with
    | .error e => return (r, .error e)
    | .ok () => r.pollExit c.pid

/-- Carry out a control message. -/
def obey (r : Runner) : Control → Action α (Runner × Except RunnerError Unit)
  | .suspend => r.suspend
  | .resume => r.resume
  | .cancel => do return (← r.terminate, .ok ())

/-- Carry out a control message and log a failure. -/
def handle (r : Runner) (control : Control) : Action α Runner := do
  let (r, outcome) ← r.obey control
  match outcome with
  | .error e => Action.tell (.warn s!"Failed to handle {control.name}: {e.message}")
  | .ok () => pure ()
  return r

/-- Carry out control messages in order. -/
def handleAll (r : Runner) : List Control → Action α Runner
  | [] => return r
  | control :: rest => do handleAll (← r.handle control) rest

/-- Wait once. If that fails, end the program and the attempt. -/
def monitor (r : Runner) : Action α Runner := do
  let (r, polled) ← r.pollOnce
  match polled with
  | .ok () => return r
  | .error e =>
    Action.tell (.error ("Failed to monitor postinstall program: " ++ e.text))
    -- Without its exit code the program cannot be told to have ended, so it is made to.
    let r ← r.killChild
    r.completeAttempt .postinstallRunnerError

/-- One round: the control messages that have arrived, then, if the attempt still goes on, one
wait. -/
def round (r : Runner) (controls : List Control) : Action α Runner := do
  let r ← r.handleAll controls
  if r.result.isSome then return r else r.monitor

/-- Rounds until the attempt has ended. Each round comes with the control messages that have
arrived. -/
def rounds (r : Runner) : List (List Control) → Action α Runner
  | [] => return r
  | controls :: rest =>
    if r.result.isSome then return r else do rounds (← r.round controls) rest

/-- What a whole attempt returns when its rounds are left: the result, or, if there should be none,
a failure without a code of its own. -/
def returned (r : Runner) : ErrorCode := r.result.getD .error

/-- Make an attempt, given the control messages that arrive before each wait. The result is that of
the runner afterwards; there is none if the attempt goes on after the last round. -/
def run (r : Runner) (plan : InstallPlan) (controls : List (List Control)) :
    Action α (Except RunnerError Runner) := do
  match ← r.perform plan with
  | .error e => return .error e
  | .ok r => return .ok (← r.rounds controls)

end Runner

end SlotUpdate
