import SlotUpdate.Postinstall.Drive

/-!
# Histories of runners

The calls on a runner are of one type, so that what holds in every history can be said of a list of
calls. A call that a runner refuses leaves it as it was. `Runner.lifetime` is a whole history: calls
on a new runner, which is given up at the end.
-/

namespace SlotUpdate

/-- A call on a runner. -/
inductive RunnerCall where
  /-- Start the attempt. -/
  | perform (plan : InstallPlan)
  /-- Make the whole attempt, given the control messages that arrive before each wait. -/
  | run (plan : InstallPlan) (controls : List (List Control))
  /-- Read the status pipe of the running program. -/
  | readable
  /-- Wait once for progress or for the exit of the running program. -/
  | poll
  /-- A program exited. -/
  | exited (pid : Pid) (code : Int)
  /-- Stop the running program for now. -/
  | suspend
  /-- Let a stopped program go on. -/
  | resume
  /-- Cancel the attempt. -/
  | terminate
  deriving Repr, DecidableEq

/-- What a call on a runner gives. -/
inductive CallAnswer where
  /-- Nothing to tell. -/
  | nothing
  /-- The result of the attempt. -/
  | finished (code : ErrorCode)
  /-- The runner refused. -/
  | refused (cause : RunnerError)
  /-- Waiting failed. -/
  | failed (cause : SystemError)
  deriving Repr, DecidableEq

namespace CallAnswer

/-- The answer of a call that may be refused. -/
def ofOutcome : Except RunnerError Unit → CallAnswer
  | .ok () => .nothing
  | .error e => .refused e

/-- The answer of a call that may fail to wait. -/
def ofPoll : Except SystemError Unit → CallAnswer
  | .ok () => .nothing
  | .error e => .failed e

end CallAnswer

namespace Runner

variable {α : Type} [ProgressNumber α]

/-- The answer of a whole attempt: what it returns when its rounds are left, and nothing while they
go on, which they do as long as there is no result. -/
def attemptAnswer (r : Runner) : CallAnswer :=
  if r.result.isSome then .finished r.returned else .nothing

/-- A runner after it was to start an attempt, with the answer if it did. -/
def started (before : Runner) (answer : Runner → CallAnswer) :
    Except RunnerError Runner → Runner × CallAnswer
  | .error e => (before, .refused e)
  | .ok r => (r, answer r)

/-- Carry a call out. -/
def call (r : Runner) : RunnerCall → Action α (Runner × CallAnswer)
  | .perform plan => do return r.started (fun _ => .nothing) (← r.perform plan)
  | .run plan controls => do
    return r.started attemptAnswer (← r.run plan controls)
  | .readable => do return (← r.onReadable, .nothing)
  | .poll => do
    let (r, polled) ← r.pollOnce
    return (r, .ofPoll polled)
  | .exited pid code => do return (← r.onExited pid code, .nothing)
  | .suspend => do
    let (r, outcome) ← r.suspend
    return (r, .ofOutcome outcome)
  | .resume => do
    let (r, outcome) ← r.resume
    return (r, .ofOutcome outcome)
  | .terminate => do return (← r.terminate, .nothing)

/-- Carry calls out in order. -/
def calls (r : Runner) : List RunnerCall → Action α Runner
  | [] => return r
  | c :: rest => do
    let (r, _) ← r.call c
    calls r rest

/-- Carry calls out on a new runner and give it up. -/
def lifetime (config : PostinstallConfig) (cs : List RunnerCall) : Action α Runner := do
  (← (new config).calls cs).shutDown

end Runner

end SlotUpdate
