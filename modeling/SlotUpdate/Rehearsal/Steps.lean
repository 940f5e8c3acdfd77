import SlotUpdate.Postinstall.History
import SlotUpdate.Rehearsal.Memory

/-!
# Rehearsals

A rehearsal drives a runner on a platform in memory step by step: calls on the runner, what its
programs write, and how they exit. Each step answers what it gave, the exchanges and the messages.
-/

namespace SlotUpdate

/-- What happens at one wait of an attempt that is run to its end. -/
inductive RunItem where
  /-- The program does something. -/
  | program (item : ScriptItem)
  /-- A control message is sent. -/
  | control (control : Control)
  deriving Repr, DecidableEq

/-- A step of a rehearsal. Where a step is about a program, it is the running one unless another
one is named. -/
inductive RehearsalStep where
  /-- Change the platform. -/
  | set (setting : MemorySetting)
  /-- Start the attempt. -/
  | perform (plan : InstallPlan)
  /-- Let the program write to its status pipe and, if asked, let the runner read it. -/
  | status (pid : Option Pid) (data : Bytes) (read : Bool)
  /-- Let the runner read the status pipe. -/
  | readable
  /-- Let the runner wait once. -/
  | poll
  /-- Close the end for writing of the status pipe. -/
  | close (pid : Option Pid)
  /-- Let the program exit. -/
  | exit (pid : Option Pid) (code : Int)
  /-- Tell the runner that the program exited. -/
  | exited (pid : Option Pid) (code : Int)
  /-- Stop the program for now. -/
  | suspend
  /-- Let the program go on. -/
  | resume
  /-- Cancel the attempt. -/
  | terminate
  /-- Make the whole attempt, with the control messages that wait at its start and what happens at
  each wait. -/
  | run (plan : InstallPlan) (controls : List Control) (script : List RunItem)

/-- What a step of a rehearsal gives. -/
inductive StepAnswer where
  /-- What the runner answered, or nothing if it was not called. -/
  | answered (answer : CallAnswer)
  /-- The program has no status pipe that it can write to and that is read. -/
  | closed
  /-- There is nothing to read. -/
  | notReady
  deriving Repr, DecidableEq

/-- A step that there is nothing to tell about. -/
def StepAnswer.nothing : StepAnswer := .answered .nothing

/-- A runner and its platform. -/
structure Rehearsal (α : Type) where
  /-- The runner. -/
  runner : Runner
  /-- The platform. -/
  memory : Memory α

/-- What a step of a rehearsal gave. -/
structure Rehearsed (α : Type) where
  /-- The rehearsal after it. -/
  after : Rehearsal α
  /-- The answer. -/
  answer : StepAnswer
  /-- The exchanges, in order. -/
  exchanges : List (Exchange α)
  /-- The messages, in order. -/
  log : List LogLine

namespace Rehearsal

variable {α : Type} [ProgressNumber α]

/-- A rehearsal of a runner that has not been started. -/
def new (config : PostinstallConfig) (memory : Memory α) : Rehearsal α := ⟨.new config, memory⟩

/-- The program that a step is about, zero if there is none. -/
def pidOf (r : Rehearsal α) (pid : Option Pid) : Pid :=
  pid.getD (r.runner.childPid.getD 0)

/-- A step that changes the platform only. -/
def change (r : Rehearsal α) (f : Memory α → Memory α) : Rehearsed α :=
  ⟨{ r with memory := f r.memory }, .nothing, [], []⟩

/-- A step that is not taken. -/
def stay (r : Rehearsal α) (answer : StepAnswer) : Rehearsed α := ⟨r, answer, [], []⟩

/-- Carry an action of the runner out. -/
def carryOut (r : Rehearsal α) (action : Action α (Runner × StepAnswer)) : Rehearsed α :=
  let o := action.run Memory.platform r.memory
  ⟨⟨o.result.1, o.state⟩, o.result.2, o.exchanges, o.log⟩

/-- Carry a call on the runner out. -/
def call (r : Rehearsal α) (c : RunnerCall) : Rehearsed α :=
  r.carryOut do
    let (runner, answer) ← r.runner.call c
    return (runner, .answered answer)

/-- Whether there is something to read on the status pipe of the running program. -/
def isReady (r : Rehearsal α) : Bool :=
  r.runner.childPid.any fun pid => (r.memory.pipe? pid).any (·.isReady)

/-- Let the runner read the status pipe, if there is something to read or the pipe is not
watched. -/
def read (r : Rehearsal α) (otherwise : StepAnswer) : Rehearsed α :=
  if r.runner.isWatching && !r.isReady then r.stay otherwise
  else r.call .readable

/-- Whether the status pipe of a program is written to with effect. -/
def listensTo (r : Rehearsal α) (pid : Pid) : Bool :=
  r.runner.childPid == some pid && r.runner.isWatching && r.memory.canWrite pid

/-- What the program does in a part of a script. A control message is sent beside it. -/
def programPart : RunItem → ScriptItem
  | .program item => item
  | .control _ => .wait

/-- The control messages that arrive in a part of a script. -/
def controlPart : RunItem → List Control
  | .program _ => []
  | .control c => [c]

/-- The control messages before each wait. Once the script is used up, each further wait settles a
partition or ends the attempt. -/
def controlRounds (plan : InstallPlan) (controls : List Control) (script : List RunItem) :
    List (List Control) :=
  -- What is sent during one wait is handled before the next one.
  controls :: script.map controlPart ++ List.replicate (plan.partitions.length + 1) []

/-- Take a step. -/
def step (r : Rehearsal α) : RehearsalStep → Rehearsed α
  | .set setting => r.change (·.set setting)
  | .perform plan => r.call (.perform plan)
  | .status pid data read =>
    let pid := r.pidOf pid
    if r.listensTo pid then
      let written := { r with memory := r.memory.updatePipe pid (·.write data) }
      if read then written.read .nothing else written.stay .nothing
    else r.stay .closed
  | .readable => r.read .notReady
  | .poll => r.call .poll
  | .close pid => r.change (·.updatePipe (r.pidOf pid) StatusPipe.close)
  | .exit pid code => r.change (·.exit (r.pidOf pid) code)
  | .exited pid code => r.call (.exited (r.pidOf pid) code)
  | .suspend => r.call .suspend
  | .resume => r.call .resume
  | .terminate => r.call .terminate
  | .run plan controls script =>
    let scripted := { r with
      memory := { r.memory with script := some (script.map programPart) } }
    let taken := scripted.call (.run plan (controlRounds plan controls script))
    -- The script holds for this attempt alone.
    { taken with after := { taken.after with
        memory := { taken.after.memory with script := none } } }

/-- Give the runner up. -/
def finish (r : Rehearsal α) : Rehearsed α :=
  r.carryOut do return (← r.runner.shutDown, .nothing)

/-- Take steps in order and give the runner up. -/
def steps (r : Rehearsal α) : List RehearsalStep → List (Rehearsed α)
  | [] => [r.finish]
  | s :: rest => r.step s :: steps (r.step s).after rest

end Rehearsal

end SlotUpdate
