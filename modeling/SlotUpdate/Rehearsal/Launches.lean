import SlotUpdate.Platform.Launcher

/-!
# Rehearsals of a launcher

A launcher is driven step by step: programs are started, waited for, sent signals and released, and
their status pipes are read. Programs are counted in the order in which they were started.
-/

namespace SlotUpdate

/-- A step with a launcher. -/
inductive LaunchStep where
  /-- Start a program. -/
  | spawn (argv : List String) (statusFd : Int)
  /-- Read a status pipe to its end. -/
  | read (child : Nat)
  /-- Read a line of a status pipe. -/
  | readLine (child : Nat)
  /-- Let reads of a status pipe return at once. -/
  | setNonblocking (child : Nat)
  /-- Do not read a status pipe any more. -/
  | closeStatus (child : Nat)
  /-- Ask for the exit code of a program. -/
  | tryWait (child : Nat)
  /-- Wait for the exit code of a program. -/
  | wait (child : Nat)
  /-- Send a signal to a program. -/
  | signal (child : Nat) (signal : ChildSignal)
  /-- Forget a program. -/
  | release (child : Nat)
  /-- Ask for the exit code of a process. -/
  | tryWaitPid (pid : Pid)
  /-- Forget a process. -/
  | releasePid (pid : Pid)
  /-- Send a signal to no process. -/
  | signalNone (signal : ChildSignal)
  deriving Repr, DecidableEq

/-- What a step with a launcher gives. -/
inductive LaunchAnswer where
  /-- Nothing to tell. -/
  | nothing
  /-- A program was started. -/
  | spawned
  /-- What was read. -/
  | text (s : String)
  /-- There is nothing to read for now. -/
  | wouldBlock
  /-- An exit code. -/
  | code (n : Int)
  /-- The program is not waited for any more. -/
  | untracked
  /-- The call failed. -/
  | failed (cause : SystemError)
  deriving Repr, DecidableEq

namespace Launcher

/-- The number of a program that was started. -/
def pidOf (child : Nat) : Pid := firstPid + child

/-- Read from a status pipe what `cut` takes off what is pending there. -/
def readPipe (l : Launcher) (pid : Pid) (ready : LaunchedProgram → Bool)
    (cut : Bytes → Nat) : Logged (LaunchAnswer × Launcher) := do
  let blocks := (l.program? pid).any fun p => !p.nonblocking
  let l ← if blocks then l.waitUntil fun l => (l.program? pid).all ready else pure l
  match l.program? pid with
  | none => return (.nothing, l)
  | some p =>
    -- An empty pipe that is still written to differs from one at its end.
    if p.pipe.pending = [] ∧ p.pipe.writable then return (.wouldBlock, l)
    else
      let n := cut p.pipe.pending
      let l := l.update pid fun p =>
        { p with pipe := { p.pipe with pending := p.pipe.pending.drop n } }
      return (.text (Utf8.decodeLossy (p.pipe.pending.take n)), l)

/-- How many bytes the first line has, with its newline. -/
def lineLength (bytes : Bytes) : Nat :=
  min bytes.length ((bytes.takeWhile (· != 10)).length + 1)

/-- The answer of asking for an exit code. -/
def waitAnswer : Except SystemError (Option Int) × Launcher → LaunchAnswer × Launcher
  | (.ok (some code), l) => (.code code, l)
  | (.ok none, l) => (.nothing, l)
  | (.error _, l) => (.untracked, l)

/-- The answer of a call that answers nothing but a failure. -/
def callAnswer : Except SystemError Unit → LaunchAnswer
  | .ok () => .nothing
  | .error e => .failed e

/-- Take a step. -/
def step (l : Launcher) : LaunchStep → Logged (LaunchAnswer × Launcher)
  | .spawn argv statusFd => do
    match ← l.spawn argv statusFd with
    | (.ok _, l) => return (.spawned, l)
    | (.error e, l) => return (.failed e, l)
  | .read child => l.readPipe (pidOf child) (fun p => !p.pipe.writable) List.length
  | .readLine child =>
    l.readPipe (pidOf child) (fun p => p.hasLine || !p.pipe.writable) lineLength
  | .setNonblocking child =>
    pure (.nothing, Launcher.setNonblocking l (pidOf child))
  | .closeStatus child =>
    pure (.nothing, l.update (pidOf child) fun p => { p with heard := false })
  | .tryWait child => pure (waitAnswer (l.tryWait (pidOf child)))
  | .wait child => do
    let l ← l.waitUntil fun l =>
      (l.program? (pidOf child)).all fun p => !p.tracked || p.session.ended.isSome
    return waitAnswer (l.tryWait (pidOf child))
  | .signal child s => do
    let (outcome, l) ← l.signal (pidOf child) s
    return (callAnswer outcome, l)
  | .release child => pure (.nothing, l.release (pidOf child))
  | .tryWaitPid pid =>
    match l.tryWait pid with
    | (.error e, l) => pure (.failed e, l)
    | answer => pure (waitAnswer answer)
  | .releasePid pid => pure (.nothing, l.release pid)
  | .signalNone s => do
    let (outcome, l) ← l.signal 0 s
    return (callAnswer outcome, l)

/-- Take steps in order, and then wait for every program to end. -/
def steps (l : Launcher) : List LaunchStep → Logged (List LaunchAnswer)
  | [] => do
    let _ ← l.finishAll
    return []
  | s :: rest => do
    let (answer, l) ← l.step s
    return answer :: (← steps l rest)

end Launcher

end SlotUpdate
