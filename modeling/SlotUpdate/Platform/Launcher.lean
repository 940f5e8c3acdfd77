import SlotUpdate.Log
import SlotUpdate.Platform.Pipe
import SlotUpdate.Shell.Step

/-!
# Launching programs

A launcher starts programs, which then run beside each other under a clock that only moves while
somebody waits. What a program prints is logged line by line under its name, and what it writes to
its status pipe waits there until it is read.
-/

namespace SlotUpdate

open Shell (Session Surroundings Channel Program)

/-- A program that was started. -/
structure LaunchedProgram where
  /-- The name that it was started with. -/
  name : String
  /-- The program. -/
  session : Session
  /-- What it printed of its next line. -/
  line : Bytes
  /-- Its status pipe. -/
  pipe : StatusPipe
  /-- Whether its status pipe is still read. -/
  heard : Bool
  /-- Whether reads of its status pipe return at once. -/
  nonblocking : Bool
  /-- Whether it will be waited for. -/
  tracked : Bool

namespace LaunchedProgram

/-- The lines in what a program printed, and the beginning of the next one. -/
def splitLines (bytes : Bytes) : List Bytes × Bytes :=
  let pieces := bytes.splitOn 10
  (pieces.dropLast, pieces.getLast?.getD [])

/-- The message about a printed line. -/
def lineLog (name : String) (line : Bytes) : LogLine :=
  .info s!"{name}: {Utf8.decodeLossy line}"

/-- Take over what the program wrote since it was looked at. Once it has ended, its last line counts
without a newline, and it cannot write to its status pipe any more. -/
def collect (p : LaunchedProgram) : Logged LaunchedProgram :=
  let sent (target : Channel) : Bytes :=
    (p.session.written.map fun (c, bytes) => if c = target then bytes else []).flatten
  let (complete, line) := splitLines (p.line ++ sent .output)
  -- The rest of a line is kept for the next look.
  let ended := p.session.ended.isSome
  let lines := if ended ∧ line ≠ [] then complete ++ [line] else complete
  let pipe := p.pipe.write (sent .status)
  let writable := p.session.descriptors.any (·.2 == .status)
  ⟨{ p with
      session := { p.session with written := [] }
      line := if ended then [] else line
      pipe := if writable then pipe else pipe.close },
    lines.map (lineLog p.name)⟩

/-- Let the program run until it is at rest. -/
def settle (p : LaunchedProgram) (files : FileTree) (now : Nat) : Logged LaunchedProgram :=
  collect { p with session := p.session.settle ⟨files, now, p.heard⟩ }

/-- Until when the program sleeps, if it does and is not stopped. -/
def wakes? (p : LaunchedProgram) : Option Nat :=
  if p.session.stopped then none else p.session.wakes

/-- Whether the program can still be sent signals: it has not ended, or it will be waited for. -/
def isKnown (p : LaunchedProgram) : Bool :=
  p.tracked || p.session.ended.isNone

/-- Whether the status pipe holds the end of a line. -/
def hasLine (p : LaunchedProgram) : Bool :=
  p.pipe.pending.contains 10

end LaunchedProgram

/-- A launcher and its programs. -/
structure Launcher where
  /-- The files. -/
  files : FileTree
  /-- The time in microseconds. -/
  now : Nat
  /-- The number of the next program. -/
  nextPid : Pid
  /-- The programs by their numbers, in the order in which they were started. -/
  programs : List (Pid × LaunchedProgram)

namespace Launcher

/-- The number of the first program. -/
def firstPid : Pid := 1

/-- A launcher that has started nothing. -/
def initial (files : FileTree) : Launcher := ⟨files, 0, firstPid, []⟩

/-- A program by its number. -/
def program? (l : Launcher) (pid : Pid) : Option LaunchedProgram :=
  (l.programs.find? (·.1 == pid)).map (·.2)

/-- Change a program. -/
def update (l : Launcher) (pid : Pid) (f : LaunchedProgram → LaunchedProgram) : Launcher :=
  { l with programs := l.programs.map fun (p, q) => if p = pid then (p, f q) else (p, q) }

/-- Let programs run until each is at rest. -/
def settleAll (files : FileTree) (now : Nat) :
    List (Pid × LaunchedProgram) → Logged (List (Pid × LaunchedProgram))
  | [] => pure []
  | (pid, p) :: rest => do
    let p ← p.settle files now
    return (pid, p) :: (← settleAll files now rest)

/-- Let every program run until it is at rest. -/
def settle (l : Launcher) : Logged Launcher := do
  return { l with programs := ← settleAll l.files l.now l.programs }

/-! ## Time -/

/-- When the next program wakes up. -/
def nextWake? (l : Launcher) : Option Nat :=
  (l.programs.filterMap (·.2.wakes?)).min?

/-- How many times programs wake up at most while somebody waits. -/
def maxWakes : Nat := 100000

/-- Let time pass until something is the case or a deadline is reached. The number bounds how often
programs wake up; without a deadline waiting also ends when no program sleeps. -/
def waitFor (goal : Launcher → Bool) (deadline : Option Nat) : Nat → Launcher → Logged Launcher
  | 0, l => pure l
  | fuel + 1, l =>
    -- The clock moves from one wake-up to the next, never past the deadline.
    if goal l then pure l
    else match l.nextWake?, deadline with
      | none, none => pure l
      | none, some limit => pure { l with now := max l.now limit }
      | some wake, none => do waitFor goal none fuel (← settle { l with now := max l.now wake })
      | some wake, some limit =>
        if limit < wake then pure { l with now := max l.now limit }
        else do waitFor goal deadline fuel (← settle { l with now := max l.now wake })

/-- Let time pass until something is the case. -/
def waitUntil (l : Launcher) (goal : Launcher → Bool) : Logged Launcher :=
  waitFor goal none maxWakes l

/-- Let time pass until something is the case, but not longer than for a number of microseconds. -/
def waitAtMost (l : Launcher) (time : Nat) (goal : Launcher → Bool) : Logged Launcher :=
  waitFor goal (some (l.now + time)) maxWakes l

/-- Let time pass until every program has ended. -/
def finishAll (l : Launcher) : Logged Launcher :=
  l.waitUntil fun l => l.programs.all (·.2.session.ended.isSome)

/-! ## Calls -/

/-- The descriptors of a program at its start. -/
def startDescriptors (statusFd : Nat) : Shell.Descriptors :=
  (statusFd, .status) :: [(0, .nothing), (1, .output), (2, .output)].filter (·.1 != statusFd)

/-- The program that is to be started, and the number of its status pipe. -/
def check (l : Launcher) (argv : List String) (statusFd : Int) :
    Except SystemError (String × List String × Program × Nat) := do
  match argv with
  | [] => throw ⟨.invalidInput, "Empty argv"⟩
  | name :: arguments =>
    if argv.any (·.toList.contains '\x00') then throw .nulInArgument
    -- The descriptor is refused after the arguments, as it is set up in the started process.
    if statusFd < 0 then throw .badDescriptor
    return (name, arguments, ← Program.find l.files name, statusFd.toNat)

/-- Start a program. -/
def spawn (l : Launcher) (argv : List String) (statusFd : Int) :
    Logged (Except SystemError Pid × Launcher) :=
  match l.check argv statusFd with
  | .error e => pure (.error e, l)
  | .ok (name, arguments, program, fd) => do
    let session := (Session.new l.nextPid name [] (startDescriptors fd) []).become l.files
      program name arguments
    let launched ← LaunchedProgram.settle ⟨name, session, [], .empty, true, false, true⟩ l.files
      l.now
    return (.ok l.nextPid, { l with
      nextPid := l.nextPid + 1
      programs := l.programs ++ [(l.nextPid, launched)] })

/-- The exit code of a program, if it has ended. It is told only once. -/
def tryWait (l : Launcher) (pid : Pid) : Except SystemError (Option Int) × Launcher :=
  match (l.program? pid).filter (·.tracked) with
  | none => (.error ⟨.notFound, s!"Unknown pid: {pid}"⟩, l)
  | some p => match p.session.ended with
    | none => (.ok none, l)
    | some code => (.ok (some code), l.update pid fun p => { p with tracked := false })

/-- The signal that a request for a signal sends. -/
def signalOf : ChildSignal → Shell.Signal
  | .stop => Shell.Signal.stop
  | .resume => Shell.Signal.resume
  | .terminate => Shell.Signal.terminate

/-- Send a signal to a program. -/
def signal (l : Launcher) (pid : Pid) (s : ChildSignal) :
    Logged (Except SystemError Unit × Launcher) :=
  if pid = 0 then pure (.error ⟨.invalidInput, "Invalid pid"⟩, l)
  else if (l.program? pid).any (·.isKnown) then do
    let l ← (l.update pid fun p =>
      { p with session := p.session.deliver (signalOf s) }).settle
    return (.ok (), l)
  else pure (.error .noProcess, l)

/-- Forget a program that will not be waited for. -/
def release (l : Launcher) (pid : Pid) : Launcher :=
  l.update pid fun p => { p with tracked := false }

/-- Whether reading a status pipe does not have to wait. -/
def isReady (l : Launcher) (pid : Pid) : Bool :=
  (l.program? pid).any (·.pipe.isReady)

/-- Read a status pipe once, or until a read finds nothing. -/
def readStatus (l : Launcher) (pid : Pid) (once : Bool) : List StatusRead × Launcher :=
  match l.program? pid with
  | none => ([], l)
  | some p =>
    let (reads, pipe) := p.pipe.read once
    (reads, l.update pid fun p => { p with pipe := pipe })

/-- Let reads of a status pipe return at once. -/
def setNonblocking (l : Launcher) (pid : Pid) : Launcher :=
  l.update pid fun p => { p with nonblocking := true }

/-- Wait for a status pipe, at most for a number of microseconds, and say whether it can be read. -/
def awaitStatus (l : Launcher) (time : Nat) (pid : Pid) :
    Logged (Except SystemError Bool × Launcher) := do
  let l ← l.waitAtMost time (·.isReady pid)
  return (.ok (l.isReady pid), l)

/-- Wait for a number of microseconds. -/
def pause (l : Launcher) (time : Nat) : Logged (Unit × Launcher) := do
  return ((), ← l.waitAtMost time fun _ => false)

end Launcher

end SlotUpdate
