import SlotUpdate.Mount.BuildInfo
import SlotUpdate.Mount.FileFormat
import SlotUpdate.Postinstall.Runner
import SlotUpdate.Progress.Line

/-!
# Attempts

An attempt starts with `Runner.perform` and goes on with what happens to the running program:
`Runner.onReadable` when its status pipe can be read and `Runner.onExited` when it exits. Both
`perform` and `onExited` go through the partitions that are left (`Runner.runPartitions`) up to the
next one whose program starts, or to the end of the attempt.
-/

namespace SlotUpdate.Runner

variable {α : Type} [ProgressNumber α]

/-- The messages about a program that exited with `code`, or could not run. -/
def exitLog (p : Partition) (code : Int) (message : String) : List LogLine :=
  if code = 0 then [.info s!"Postinstall for {p.name} succeeded"]
  else
    .error s!"Postinstall for {p.name} failed: {message}" ::
      if p.optional then
        [.warn ("Ignoring postinstall failure (" ++ (ErrorCode.ofExitCode code).name ++
          ") since it is optional")]
      else []

/-- Leave the current partition after its program exited with `code`, or could not run, which
counts as code one. A failure ends the attempt unless it is ignored. Says whether the attempt goes
on. -/
def leavePartition (r : Runner) (p : Partition) (code : Int) (message : String) :
    Action α (Runner × Bool) := do
  -- The partition is unmounted before anything is decided on its exit code.
  let r ← cleanUp { r with stage := .partitionComplete }
  Action.tellAll (exitLog p code message)
  if code == 0 || p.optional then
    -- Progress stands at the beginning of the next partition.
    let r := { r.advance with stage := .nextPartition }
    r.reportProgress (ProgressNumber.zero : α)
    return (r, true)
  else
    return (← r.completeAttempt (.ofExitCode code), false)

/-- Mount a partition. -/
def mountPartition (r : Runner) (p : Partition) : Action α (Runner × Except MountError Unit) := do
  let r := { r with stage := .mountingPartition }
  let options ← Action.request (.mountOptions p.name)
  match ← ScopedMount.acquire p.readonlyTarget r.config.mountDir p.filesystem options with
  | .error e => return (r, .error e)
  | .ok m => return ({ r with mount := some m }, .ok ())

/-- Log the build properties in the mount directory, from the given files. -/
def logBuildInfo (r : Runner) (name : String) : List Path → Action α Unit
  | [] => return ()
  | file :: rest => do
    let text ← Action.request (.readText (r.config.mountDir.join file))
    Action.tellAll (BuildInfo.logLines name text)
    logBuildInfo r name rest

/-- What a program is started with: itself, the slot that was written, the number of its status
pipe, and a one if the plan is a triggered one. -/
def programArguments (r : Runner) (program : Path) : List String :=
  [program.text, toString r.plan.targetSlot.toNat, toString r.config.statusFd] ++
    if r.plan.isTriggered then ["1"] else []

/-- Start the program of a mounted partition. Says whether it runs. -/
def launch (r : Runner) (p : Partition) (program : Path) : Action α (Runner × Bool) := do
  let contents ← Action.request (.readProgram program)
  Action.tell
    (.info s!"Format of postinstall program {program.quote}: {FileFormat.describe contents}")
  let argv := r.programArguments program
  let r := { r with stage := .runningPostinstall }
  Action.tell (.info s!"Running postinstall for {p.name}: {Text.quoteList argv}")
  match ← Action.request (.spawn argv r.config.statusFd) with
  | .error e =>
    Action.tell (.error s!"Failed to launch postinstall program for {p.name}: {e.text}")
    return (r, false)
  | .ok pid =>
    -- A number that is not positive stands for no single program and cannot be sent signals.
    if 0 < pid then
      match ← Action.request (.setNonblocking pid) with
      | .error e =>
        Action.tell (.warn ("Unable to set status pipe as non-blocking: " ++ e.text))
        -- The pipe is then read once at a time, so that a read never waits for more.
        return ({ r with child := some ⟨pid, true, false⟩, stage := .monitoringProgress }, true)
      | .ok () =>
        return ({ r with child := some ⟨pid, true, true⟩, stage := .monitoringProgress }, true)
    else
      Action.tell (.error s!"Postinstall program for {p.name} returned invalid pid {pid}")
      return (r, false)

/-- Mount a partition and start its program. Says whether the attempt goes on with the next
partition. -/
def startPartition (r : Runner) (p : Partition) : Action α (Runner × Bool) := do
  -- A path that leads out of the partition is refused before anything is mounted.
  match programPath r.config.mountDir p.program with
  | .error e =>
    Action.tell (.error s!"Invalid postinstall program for {p.name}: {e.message}")
    return (← r.completeAttempt e.errorCode, false)
  | .ok program =>
    let (r, mounted) ← r.mountPartition p
    match mounted with
    | .error e =>
      Action.tell (.error s!"Failed to mount {p.name}: {e.message}")
      return (← r.completeAttempt e.errorCode, false)
    | .ok () =>
      r.logBuildInfo p.name BuildInfo.files
      let (r, runs) ← r.launch p program
      if runs then return (r, false)
      else r.leavePartition p 1 "Postinstall didn't launch"

/-- Unmount the mounted partition and report a failure. -/
def releaseMount (r : Runner) : Action α (Runner × Except MountError Unit) :=
  match r.mount with
  | none => return (r, .ok ())
  | some m => do return ({ r with mount := none }, ← m.unmount)

/-- Mount a partition whose program does not run, to find faults of its filesystem, and unmount it.
Says whether the attempt goes on with the next partition. -/
def probePartition (r : Runner) (p : Partition) : Action α (Runner × Bool) := do
  Action.tell (.info s!"Mounting {p.name} without running postinstall")
  let (r, mounted) ← r.mountPartition p
  match mounted with
  | .error e =>
    Action.tell (.error s!"Failed to mount {p.name}: {e.message}")
    return (← r.completeAttempt e.errorCode, false)
  | .ok () =>
    r.logBuildInfo p.name BuildInfo.files
    let (r, released) ← r.releaseMount
    match released with
    -- A partition that cannot be unmounted counts as a program that failed.
    | .error e => r.leavePartition p 1 e.message
    | .ok () => return (r.advance, true)

/-- Deal with one partition up to the start of its program, if that runs. Says whether the attempt
goes on with the next partition. -/
def enterPartition (r : Runner) (p : Partition) : Action α (Runner × Bool) :=
  if p.runs then r.startPartition p
  else if p.program = "" then return (r.advance, true)
  else r.probePartition p

/-- Go through partitions up to the next one whose program starts, or to the end of the attempt. -/
def runPartitions (r : Runner) : List Partition → Action α Runner
  | [] => r.completeAttempt .success
  | p :: rest => do
    let (r, goesOn) ← r.enterPartition p
    if goesOn then runPartitions r rest else return r

/-- Go through the partitions that are left. Without a source of the payload there is nothing to
run. -/
def proceed (r : Runner) : Action α Runner :=
  if r.plan.downloadUrl = "" then do
    Action.tell (.info "Skipping postinstall because there is no download source")
    r.completeAttempt .success
  else r.runPartitions (r.plan.partitions.drop r.cursor)

/-! ## Starting -/

/-- Whether the partitions that share space must be mapped for a plan. -/
def needsMapping (r : Runner) : Bool :=
  !r.config.recovery && (!r.plan.partitions.isEmpty || r.plan.switchSlot)

/-- Map the partitions that share space, if there are any and it is needed. -/
def mapPartitions (r : Runner) : Action α (Except BootError Unit) := do
  match ← Action.request .isVirtualAb with
  | true => if r.needsMapping then Action.request .mapAll else return .ok ()
  | false => return .ok ()

/-- Ask for the powerwash that a plan calls for. -/
def schedulePowerwash (r : Runner) : Action α (Runner × Except BootError Unit) :=
  if r.plan.powerwashRequired then do
    match ← Action.request .schedulePowerwash with
    | .error e => return (r, .error e)
    | .ok () => return ({ r with powerwashScheduled := true }, .ok ())
  else return (r, .ok ())

/-- Whether a plan lets the program of a partition be skipped. -/
def isSkipped (plan : InstallPlan) (p : Partition) : Bool :=
  !plan.runPostinstall && p.optional

/-- A plan in which the programs that may be skipped do not run. -/
def withoutSkipped (plan : InstallPlan) : InstallPlan :=
  { plan with
    partitions := plan.partitions.map fun p =>
      if isSkipped plan p then { p with runs := false } else p }

/-- The messages about skipped programs. -/
def skipLog (plan : InstallPlan) : List LogLine :=
  (plan.partitions.filter (isSkipped plan)).map fun p =>
    .info ("Skipping optional postinstall for " ++ p.name)

/-- The runner at the first partition. Only programs that run count for the progress. -/
def atFirstPartition (r : Runner) : Runner :=
  let plan := withoutSkipped r.plan
  { r with
    plan := plan
    -- No plan has as many partitions as a word can count, so the sum does not overflow.
    progress := .ofWeights (plan.partitions.map fun p => if p.runs then 1 else 0)
    cursor := 0 }

/-- Prepare the attempt and go through the partitions. -/
def begin (r : Runner) : Action α Runner := do
  match ← r.mapPartitions with
  | .error e =>
    Action.tell (.error ("Failed to map all partitions: " ++ e.message))
    r.completeAttempt .postInstallMountError
  | .ok () =>
    let (r, scheduled) ← r.schedulePowerwash
    match scheduled with
    | .error e =>
      Action.tell (.error ("Failed to schedule powerwash: " ++ e.message))
      r.completeAttempt .postinstallPowerwashError
    | .ok () =>
      -- Weights count programs that run, so the skipped ones are taken out first.
      Action.tellAll (skipLog r.plan)
      let r := r.atFirstPartition
      r.reportProgress (ProgressNumber.zero : α)
      r.proceed

/-- Start an attempt. A runner makes one attempt only. -/
def perform (r : Runner) (plan : InstallPlan) : Action α (Except RunnerError Runner) :=
  if r.stage ≠ .idle then return .error .alreadyUsed
  else do
    Action.tellAll plan.log
    return .ok (← begin { r with plan := plan, stage := .initializing })

/-! ## Events -/

/-- What the reads of a status pipe gave. -/
structure Drained where
  /-- The beginning of the next line. -/
  buffer : LineBuffer
  /-- The lines that ended. -/
  lines : List String
  /-- Whether the pipe is not watched any more. -/
  stops : Bool
  /-- The messages. -/
  log : List LogLine

/-- Take the results of reads in order, up to the first that ends a turn: with `once`, that is the
first with data. -/
def drain (once : Bool) (b : LineBuffer) : List StatusRead → Drained
  | [] | .wouldBlock :: _ => ⟨b, [], false, []⟩
  | .closed :: _ => ⟨b, [], true, [.debug "Status pipe reached EOF"]⟩
  | .failed e :: _ => ⟨b, [], true, [.warn ("Failed to read status pipe: " ++ e.text)]⟩
  | .interrupted :: rest => drain once b rest
  | .data bytes :: rest =>
    let pushed := b.push bytes
    if once then ⟨pushed.buffer, pushed.lines, false, pushed.log⟩
    else
      let after := drain once pushed.buffer rest
      { after with lines := pushed.lines ++ after.lines, log := pushed.log ++ after.log }

/-- Report the progress that a line tells, if it does. -/
def reportLine (r : Runner) (line : String) : Action α Unit :=
  match ProgressLine.read? line with
  | some literal => r.reportProgress (ProgressNumber.ofLiteral literal : α)
  | none => Action.tell (.debug ("Unhandled status line: " ++ Text.quote line))

/-- Report the progress that lines tell. -/
def reportLines (r : Runner) : List String → Action α Unit
  | [] => return ()
  | line :: rest => do
    r.reportLine line
    reportLines r rest

/-- Read what a program has written to its status pipe. -/
def readChild (r : Runner) (c : RunningChild) : Action α Runner := do
  let reads ← Action.request (.readStatus c.pid (!c.nonblocking))
  -- Lines are reported after the whole turn was read.
  let drained := drain (!c.nonblocking) r.lines reads
  Action.tellAll drained.log
  let r := { r with
    lines := drained.buffer
    child := some { c with watched := !drained.stops } }
  r.reportLines drained.lines
  return r

/-- The status pipe of the running program can be read. -/
def onReadable (r : Runner) : Action α Runner :=
  match r.child with
  | none => return r
  | some c => if c.watched then r.readChild c else return r

/-- A program exited. Exits of other programs than the running one do not matter. -/
def onExited (r : Runner) (pid : Pid) (code : Int) : Action α Runner :=
  if r.childPid = some pid then
    match r.partition? with
    | none => return r
    | some p => do
      let (r, goesOn) ← r.leavePartition p code s!"Exited with status {code}"
      if goesOn then r.proceed else return r
  else do
    Action.tell (.debug s!"Ignoring exit of stale pid {pid}")
    return r

end SlotUpdate.Runner
