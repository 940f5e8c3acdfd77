import SlotUpdate.Boot.Call
import SlotUpdate.Boot.Memory
import SlotUpdate.Files
import SlotUpdate.Platform.Action
import SlotUpdate.Platform.Pipe

/-!
# A platform in memory

A platform for rehearsals, which does nothing outside of its own state. Every path exists unless it
is said to be missing, programs only run as far as they are told to, and any kind of call can be
made to fail. `Memory.received` records the requests that were acted on, as against those that
failed before.
-/

namespace SlotUpdate

/-- A way in which calls on the platform fail. -/
inductive Fault where
  /-- Mapping partitions. -/
  | map
  /-- Committing an update. -/
  | finish
  /-- Asking for a powerwash. -/
  | schedule
  /-- Mounting. -/
  | mount
  /-- Unmounting. -/
  | unmount
  /-- Starting a program. -/
  | spawn
  /-- Letting reads return at once. -/
  | nonblocking
  /-- Unmapping partitions, before anything is done. -/
  | unmap
  /-- Taking a powerwash back, before anything is done. -/
  | cancel
  /-- Setting the digest of the inactive slot, before anything is done. -/
  | vbmeta
  /-- Finding out whether something is mounted. -/
  | isMountPoint
  /-- Making a device read-only, before anything is done. -/
  | setReadonly
  /-- Stopping a program, before anything is done. -/
  | stop
  /-- Letting a program go on, before anything is done. -/
  | resume
  /-- Ending a program, before anything is done. -/
  | terminate
  /-- Waiting for a program. -/
  | tryWait
  /-- Reading the status pipe of a program that starts from now on. -/
  | status
  deriving Repr, DecidableEq

namespace Fault

/-- Every fault. -/
def all : List Fault :=
  [map, finish, schedule, mount, unmount, spawn, nonblocking, unmap, cancel, vbmeta, isMountPoint,
   setReadonly, stop, resume, terminate, tryWait, status]

/-- The name of a fault. -/
def name : Fault → String
  | map => "fail_map"
  | finish => "fail_finish"
  | schedule => "fail_schedule"
  | mount => "fail_mount"
  | unmount => "fail_unmount"
  | spawn => "fail_spawn"
  | nonblocking => "fail_nonblocking"
  | unmap => "fail_unmap"
  | cancel => "fail_cancel"
  | vbmeta => "fail_vbmeta"
  | isMountPoint => "fail_is_mountpoint"
  | setReadonly => "fail_set_readonly"
  | stop => "fail_stop"
  | resume => "fail_continue"
  | terminate => "fail_terminate"
  | tryWait => "fail_try_wait"
  | status => "bad_status"

/-- The fault of a name. -/
def ofName? (s : String) : Option Fault := all.find? (·.name == s)

/-- The failure of a call on a service of the platform. -/
def failed (f : Fault) : BootError := .failed f.name

/-- The failure of a call of the operating system. -/
def system (f : Fault) : SystemError := ⟨.other, f.name⟩

end Fault

/-- What a rehearsed program does while it is waited for. -/
inductive ScriptItem where
  /-- Write to the status pipe. -/
  | status (data : Bytes)
  /-- Go on running. -/
  | wait
  /-- Exit. -/
  | exit (code : Int)
  /-- Make waiting for it fail. -/
  | fail
  deriving Repr, DecidableEq

/-- The state of a platform in memory. -/
structure Memory (α : Type) where
  /-- The ways in which calls fail. -/
  faults : List Fault
  /-- The slots. -/
  slots : MemorySlots
  /-- Whether partitions that share space use snapshots. -/
  virtualAb : Bool
  /-- Whether a powerwash is asked for. -/
  powerwashScheduled : Bool
  /-- The choice of a warm reboot, if it was made. -/
  warmReset : Option Bool
  /-- The options for mounting, by the name of the partition. -/
  mountOptions : List (String × String)
  /-- The paths that name nothing. -/
  missing : List Path
  /-- Where something is mounted. -/
  mounted : List Path
  /-- The devices that are read-only. -/
  readonly : List Path
  /-- The files of the mounted partitions. -/
  files : FileTree
  /-- The number of the next program. -/
  nextPid : Pid
  /-- The status pipes by the numbers of their programs. -/
  pipes : List (Pid × StatusPipe)
  /-- The exit codes of programs. -/
  exited : List (Pid × Int)
  /-- What happens at the next waits; `none` if programs exit only when they are told to. -/
  script : Option (List ScriptItem)
  /-- The requests that were acted on, in order. -/
  received : List (Request α)

/-- A change of a platform in memory. -/
inductive MemorySetting where
  /-- Make calls fail, or not. -/
  | fault (fault : Fault) (on : Bool)
  /-- Make activating a slot fail, or not. -/
  | failSetActive (on : Bool)
  /-- Say whether partitions that share space use snapshots. -/
  | virtualAb (on : Bool)
  /-- Pretend that a slot is booted. -/
  | currentSlot (slot : Slot)
  /-- Give the options for mounting a partition. -/
  | mountOptions (partition options : String)
  /-- Let a path name nothing. -/
  | missing (path : Path)
  /-- Let something be mounted at a path. -/
  | mounted (path : Path)
  /-- Give the number of the next program. -/
  | nextPid (pid : Pid)
  deriving Repr, DecidableEq

/-! ## Sets of paths -/

namespace Path

/-- Whether a path is in a list of paths, by its components. -/
def isIn (p : Path) (paths : List Path) : Bool := paths.any p.same

/-- Add a path to a list of different paths. -/
def addTo (p : Path) (paths : List Path) : List Path :=
  if p.isIn paths then paths else paths ++ [p]

/-- Take a path away from a list of paths. -/
def removeFrom (p : Path) (paths : List Path) : List Path :=
  paths.filter fun q => !p.same q

/-- Paths in order. -/
def sort (paths : List Path) : List Path := paths.mergeSort sortsBefore

end Path

namespace Memory

variable {α : Type}

/-- The number of the first program. -/
def firstPid : Pid := 1000

/-- A platform on which nothing has happened. -/
def initial (files : FileTree) : Memory α where
  faults := []
  slots := .initial
  virtualAb := false
  powerwashScheduled := false
  warmReset := none
  mountOptions := []
  missing := []
  mounted := []
  readonly := []
  files := files
  nextPid := firstPid
  pipes := []
  exited := []
  script := none
  received := []

/-- Whether calls fail in a way. -/
def has (m : Memory α) (f : Fault) : Bool := m.faults.contains f

/-- Change a platform. -/
def set (m : Memory α) : MemorySetting → Memory α
  | .fault f on =>
    let others := m.faults.filter (· != f)
    { m with faults := if on then f :: others else others }
  | .failSetActive on => { m with slots := { m.slots with failSetActive := on } }
  | .virtualAb on => { m with virtualAb := on }
  | .currentSlot slot => { m with slots := m.slots.setCurrent slot }
  | .mountOptions partition options =>
    { m with mountOptions := (partition, options) :: m.mountOptions }
  | .missing path => { m with missing := path.addTo m.missing }
  | .mounted path => { m with mounted := path.addTo m.mounted }
  | .nextPid pid => { m with nextPid := pid }

/-- Record a request that is acted on. -/
def receive (m : Memory α) (r : Request α) : Memory α :=
  { m with received := m.received ++ [r] }

/-! ## Programs -/

/-- The status pipe of a program. -/
def pipe? (m : Memory α) (pid : Pid) : Option StatusPipe :=
  (m.pipes.find? (·.1 == pid)).map (·.2)

/-- Change the status pipe of a program, if it has one. -/
def updatePipe (m : Memory α) (pid : Pid) (f : StatusPipe → StatusPipe) : Memory α :=
  { m with pipes := m.pipes.map fun (p, q) => if p = pid then (p, f q) else (p, q) }

/-- Whether a program can write to its status pipe. -/
def canWrite (m : Memory α) (pid : Pid) : Bool :=
  (m.pipe? pid).any (·.writable)

/-- The exit code of a program that has exited. -/
def exitCode? (m : Memory α) (pid : Pid) : Option Int :=
  (m.exited.find? (·.1 == pid)).map (·.2)

/-- Let a program exit. -/
def exit (m : Memory α) (pid : Pid) (code : Int) : Memory α :=
  { m.updatePipe pid StatusPipe.close with exited := (pid, code) :: m.exited }

/-- The number after a number, within the range of process numbers. -/
def pidAfter (pid : Pid) : Pid := (Int32.ofInt (pid + 1)).toInt

/-- Start a program. -/
def spawn (m : Memory α) : Except SystemError Pid × Memory α :=
  if m.has .spawn then (.error ⟨.notFound, "Fake spawn failure"⟩, m)
  else
    let pipe := if m.has .status then StatusPipe.unreadable else .empty
    (.ok m.nextPid, { m with
      nextPid := pidAfter m.nextPid
      pipes := (m.nextPid, pipe) :: m.pipes.filter (·.1 != m.nextPid) })

/-- Act a script item of a program out. -/
def act (m : Memory α) (pid : Pid) :
    ScriptItem → Except SystemError (Option Int) × Memory α
  | .status data =>
    (.ok none, if m.canWrite pid then m.updatePipe pid (·.write data) else m)
  | .wait => (.ok none, m)
  | .exit code => (.ok (some code), m.exit pid code)
  | .fail => (.error ⟨.other, "scripted error"⟩, m)

/-- Wait for a program. -/
def tryWait (m : Memory α) (pid : Pid) : Except SystemError (Option Int) × Memory α :=
  if m.has .tryWait then (.error Fault.tryWait.system, m)
  else match m.script with
    | none => (.ok (m.exitCode? pid), m)
    | some (item :: rest) => { m with script := some rest }.act pid item
    -- After the script only an exit that was arranged before can end the wait.
    | some [] => match m.exitCode? pid with
      | some code => (.ok (some code), m)
      | none => (.error ⟨.other, "script exhausted"⟩, m)

/-- The fault that keeps a signal from being sent. -/
def signalFault : ChildSignal → Fault
  | .stop => .stop
  | .resume => .resume
  | .terminate => .terminate

/-- The exit code of a program that a signal ended. -/
def terminatedCode : Int := 143

/-! ## Replies -/

/-- Reply with the failure of a fault, or record the request and act on it. -/
def guarded {ρ : Type} (m : Memory α) (fault : Fault) (failure : ρ) (r : Request α)
    (act : Memory α → ρ × Memory α) : ρ × Memory α :=
  if m.has fault then (failure, m) else act (m.receive r)

/-- Reply to a request. -/
def reply (m : Memory α) (r : Request α) : r.Reply × Memory α :=
  match r with
  | .isVirtualAb => (m.virtualAb, m)
  | .mapAll => (if m.has .map then .error (.failed "map") else .ok (), m.receive .mapAll)
  | .unmapAll => m.guarded .unmap (.error Fault.unmap.failed) .unmapAll fun m => (.ok (), m)
  | .finishUpdate powerwash =>
    (if m.has .finish then .error (.failed "finish") else .ok (),
      m.receive (.finishUpdate powerwash))
  | .setActive slot =>
    let m := m.receive (.setActive slot)
    match m.slots.setActive slot with
    | .ok slots => (.ok (), { m with slots := slots })
    | .error e => (.error e, m)
  | .schedulePowerwash =>
    let m := m.receive .schedulePowerwash
    if m.has .schedule then (.error (.failed "schedule powerwash"), m)
    else (.ok (), { m with powerwashScheduled := true })
  | .cancelPowerwash =>
    m.guarded .cancel (.error Fault.cancel.failed) .cancelPowerwash fun m =>
      (.ok (), { m with powerwashScheduled := false })
  | .warmReset on => ((), { m.receive (.warmReset on) with warmReset := some on })
  | .vbmetaDigest reset =>
    m.guarded .vbmeta (.error Fault.vbmeta.failed) (.vbmetaDigest reset) fun m => (.ok (), m)
  | .mountOptions partition =>
    (((m.mountOptions.find? (·.1 == partition)).map (·.2)).getD "", m)
  | .pathExists path => (!path.isIn m.missing, m)
  | .isMountPoint path =>
    (if m.has .isMountPoint then .error Fault.isMountPoint.system
      else .ok (path.isIn m.mounted), m)
  | .setReadonly device on =>
    m.guarded .setReadonly (.error Fault.setReadonly.system) (.setReadonly device on) fun m =>
      (.ok (), { m with
        readonly := if on then device.addTo m.readonly else device.removeFrom m.readonly })
  | .mount device mountPoint filesystem options =>
    let m := m.receive (.mount device mountPoint filesystem options)
    if m.has .mount then (.error ⟨.other, "Fake mount failure"⟩, m)
    else (.ok (), { m with mounted := mountPoint.addTo m.mounted })
  | .unmount mountPoint =>
    let m := m.receive (.unmount mountPoint)
    if m.has .unmount then (.error ⟨.other, "Fake unmount failure"⟩, m)
    else (.ok (), { m with mounted := mountPoint.removeFrom m.mounted })
  | .readText path => ((m.files.readText path).toOption, m)
  | .readProgram path => ((m.files.read path).toOption, m)
  | .spawn argv statusFd => (m.receive (.spawn argv statusFd)).spawn
  | .setNonblocking _ => (if m.has .nonblocking then .error .notTerminal else .ok (), m)
  | .awaitStatus pid => (.ok ((m.pipe? pid).any (·.isReady)), m)
  | .pause => ((), m)
  | .readStatus pid once =>
    match m.pipe? pid with
    | none => ([], m)
    | some pipe =>
      let (reads, pipe) := pipe.read once
      (reads, m.updatePipe pid fun _ => pipe)
  | .tryWait pid => m.tryWait pid
  | .signal pid s =>
    m.guarded (signalFault s) (.error (signalFault s).system) (.signal pid s) fun m =>
      -- A program in memory always gives in to the signal to end.
      (.ok (), if s = .terminate then m.exit pid terminatedCode else m)
  | .release pid => ((), m.receive (.release pid))
  | .progress share => ((), m.receive (.progress share))
  | .complete code => ((), m.receive (.complete code))

/-- The platform, which logs nothing. -/
def platform : Platform α (Memory α) := ⟨fun r m => ⟨m.reply r, []⟩⟩

/-! ## Calls -/

/-- The answer of a call that answers nothing but a failure. -/
def answerOf (outcome : Except BootError Unit) : BootAnswer :=
  .ofResult (outcome.map fun () => .done)

/-- Answer a call on the slots or on a service of the platform. -/
def answer (m : Memory α) : BootCall → BootAnswer × Memory α
  | .numSlots => (.ofResult (.ok (.number m.slots.count)), m)
  | .currentSlot => (.ofResult (.ok (.number m.slots.current)), m)
  | .activeSlot => (.ofResult (.ok (.number m.slots.active)), m)
  | .device name slot => (.ofResult ((m.slots.device name slot).map .device), m)
  | .isBootable slot => (.ofResult ((m.slots.isBootable slot).map .flag), m)
  | .isSuccessful slot => (.ofResult ((m.slots.isSuccessful slot).map .flag), m)
  | .markUnbootable slot =>
    match m.slots.markUnbootable slot with
    | .ok slots => (.ofResult (.ok .done), { m with slots := slots })
    | .error e => (.ofResult (.error e), m)
  | .markSuccessful => (⟨.ok .done, some true⟩, { m with slots := m.slots.markSuccessful })
  | .setActive slot =>
    let (outcome, m) := m.reply (.setActive slot)
    (answerOf outcome, m)
  | .isVirtualAb => (.ofResult (.ok (.flag m.virtualAb)), m)
  | .mapAll =>
    let (outcome, m) := m.reply .mapAll
    (answerOf outcome, m)
  | .unmapAll =>
    let (outcome, m) := m.reply .unmapAll
    (answerOf outcome, m)
  | .finishUpdate powerwash =>
    let (outcome, m) := m.reply (.finishUpdate powerwash)
    (answerOf outcome, m)
  | .schedulePowerwash =>
    let (outcome, m) := m.reply .schedulePowerwash
    (answerOf outcome, m)
  | .cancelPowerwash =>
    let (outcome, m) := m.reply .cancelPowerwash
    (answerOf outcome, m)
  | .mountOptions partition =>
    let (options, m) := m.reply (.mountOptions partition)
    (.ofResult (.ok (.text options)), m)
  | .warmReset on =>
    let ((), m) := m.reply (.warmReset on)
    (.ofResult (.ok .done), m)
  | .vbmetaDigest reset =>
    let (outcome, m) := m.reply (.vbmetaDigest reset)
    (answerOf outcome, m)

end Memory

end SlotUpdate
