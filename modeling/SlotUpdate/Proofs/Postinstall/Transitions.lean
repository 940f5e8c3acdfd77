import SlotUpdate.Postinstall.History
import SlotUpdate.Proofs.Action.Ensures

/-!
# Transitions of a runner

What each step of a runner can exchange with the platform, and what the runner is afterwards, as
relations. `Ends` is the end of an attempt, `Leaves` the end of a partition, `Enters` everything up
to the start of a partition's program, and `Proceeds` goes from partition to partition. `Move` is
one happening at a runner that waits, and `Moves` a run of them. Nothing is assumed of the replies:
where a step goes on differently after different replies, the relation has a case for each.

That the steps of `Runner` follow these relations is shown in `Paths`; whatever holds in every
history is derived from the relations alone.
-/

namespace SlotUpdate

variable {α : Type}

/-- The plan that a call is to start an attempt with. -/
def RunnerCall.plan? : RunnerCall → Option InstallPlan
  | .perform plan | .run plan _ => some plan
  | _ => none

/-- Whether a call can cancel an attempt. -/
def RunnerCall.mayCancel : RunnerCall → Bool
  | .run _ controls => controls.any (·.contains .cancel)
  | .terminate => true
  | _ => false

/-- The plan of the attempt that calls make: the first that they are to start one with. -/
def RunnerCall.firstPlan (cs : List RunnerCall) : Option InstallPlan := cs.findSome? (·.plan?)

/-- Something that is recorded of a runner: a call on it, or an exchange with the platform. -/
inductive Event (α : Type) where
  /-- The runner was called. -/
  | called (c : RunnerCall)
  /-- The runner asked for something. -/
  | asked (x : Exchange α)

namespace Event

/-- The plan that an event is to start an attempt with. -/
def plan? : Event α → Option InstallPlan
  | called c => c.plan?
  | asked _ => none

/-- The plan of the attempt that a record tells of. -/
def firstPlan (es : List (Event α)) : Option InstallPlan := es.findSome? (·.plan?)

/-- An empty record tells of no attempt. -/
@[simp]
theorem firstPlan_nil : firstPlan ([] : List (Event α)) = none := rfl

/-- The first plan of a record is that of its first part, or else that of its second. -/
@[simp]
theorem firstPlan_append (es fs : List (Event α)) :
    firstPlan (es ++ fs) = (firstPlan es).or (firstPlan fs) := List.findSome?_append

/-- Exchanges start no attempt. -/
@[simp]
theorem firstPlan_map_asked (xs : List (Exchange α)) : firstPlan (xs.map asked) = none := by
  unfold firstPlan
  rw [List.findSome?_eq_none_iff]
  intro e he
  obtain ⟨x, -, rfl⟩ := List.mem_map.mp he
  rfl

/-- An exchange starts no attempt. -/
@[simp]
theorem firstPlan_asked_cons (x : Exchange α) (es : List (Event α)) :
    firstPlan (asked x :: es) = firstPlan es := rfl

/-- A call starts an attempt if it comes with a plan. -/
@[simp]
theorem firstPlan_called_cons (c : RunnerCall) (es : List (Event α)) :
    firstPlan (called c :: es) = c.plan?.or (firstPlan es) := by
  unfold firstPlan
  rw [List.findSome?_cons]
  cases hc : c.plan? <;> simp [plan?, hc]

/-- The exchanges of a record. -/
def exchanges (es : List (Event α)) : List (Exchange α) :=
  es.filterMap fun
    | called _ => none
    | asked x => some x

/-- An empty record has no exchanges. -/
@[simp]
theorem exchanges_nil : exchanges ([] : List (Event α)) = [] := rfl

/-- A call is no exchange. -/
@[simp]
theorem exchanges_called_cons (c : RunnerCall) (es : List (Event α)) :
    exchanges (called c :: es) = exchanges es := rfl

/-- What was asked is an exchange. -/
@[simp]
theorem exchanges_asked_cons (x : Exchange α) (es : List (Event α)) :
    exchanges (asked x :: es) = x :: exchanges es := rfl

/-- The exchanges of a record are those of its parts. -/
@[simp]
theorem exchanges_append (es fs : List (Event α)) :
    exchanges (es ++ fs) = exchanges es ++ exchanges fs := List.filterMap_append

/-- A record of exchanges has these. -/
@[simp]
theorem exchanges_map_asked (xs : List (Exchange α)) : exchanges (xs.map asked) = xs := by
  induction xs with
  | nil => rfl
  | cons x xs ih => simp [ih]

/-- The exchanges of a record are what was asked in it. -/
theorem mem_exchanges {x : Exchange α} {es : List (Event α)} : x ∈ exchanges es ↔ asked x ∈ es := by
  unfold exchanges
  rw [List.mem_filterMap]
  constructor
  · rintro ⟨e, he, heq⟩
    cases e with
    | called c => cases heq
    | asked y =>
      obtain rfl := Option.some.inj heq
      exact he
  · exact fun hx => ⟨_, hx, rfl⟩

/-- Nothing was asked in a record without exchanges. -/
theorem not_mem_of_silent {es : List (Event α)} (h : exchanges es = []) (x : Exchange α) :
    asked x ∉ es := by
  rw [← mem_exchanges, h]
  exact List.not_mem_nil

end Event

/-- An event reports to the runner that a program exited: by a call, or as the reply to the question
whether it has. -/
def Event.Reports (e : Event α) (pid : Pid) (code : Int) : Prop :=
  e = .called (.exited pid code) ∨ e = .asked ⟨.tryWait pid, .ok (some code)⟩

/-- Waiting for a program failed. -/
def Exchange.FailsToWait (x : Exchange α) (pid : Pid) : Prop :=
  ∃ e, x = ⟨.awaitStatus pid, .error e⟩ ∨ x = ⟨.tryWait pid, .error e⟩

/-- An exchange that waits for a program, which does not turn out to have exited. -/
def Exchange.Waits (x : Exchange α) (pid : Pid) : Prop :=
  (∃ reply, x = ⟨.awaitStatus pid, reply⟩) ∨ x = ⟨.pause, ()⟩ ∨ x = ⟨.tryWait pid, .ok none⟩ ∨
    x.FailsToWait pid

namespace Runner

/-- The number of the program that runs. -/
theorem childPid_eq {r : Runner} {c : RunningChild} (h : r.child = some c) :
    r.childPid = some c.pid := by
  unfold childPid
  rw [h]
  rfl

/-- Without a program there is no number. -/
theorem childPid_eq_none {r : Runner} (h : r.child = none) : r.childPid = none := by
  unfold childPid
  rw [h]
  rfl

/-! ## States between steps -/

/-- A runner with everything of its current partition released. -/
def released (r : Runner) : Runner :=
  { r with mount := none, child := none, lines := .empty, suspended := false }

/-- A runner that is mounting a partition. -/
def mounting (r : Runner) : Runner := { r with stage := .mountingPartition }

/-- A runner that has mounted a partition. -/
def mounted (r : Runner) : Runner := { r.mounting with mount := some ⟨r.config.mountDir⟩ }

/-- A runner that has unmounted a partition whose program does not run. -/
def probed (r : Runner) : Runner := { r.mounting with mount := none }

/-- A runner that is starting a program. -/
def launching (r : Runner) : Runner := { r with stage := .runningPostinstall }

/-- A runner that waits for a program. -/
def monitoring (r : Runner) (c : RunningChild) : Runner :=
  { r with child := some c, stage := .monitoringProgress }

/-- A runner that has left a partition and stands before the next one. -/
def passed (r : Runner) : Runner := { r.released.advance with stage := .nextPartition }

/-- A runner whose attempt ended with a code. -/
def ended (r : Runner) (code : ErrorCode) : Runner :=
  { r.released with
    stage := if code.isSuccess then .allComplete else .aborted
    powerwashScheduled := r.powerwashScheduled && code.isSuccess
    result := some code }

/-- The runner after a turn of reads of its program's status pipe. -/
def afterReads (r : Runner) (c : RunningChild) (reads : List StatusRead) : Runner :=
  let drained := drain (!c.nonblocking) r.lines reads
  { r with lines := drained.buffer, child := some { c with watched := !drained.stops } }

/-- A runner whose attempt has asked for a powerwash. -/
def scheduled (r : Runner) : Runner := { r with powerwashScheduled := true }

/-- A runner that begins an attempt with a plan. -/
def planned (r : Runner) (plan : InstallPlan) : Runner :=
  { r with plan := plan, stage := .initializing }

/-! ## Exchanges of single steps -/

/-- The exchanges that unmount what is held, if anything is. -/
def Unmounts (held : Option ScopedMount) (xs : List (Exchange α)) : Prop :=
  xs.map (·.request) = (held.map fun m => Request.unmount m.mountPoint).toList

/-- The switch of slots: its exchanges and the code that it gives. -/
inductive SwitchesSlot (plan : InstallPlan) : List (Exchange α) → ErrorCode → Prop where
  /-- The update of the partitions could not be committed. -/
  | unfinished (e : BootError) :
    SwitchesSlot plan [⟨.finishUpdate plan.powerwashRequired, .error e⟩] .postinstallRunnerError
  /-- The slot could not be made the active one. -/
  | refused (e : BootError) :
    SwitchesSlot plan
      [⟨.finishUpdate plan.powerwashRequired, .ok ()⟩, ⟨.setActive plan.targetSlot, .error e⟩]
      .postinstallRunnerError
  /-- The slot is the active one. -/
  | switched (reply : Except BootError Unit) :
    SwitchesSlot plan
      [⟨.finishUpdate plan.powerwashRequired, .ok ()⟩, ⟨.setActive plan.targetSlot, .ok ()⟩,
        ⟨.warmReset true, ()⟩, ⟨.vbmetaDigest false, reply⟩] .success

/-- What an attempt that ends with `code` does about the slots, and the code that is delivered. -/
def Settles (plan : InstallPlan) (code : ErrorCode) (xs : List (Exchange α)) (c : ErrorCode) :
    Prop :=
  if code = .success then
    if plan.switchSlot then SwitchesSlot plan xs c else xs = [] ∧ c = .updatedButNotActive
  else xs = [] ∧ c = code

/-- The exchanges that take a powerwash back, if the attempt asked for one and failed. -/
def TakesBack (r : Runner) (c : ErrorCode) (xs : List (Exchange α)) : Prop :=
  xs.map (·.request) =
    if r.powerwashScheduled && !c.isSuccess then [Request.cancelPowerwash] else []

/-- The end of an attempt that has no result yet: the partition is released, the slots are settled,
a powerwash is taken back, and the code is delivered, in this order. -/
inductive Ends (r : Runner) (code : ErrorCode) : List (Exchange α) → Runner → Prop where
  /-- The attempt ends with `c`. -/
  | intro {us ss ps : List (Exchange α)} {c : ErrorCode} (unmounts : Unmounts r.mount us)
    (settles : Settles r.plan code ss c) (takesBack : TakesBack r c ps) :
    Ends r code (us ++ ss ++ ps ++ [⟨.complete c, ()⟩]) (r.ended c)

/-- Whether nothing is mounted at a path, or can be made so. -/
inductive Clears (mountPoint : Path) : List (Exchange α) → Except MountError Unit → Prop where
  /-- Nothing was mounted. -/
  | free : Clears mountPoint [⟨.isMountPoint mountPoint, .ok false⟩] (.ok ())
  /-- What was mounted is gone. -/
  | cleared :
    Clears mountPoint [⟨.isMountPoint mountPoint, .ok true⟩, ⟨.unmount mountPoint, .ok ()⟩] (.ok ())
  /-- Nobody knows. -/
  | unknown (e : SystemError) :
    Clears mountPoint [⟨.isMountPoint mountPoint, .error e⟩] (.error (.unmount mountPoint e))
  /-- What was mounted cannot be unmounted. -/
  | stuck (e : SystemError) :
    Clears mountPoint [⟨.isMountPoint mountPoint, .ok true⟩, ⟨.unmount mountPoint, .error e⟩]
      (.error (.unmount mountPoint e))

/-- An attempt to mount a device, and its outcome. -/
inductive Acquires (device mountPoint : Path) (filesystem options : String) :
    List (Exchange α) → Except MountError ScopedMount → Prop where
  /-- There is no device. -/
  | noDevice :
    Acquires device mountPoint filesystem options [⟨.pathExists device, false⟩]
      (.error (.deviceNotFound device))
  /-- There is no directory. -/
  | noDirectory :
    Acquires device mountPoint filesystem options
      [⟨.pathExists device, true⟩, ⟨.pathExists mountPoint, false⟩]
      (.error (.directoryNotFound mountPoint))
  /-- Something else is in the way. -/
  | blocked {cs : List (Exchange α)} {e : MountError} (clears : Clears mountPoint cs (.error e)) :
    Acquires device mountPoint filesystem options
      ([⟨.pathExists device, true⟩, ⟨.pathExists mountPoint, true⟩] ++ cs) (.error e)
  /-- The device stays writable. -/
  | writable {cs : List (Exchange α)} (e : SystemError) (clears : Clears mountPoint cs (.ok ())) :
    Acquires device mountPoint filesystem options
      ([⟨.pathExists device, true⟩, ⟨.pathExists mountPoint, true⟩] ++ cs ++
        [⟨.setReadonly device true, .error e⟩]) (.error (.setReadonly device e))
  /-- Mounting fails. -/
  | refused {cs : List (Exchange α)} (e : SystemError) (clears : Clears mountPoint cs (.ok ())) :
    Acquires device mountPoint filesystem options
      ([⟨.pathExists device, true⟩, ⟨.pathExists mountPoint, true⟩] ++ cs ++
        [⟨.setReadonly device true, .ok ()⟩,
          ⟨.mount device mountPoint filesystem options, .error e⟩])
      (.error (.mount device mountPoint e))
  /-- The device is mounted. -/
  | mounted {cs : List (Exchange α)} (clears : Clears mountPoint cs (.ok ())) :
    Acquires device mountPoint filesystem options
      ([⟨.pathExists device, true⟩, ⟨.pathExists mountPoint, true⟩] ++ cs ++
        [⟨.setReadonly device true, .ok ()⟩, ⟨.mount device mountPoint filesystem options, .ok ()⟩])
      (.ok ⟨mountPoint⟩)

/-- An attempt to mount a partition, and its outcome. -/
inductive Mounts (r : Runner) (p : Partition) :
    List (Exchange α) → Except MountError ScopedMount → Prop where
  /-- The options are looked up first. -/
  | intro {options : String} {xs : List (Exchange α)} {outcome : Except MountError ScopedMount}
    (acquires : Acquires p.readonlyTarget r.config.mountDir p.filesystem options xs outcome) :
    Mounts r p (⟨.mountOptions p.name, options⟩ :: xs) outcome

/-- The exchanges that look for build properties. -/
def Inspects (r : Runner) (xs : List (Exchange α)) : Prop :=
  xs.map (·.request) = BuildInfo.files.map fun file => .readText (r.config.mountDir.join file)

/-- The start of a program. The flag says whether it runs. -/
inductive Launches (r : Runner) (program : Path) : List (Exchange α) → Runner × Bool → Prop where
  /-- The launcher refuses. -/
  | refused (contents : Option Bytes) (e : SystemError) :
    Launches r program
      [⟨.readProgram program, contents⟩,
        ⟨.spawn (r.programArguments program) r.config.statusFd, .error e⟩] (r.launching, false)
  /-- The launcher gives a number that stands for no single program. -/
  | invalid (contents : Option Bytes) (pid : Pid) (notPositive : ¬0 < pid) :
    Launches r program
      [⟨.readProgram program, contents⟩,
        ⟨.spawn (r.programArguments program) r.config.statusFd, .ok pid⟩] (r.launching, false)
  /-- The program runs. -/
  | runs (contents : Option Bytes) (pid : Pid) (reply : Except SystemError Unit)
    (positive : 0 < pid) :
    Launches r program
      [⟨.readProgram program, contents⟩,
        ⟨.spawn (r.programArguments program) r.config.statusFd, .ok pid⟩,
        ⟨.setNonblocking pid, reply⟩]
      (r.monitoring ⟨pid, true, reply.isOk⟩, true)

/-- Starting a program leaves the plan, and the partition mounted. -/
theorem Launches.keeps {r r' : Runner} {program : Path} {xs : List (Exchange α)} {runs : Bool}
    (h : Launches r program xs (r', runs)) : r'.plan = r.plan ∧ r'.mount = r.mount := by
  cases h with
  | refused => exact ⟨rfl, rfl⟩
  | invalid => exact ⟨rfl, rfl⟩
  | runs => exact ⟨rfl, rfl⟩

/-- The end of a running program, if there is one, with which the runner does not wait. -/
inductive Kills (r : Runner) : List (Exchange α) → Runner → Prop where
  /-- No program runs. -/
  | nothing (child : r.child = none) : Kills r [] r
  /-- The program is not stopped. -/
  | going (c : RunningChild) (reply : Except SystemError Unit) (child : r.child = some c)
    (suspended : r.suspended = false) :
    Kills r [⟨.signal c.pid .terminate, reply⟩, ⟨.release c.pid, ()⟩] r
  /-- The program is stopped and goes on first. -/
  | resumed (c : RunningChild) (reply : Except SystemError Unit) (child : r.child = some c)
    (suspended : r.suspended = true) :
    Kills r
      [⟨.signal c.pid .resume, .ok ()⟩, ⟨.signal c.pid .terminate, reply⟩, ⟨.release c.pid, ()⟩]
      { r with suspended := false }
  /-- The program is stopped and does not go on. -/
  | stuck (c : RunningChild) (e : SystemError) (reply : Except SystemError Unit)
    (child : r.child = some c) (suspended : r.suspended = true) :
    Kills r
      [⟨.signal c.pid .resume, .error e⟩, ⟨.signal c.pid .terminate, reply⟩,
        ⟨.release c.pid, ()⟩] r

/-- The end of an attempt on request. -/
inductive Cancels (r : Runner) : List (Exchange α) → Runner → Prop where
  /-- The program ends before its partition is unmounted. -/
  | intro {ks us xs : List (Exchange α)} {killed r' : Runner} (kills : Kills r ks killed)
    (unmounts : Unmounts killed.mount us) (ends : Ends killed.released .userCanceled xs r') :
    Cancels r (ks ++ us ++ xs) r'

/-- The end of an attempt that cannot wait for its program. -/
inductive Aborts (r : Runner) : List (Exchange α) → Runner → Prop where
  /-- The program is made to end. -/
  | intro {ks xs : List (Exchange α)} {killed r' : Runner} (kills : Kills r ks killed)
    (ends : Ends killed .postinstallRunnerError xs r') : Aborts r (ks ++ xs) r'

/-! ## Partitions -/

variable [ProgressNumber α]

/-- The report of how far the attempt is. -/
def reported (r : Runner) (fraction : α) : Exchange α :=
  ⟨.progress (r.progress.progress (clampFraction fraction)), ()⟩

/-- The reports that lines call for. -/
def reports (r : Runner) (lines : List String) : List (Exchange α) :=
  lines.filterMap fun line =>
    (ProgressLine.read? line).map fun literal => r.reported (ProgressNumber.ofLiteral literal)

/-- The end of a partition whose program exited with `code`. The flag says whether the attempt goes
on. -/
inductive Leaves (r : Runner) (p : Partition) (code : Int) :
    List (Exchange α) → Runner × Bool → Prop where
  /-- The attempt goes on. -/
  | goesOn {us : List (Exchange α)} (passes : code = 0 ∨ p.optional = true)
    (unmounts : Unmounts r.mount us) :
    Leaves r p code (us ++ [r.passed.reported (ProgressNumber.zero : α)]) (r.passed, true)
  /-- The attempt ends. -/
  | ends {us xs : List (Exchange α)} {r' : Runner} (fails : code ≠ 0)
    (required : p.optional = false)
    (unmounts : Unmounts r.mount us) (ends : Ends r.released (.ofExitCode code) xs r') :
    Leaves r p code (us ++ xs) (r', false)

/-- Everything up to the start of a partition's program, if that runs. The flag says whether the
attempt goes on with the next partition. -/
inductive Enters (r : Runner) (p : Partition) : List (Exchange α) → Runner × Bool → Prop where
  /-- There is nothing to do. -/
  | skips (idle : p.runs = false) (noProgram : p.program = "") : Enters r p [] (r.advance, true)
  /-- A partition whose program does not run can be mounted and unmounted. -/
  | probes {ms is : List (Exchange α)} {m : ScopedMount} (idle : p.runs = false)
    (program : p.program ≠ "") (mounts : Mounts r p ms (.ok m)) (inspects : Inspects r is) :
    Enters r p (ms ++ is ++ [⟨.unmount r.config.mountDir, .ok ()⟩])
      (r.probed.advance, true)
  /-- A partition whose program does not run cannot be unmounted. -/
  | sticks {ms is ls : List (Exchange α)} {m : ScopedMount} {out : Runner × Bool} (e : SystemError)
    (idle : p.runs = false) (program : p.program ≠ "") (mounts : Mounts r p ms (.ok m))
    (inspects : Inspects r is) (leaves : Leaves r.probed p 1 ls out) :
    Enters r p (ms ++ is ++ [⟨.unmount r.config.mountDir, .error e⟩] ++ ls) out
  /-- The program is not on the partition. -/
  | misplaced {e : MountError} {xs : List (Exchange α)} {r' : Runner} (runs : p.runs = true)
    (path : programPath r.config.mountDir p.program = .error e) (ends : Ends r e.errorCode xs r') :
    Enters r p xs (r', false)
  /-- The partition cannot be mounted. -/
  | unmountable {e : MountError} {ms xs : List (Exchange α)} {r' : Runner}
    (probed : p.runs = false → p.program ≠ "")
    (path : p.runs = true → ∃ program, programPath r.config.mountDir p.program = .ok program)
    (mounts : Mounts r p ms (.error e)) (ends : Ends r.mounting e.errorCode xs r') :
    Enters r p (ms ++ xs) (r', false)
  /-- The program starts. -/
  | starts {program : Path} {ms is ls : List (Exchange α)} {m : ScopedMount} {r' : Runner}
    (runs : p.runs = true) (path : programPath r.config.mountDir p.program = .ok program)
    (mounts : Mounts r p ms (.ok m)) (inspects : Inspects r is)
    (launches : Launches r.mounted program ls (r', true)) : Enters r p (ms ++ is ++ ls) (r', false)
  /-- The program does not start. -/
  | fails {program : Path} {ms is ls xs : List (Exchange α)} {m : ScopedMount} {r' : Runner}
    {out : Runner × Bool} (runs : p.runs = true)
    (path : programPath r.config.mountDir p.program = .ok program) (mounts : Mounts r p ms (.ok m))
    (inspects : Inspects r is) (launches : Launches r.mounted program ls (r', false))
    (leaves : Leaves r' p 1 xs out) : Enters r p (ms ++ is ++ ls ++ xs) out

/-- The way through the partitions that are left, up to the next one whose program starts or to the
end of the attempt. -/
inductive Proceeds : Runner → List (Exchange α) → Runner → Prop where
  /-- Without a source of the payload nothing runs. -/
  | sourceless {r r' : Runner} {xs : List (Exchange α)} (source : r.plan.downloadUrl = "")
    (ends : Ends r .success xs r') : Proceeds r xs r'
  /-- No partition is left. -/
  | finishes {r r' : Runner} {xs : List (Exchange α)} (source : r.plan.downloadUrl ≠ "")
    (none_left : r.partition? = none) (ends : Ends r .success xs r') : Proceeds r xs r'
  /-- The attempt goes on past a partition. -/
  | passes {r r₁ r' : Runner} {p : Partition} {xs ys : List (Exchange α)}
    (source : r.plan.downloadUrl ≠ "") (current : r.partition? = some p)
    (enters : Enters r p xs (r₁, true)) (proceeds : Proceeds r₁ ys r') : Proceeds r (xs ++ ys) r'
  /-- The attempt waits for a partition, or ends with it. -/
  | stops {r r' : Runner} {p : Partition} {xs : List (Exchange α)}
    (source : r.plan.downloadUrl ≠ "") (current : r.partition? = some p)
    (enters : Enters r p xs (r', false)) : Proceeds r xs r'

/-- One runner is another one partition further. -/
structure Further (r r' : Runner) : Prop where
  /-- The settings stay. -/
  config : r'.config = r.config
  /-- The plan stays. -/
  plan : r'.plan = r.plan
  /-- The cursor moves on. -/
  cursor : r'.cursor = r.cursor + 1
  /-- So does the count of progress. -/
  progress : r'.progress = r.progress.advance
  /-- The powerwash stays as it is. -/
  powerwash : r'.powerwashScheduled = r.powerwashScheduled
  /-- So does the result. -/
  result : r'.result = r.result

/-- Only a success or an ignored failure goes on. -/
theorem Leaves.passes {r r' : Runner} {p : Partition} {code : Int} {xs : List (Exchange α)}
    (h : Leaves r p code xs (r', true)) : code = 0 ∨ p.optional = true := by
  cases h with
  | goesOn hpasses => exact hpasses

/-- An attempt that goes on from the end of a partition is one partition further. -/
theorem Leaves.further {r r' : Runner} {p : Partition} {code : Int} {xs : List (Exchange α)}
    (h : Leaves r p code xs (r', true)) : Further r r' := by
  cases h with
  | goesOn => exact ⟨rfl, rfl, rfl, rfl, rfl, rfl⟩

/-- An attempt that goes on past a partition is one partition further. -/
theorem Enters.further {r r' : Runner} {p : Partition} {xs : List (Exchange α)}
    (h : Enters r p xs (r', true)) : Further r r' := by
  cases h with
  | skips => exact ⟨rfl, rfl, rfl, rfl, rfl, rfl⟩
  | probes => exact ⟨rfl, rfl, rfl, rfl, rfl, rfl⟩
  | sticks _ _ _ _ _ hleaves =>
    obtain ⟨hc, hp, hcur, hpr, hpw, hr⟩ := hleaves.further
    exact ⟨hc, hp, hcur, hpr, hpw, hr⟩
  | fails _ _ _ _ hls hleaves =>
    obtain ⟨hc, hp, hcur, hpr, hpw, hr⟩ := hleaves.further
    cases hls with
    | refused => exact ⟨hc, hp, hcur, hpr, hpw, hr⟩
    | invalid => exact ⟨hc, hp, hcur, hpr, hpw, hr⟩

/-! ## Attempts -/

/-- Mapping the partitions that share space, and its outcome. -/
inductive Maps (r : Runner) : List (Exchange α) → Except BootError Unit → Prop where
  /-- Nothing has to be mapped. -/
  | needless (virtual : Bool) (needs : virtual = true → r.needsMapping = false) :
    Maps r [⟨.isVirtualAb, virtual⟩] (.ok ())
  /-- They are mapped, or not. -/
  | asks (outcome : Except BootError Unit) (needs : r.needsMapping = true) :
    Maps r [⟨.isVirtualAb, true⟩, ⟨.mapAll, outcome⟩] outcome

/-- The beginning of an attempt, up to the first program or to its end. -/
inductive Begins (r : Runner) : List (Exchange α) → Runner → Prop where
  /-- The partitions cannot be mapped. -/
  | unmapped {e : BootError} {ms xs : List (Exchange α)} {r' : Runner} (maps : Maps r ms (.error e))
    (ends : Ends r .postInstallMountError xs r') : Begins r (ms ++ xs) r'
  /-- The powerwash cannot be scheduled. -/
  | unscheduled {ms xs : List (Exchange α)} {r' : Runner} (e : BootError)
    (maps : Maps r ms (.ok ()))
    (powerwash : r.plan.powerwashRequired = true)
    (ends : Ends r .postinstallPowerwashError xs r') :
    Begins r (ms ++ [⟨.schedulePowerwash, .error e⟩] ++ xs) r'
  /-- The attempt needs no powerwash. -/
  | plain {ms xs : List (Exchange α)} {r' : Runner} (maps : Maps r ms (.ok ()))
    (powerwash : r.plan.powerwashRequired = false)
    (proceeds : Proceeds r.atFirstPartition xs r') :
    Begins r (ms ++ [r.atFirstPartition.reported (ProgressNumber.zero : α)] ++ xs) r'
  /-- The powerwash is scheduled. -/
  | scheduled {ms xs : List (Exchange α)} {r' : Runner} (maps : Maps r ms (.ok ()))
    (powerwash : r.plan.powerwashRequired = true)
    (proceeds : Proceeds r.scheduled.atFirstPartition xs r') :
    Begins r
      (ms ++ [⟨.schedulePowerwash, .ok ()⟩] ++
        [r.scheduled.atFirstPartition.reported (ProgressNumber.zero : α)] ++ xs) r'

/-- The way on from the end of a partition: past it, or none. -/
def GoesOn : Runner × Bool → List (Exchange α) → Runner → Prop
  | (r, true), xs, r' => Proceeds r xs r'
  | (r, false), xs, r' => xs = [] ∧ r' = r

/-- One happening at a runner: what is recorded of it, and the runner afterwards. Cancelling is
among the happenings only where `mayCancel` says so. -/
inductive Move (mayCancel : Bool) : Runner → List (Event α) → Runner → Prop where
  /-- A call without an effect of its own. -/
  | noted {r : Runner} (c : RunnerCall) (starts : c.plan?.isSome = true → r.stage ≠ .idle)
    (exits : ∀ pid code, c = .exited pid code → r.childPid ≠ some pid) :
    Move mayCancel r [.called c] r
  /-- The attempt begins. -/
  | begins {r r' : Runner} {c : RunnerCall} {plan : InstallPlan} {xs : List (Exchange α)}
    (starts : c.plan? = some plan) (idle : r.stage = .idle)
    (begins : Begins (r.planned plan) xs r') :
    Move mayCancel r (.called c :: xs.map .asked) r'
  /-- The runner waits for its program. -/
  | waits {r : Runner} {c : RunningChild} {x : Exchange α} (child : r.child = some c)
    (waits : x.Waits c.pid) : Move mayCancel r [.asked x] r
  /-- The runner reads the status pipe of its program. -/
  | reads {r : Runner} {c : RunningChild} (reads : List StatusRead) (child : r.child = some c)
    (watched : c.watched = true) :
    Move mayCancel r
      ((⟨.readStatus c.pid (!c.nonblocking), reads⟩ ::
        (r.afterReads c reads).reports (drain (!c.nonblocking) r.lines reads).lines).map .asked)
      (r.afterReads c reads)
  /-- The program of a partition exits. -/
  | exits {r r' : Runner} {e : Event α} {pid : Pid} {code : Int} {p : Partition}
    {ls xs : List (Exchange α)} {out : Runner × Bool} (reports : e.Reports pid code)
    (child : r.childPid = some pid) (current : r.partition? = some p)
    (leaves : Leaves r p code ls out) (goesOn : GoesOn out xs r') :
    Move mayCancel r (e :: (ls ++ xs).map .asked) r'
  /-- The program is stopped. -/
  | suspends {r : Runner} {c : RunningChild} (child : r.child = some c) :
    Move mayCancel r [.asked ⟨.signal c.pid .stop, .ok ()⟩] { r with suspended := true }
  /-- The program goes on. -/
  | resumes {r : Runner} {c : RunningChild} (child : r.child = some c)
    (suspended : r.suspended = true) :
    Move mayCancel r [.asked ⟨.signal c.pid .resume, .ok ()⟩] { r with suspended := false }
  /-- The program cannot be stopped, or made to go on. -/
  | balks {r : Runner} {c : RunningChild} {signal : ChildSignal} (e : SystemError)
    (child : r.child = some c) (kind : signal = .stop ∨ signal = .resume ∧ r.suspended = true) :
    Move mayCancel r [.asked ⟨.signal c.pid signal, .error e⟩] r
  /-- The runner cannot wait for its program and ends the attempt. -/
  | aborts {r r' : Runner} {c : RunningChild} {x : Exchange α} {xs : List (Exchange α)}
    (child : r.child = some c) (fails : x.FailsToWait c.pid) (ongoing : r.result = none)
    (aborts : Aborts r xs r') : Move mayCancel r (.asked x :: xs.map .asked) r'
  /-- The attempt is cancelled. -/
  | cancels {r r' : Runner} {xs : List (Exchange α)} (allowed : mayCancel = true)
    (begun : r.stage ≠ .idle) (ongoing : r.result = none) (cancels : Cancels r xs r') :
    Move mayCancel r (xs.map .asked) r'

/-- What can happen where nothing is cancelled can happen anywhere. -/
theorem Move.mono {mayCancel mayCancel' : Bool} (hmay : mayCancel = true → mayCancel' = true)
    {r r' : Runner} {es : List (Event α)} (h : Move mayCancel r es r') :
    Move mayCancel' r es r' := by
  cases h with
  | noted c hstarts hexits => exact .noted c hstarts hexits
  | begins hplan hidle hbegins => exact .begins hplan hidle hbegins
  | waits hc hx => exact .waits hc hx
  | reads reads hc hwatched => exact .reads reads hc hwatched
  | exits he hc hcurrent hleaves hgoesOn => exact .exits he hc hcurrent hleaves hgoesOn
  | suspends hc => exact .suspends hc
  | resumes hc hs => exact .resumes hc hs
  | balks e hc hkind => exact .balks e hc hkind
  | aborts hc hx hongoing haborts => exact .aborts hc hx hongoing haborts
  | cancels hallowed hbegun hongoing hcancels =>
    exact .cancels (hmay hallowed) hbegun hongoing hcancels

/-- A run of happenings, with all that is recorded of them. -/
inductive Moves (mayCancel : Bool) : Runner → List (Event α) → Runner → Prop where
  /-- Nothing happens. -/
  | nil (r : Runner) : Moves mayCancel r [] r
  /-- Something happens, and then the rest. -/
  | cons {r r₁ r' : Runner} {es fs : List (Event α)} (move : Move mayCancel r es r₁)
    (moves : Moves mayCancel r₁ fs r') : Moves mayCancel r (es ++ fs) r'

end Runner

end SlotUpdate
