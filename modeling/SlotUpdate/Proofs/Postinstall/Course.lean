import SlotUpdate.Proofs.Postinstall.Calls

/-!
# The course of an attempt

A map of every attempt. `Point` has the points at which an attempt can stand, `Opens` says how it
begins, `Step` leads from point to point, and `Course` is the record of an attempt that has come to
a point. What holds of every record is shown along the map: for the beginning, and for each step.

`Charted` says that the record of a runner is on the map. The relations of `Transitions` are put
together from steps (`Ends.arrives`, `Leaves.onward`, `Enters.onward`, `Proceeds.arrives`,
`Begins.arrives`), so that every happening stays on the map (`Move.charted`), and so does every
lifetime (`lifetime_charted`).
-/

namespace SlotUpdate

variable {α σ : Type}

/-- A point of an attempt. Partitions are told by their places in the plan. -/
inductive Point where
  /-- Before a partition, or past the last one, with nothing mounted. -/
  | before (i : Nat)
  /-- At a partition that is mounted, and whose program was not started. -/
  | holding (i : Nat)
  /-- At a partition whose program runs. -/
  | running (i : Nat) (pid : Pid) (stopped : Bool)
  /-- At a partition whose program exited with a code, or counts as if it had. It may still be
  mounted. -/
  | leaving (i : Nat) (code : Int) (mounted : Bool)
  /-- Where the attempt has to end with a code. A partition may still be mounted. -/
  | ending (code : ErrorCode) (mounted : Bool)
  /-- Where the attempt has ended. -/
  | done (code : ErrorCode)
  deriving Repr, DecidableEq

namespace Point

/-- The number of the program that runs. -/
def child? : Point → Option Pid
  | running _ pid _ => some pid
  | _ => none

/-- Whether a partition is mounted. -/
def isMounted : Point → Bool
  | holding _ | running _ _ _ => true
  | leaving _ _ mounted | ending _ mounted => mounted
  | before _ | done _ => false

/-- The result of the attempt. -/
def result? : Point → Option ErrorCode
  | done code => some code
  | _ => none

end Point

/-- An exchange that looks after a running program, and changes nothing about it. -/
def Exchange.Attends (x : Exchange α) (pid : Pid) : Prop :=
  x.Waits pid ∨ (∃ once reads, x = ⟨.readStatus pid once, reads⟩) ∨
    ∃ share, x = ⟨.progress share, ()⟩

/-- What holds of each exchange that looks after a program, kind by kind. -/
@[elab_as_elim]
theorem Exchange.Attends.elim {pid : Pid} {motive : Exchange α → Prop} {x : Exchange α}
    (h : x.Attends pid) (awaits : ∀ reply, motive ⟨.awaitStatus pid, reply⟩)
    (pauses : motive ⟨.pause, ()⟩) (runs : motive ⟨.tryWait pid, .ok none⟩)
    (fails : ∀ e, motive ⟨.tryWait pid, .error e⟩)
    (reads : ∀ once reads, motive ⟨.readStatus pid once, reads⟩)
    (reports : ∀ share, motive ⟨.progress share, ()⟩) : motive x := by
  rcases h with (⟨reply, rfl⟩ | rfl | rfl | ⟨e, rfl | rfl⟩) | ⟨once, result, rfl⟩ | ⟨share, rfl⟩
  · exact awaits reply
  · exact pauses
  · exact runs
  · exact awaits (.error e)
  · exact fails e
  · exact reads once result
  · exact reports share

namespace Runner

/-! ## The map -/

/-- What is mounted at the mount directory, if anything is. -/
def heldIf (config : PostinstallConfig) (mounted : Bool) : Option ScopedMount :=
  if mounted then some ⟨config.mountDir⟩ else none

/-- The exchanges that end a program. A stopped one goes on first. -/
def EndsProgram (pid : Pid) (stopped : Bool) (xs : List (Exchange α)) : Prop :=
  ∃ resumed ended,
    xs = (if stopped then [⟨.signal pid .resume, resumed⟩] else []) ++
      [⟨.signal pid .terminate, ended⟩, ⟨.release pid, ()⟩]

/-- What the program of a partition is started with under a plan. -/
def launchArguments (config : PostinstallConfig) (plan : InstallPlan) (program : Path) :
    List String :=
  [program.text, toString plan.targetSlot.toNat, toString config.statusFd] ++
    if plan.isTriggered then ["1"] else []

/-- The beginning of an attempt: its exchanges, whether they scheduled a powerwash, and the point
that they lead to. -/
inductive Opens (r : Runner) : List (Exchange α) → Bool → Point → Prop where
  /-- The partitions cannot be mapped. -/
  | unmapped {ms : List (Exchange α)} {e : BootError} (maps : Maps r ms (.error e)) :
    Opens r ms false (.ending .postInstallMountError false)
  /-- The powerwash cannot be scheduled. -/
  | unscheduled {ms : List (Exchange α)} (e : BootError) (maps : Maps r ms (.ok ()))
    (powerwash : r.plan.powerwashRequired = true) :
    Opens r (ms ++ [⟨.schedulePowerwash, .error e⟩]) false
      (.ending .postinstallPowerwashError false)
  /-- The attempt needs no powerwash. -/
  | plain {ms : List (Exchange α)} (share : α) (maps : Maps r ms (.ok ()))
    (powerwash : r.plan.powerwashRequired = false) :
    Opens r (ms ++ [⟨.progress share, ()⟩]) false (.before 0)
  /-- The powerwash is scheduled. -/
  | scheduled {ms : List (Exchange α)} (share : α) (maps : Maps r ms (.ok ()))
    (powerwash : r.plan.powerwashRequired = true) :
    Opens r (ms ++ [⟨.schedulePowerwash, .ok ()⟩, ⟨.progress share, ()⟩]) true (.before 0)

/-- A step of an attempt, with what is recorded of it. `scheduled` says whether the attempt has
scheduled a powerwash. -/
inductive Step (config : PostinstallConfig) (plan : InstallPlan) (scheduled : Bool) :
    Point → List (Event α) → Point → Prop where
  /-- A call without an effect. -/
  | noted {pt : Point} (c : RunnerCall)
    (exits : ∀ pid code, c = .exited pid code → pt.child? ≠ some pid) :
    Step config plan scheduled pt [.called c] pt
  /-- Without a source of the payload nothing runs. -/
  | sourceless {i : Nat} (source : plan.downloadUrl = "") :
    Step config plan scheduled (.before i) [] (.ending .success false)
  /-- No partition is left. -/
  | finishes {i : Nat} (none_left : plan.partitions[i]? = none) :
    Step config plan scheduled (.before i) [] (.ending .success false)
  /-- There is nothing to do at a partition. -/
  | skips {i : Nat} {p : Partition} (current : plan.partitions[i]? = some p)
    (idle : runsUnder plan p = false) (noProgram : p.program = "") :
    Step config plan scheduled (.before i) [] (.before (i + 1))
  /-- The program is not on its partition. -/
  | misplaced {i : Nat} {p : Partition} {e : MountError} (current : plan.partitions[i]? = some p)
    (runs : runsUnder plan p = true) (path : programPath config.mountDir p.program = .error e) :
    Step config plan scheduled (.before i) [] (.ending e.errorCode false)
  /-- A partition cannot be mounted. -/
  | unmountable {i : Nat} {p : Partition} {options : String} {xs : List (Exchange α)}
    {e : MountError} (current : plan.partitions[i]? = some p)
    (path : runsUnder plan p = true →
      ∃ program, programPath config.mountDir p.program = .ok program)
    (acquires : Acquires p.readonlyTarget config.mountDir p.filesystem options xs (.error e)) :
    Step config plan scheduled (.before i)
      ((⟨.mountOptions p.name, options⟩ :: xs).map .asked) (.ending e.errorCode false)
  /-- A partition is mounted, and looked at. -/
  | mounts {i : Nat} {p : Partition} {options : String} {xs is : List (Exchange α)}
    {m : ScopedMount} (current : plan.partitions[i]? = some p)
    (path : runsUnder plan p = true →
      ∃ program, programPath config.mountDir p.program = .ok program)
    (acquires : Acquires p.readonlyTarget config.mountDir p.filesystem options xs (.ok m))
    (inspects : ∀ x ∈ is, ∃ file, x.request = .readText file) :
    Step config plan scheduled (.before i)
      ((⟨.mountOptions p.name, options⟩ :: (xs ++ is)).map .asked) (.holding i)
  /-- A partition whose program does not run is unmounted. -/
  | probed {i : Nat} {p : Partition} (current : plan.partitions[i]? = some p)
    (idle : runsUnder plan p = false) :
    Step config plan scheduled (.holding i) [.asked ⟨.unmount config.mountDir, .ok ()⟩]
      (.before (i + 1))
  /-- A partition whose program does not run cannot be unmounted. -/
  | sticks {i : Nat} {p : Partition} (e : SystemError) (current : plan.partitions[i]? = some p)
    (idle : runsUnder plan p = false) :
    Step config plan scheduled (.holding i) [.asked ⟨.unmount config.mountDir, .error e⟩]
      (.leaving i 1 false)
  /-- The program of a partition starts. -/
  | starts {i : Nat} {p : Partition} {program : Path} {pid : Pid} (contents : Option Bytes)
    (reply : Except SystemError Unit) (current : plan.partitions[i]? = some p)
    (runs : runsUnder plan p = true) (path : programPath config.mountDir p.program = .ok program)
    (positive : 0 < pid) :
    Step config plan scheduled (.holding i)
      [.asked ⟨.readProgram program, contents⟩,
        .asked ⟨.spawn (launchArguments config plan program) config.statusFd, .ok pid⟩,
        .asked ⟨.setNonblocking pid, reply⟩]
      (.running i pid false)
  /-- The program of a partition does not start. -/
  | fails {i : Nat} {p : Partition} {program : Path} (contents : Option Bytes)
    (reply : Except SystemError Pid) (current : plan.partitions[i]? = some p)
    (runs : runsUnder plan p = true) (path : programPath config.mountDir p.program = .ok program)
    (invalid : ∀ pid, reply = .ok pid → ¬0 < pid) :
    Step config plan scheduled (.holding i)
      [.asked ⟨.readProgram program, contents⟩,
        .asked ⟨.spawn (launchArguments config plan program) config.statusFd, reply⟩]
      (.leaving i 1 true)
  /-- The running program is looked after. -/
  | attends {i : Nat} {pid : Pid} {stopped : Bool} {xs : List (Exchange α)}
    (attends : ∀ x ∈ xs, x.Attends pid) :
    Step config plan scheduled (.running i pid stopped) (xs.map .asked) (.running i pid stopped)
  /-- The running program is stopped. -/
  | suspends {i : Nat} {pid : Pid} {stopped : Bool} :
    Step config plan scheduled (.running i pid stopped) [.asked ⟨.signal pid .stop, .ok ()⟩]
      (.running i pid true)
  /-- The running program goes on. -/
  | resumes {i : Nat} {pid : Pid} :
    Step config plan scheduled (.running i pid true) [.asked ⟨.signal pid .resume, .ok ()⟩]
      (.running i pid false)
  /-- The running program cannot be stopped, or made to go on. -/
  | balks {i : Nat} {pid : Pid} {stopped : Bool} {signal : ChildSignal} (e : SystemError)
    (kind : signal = .stop ∨ signal = .resume ∧ stopped = true) :
    Step config plan scheduled (.running i pid stopped) [.asked ⟨.signal pid signal, .error e⟩]
      (.running i pid stopped)
  /-- The running program exits. -/
  | exits {i : Nat} {pid : Pid} {stopped : Bool} {e : Event α} {code : Int}
    (reports : e.Reports pid code) :
    Step config plan scheduled (.running i pid stopped) [e] (.leaving i code true)
  /-- The attempt goes on from a partition. -/
  | passes {i : Nat} {p : Partition} {code : Int} {mounted : Bool} {us : List (Exchange α)}
    (share : α) (current : plan.partitions[i]? = some p) (passes : code = 0 ∨ p.optional = true)
    (unmounts : Unmounts (heldIf config mounted) us) :
    Step config plan scheduled (.leaving i code mounted)
      ((us ++ [(⟨.progress share, ()⟩ : Exchange α)]).map .asked) (.before (i + 1))
  /-- The failure of a partition is one of the attempt. -/
  | givesUp {i : Nat} {p : Partition} {code : Int} {mounted : Bool}
    (current : plan.partitions[i]? = some p) (fails : code ≠ 0) (required : p.optional = false) :
    Step config plan scheduled (.leaving i code mounted) []
      (.ending (.ofExitCode code) mounted)
  /-- The running program cannot be waited for, and is ended. -/
  | aborts {i : Nat} {pid : Pid} {stopped : Bool} {x : Exchange α} {ks : List (Exchange α)}
    (fails : x.FailsToWait pid) (kills : EndsProgram pid stopped ks) :
    Step config plan scheduled (.running i pid stopped) ((x :: ks).map .asked)
      (.ending .postinstallRunnerError true)
  /-- The attempt is cancelled, and the running program is ended. -/
  | cancels {i : Nat} {pid : Pid} {stopped : Bool} {ks : List (Exchange α)}
    (kills : EndsProgram pid stopped ks) :
    Step config plan scheduled (.running i pid stopped) (ks.map .asked)
      (.ending .userCanceled true)
  /-- The attempt ends. -/
  | ends {code c : ErrorCode} {mounted : Bool} {us ss ps : List (Exchange α)}
    (unmounts : Unmounts (heldIf config mounted) us) (settles : Settles plan code ss c)
    (takesBack : ps.map (·.request) =
      if scheduled && !c.isSuccess then [Request.cancelPowerwash] else []) :
    Step config plan scheduled (.ending code mounted)
      ((us ++ ss ++ ps ++ [(⟨.complete c, ()⟩ : Exchange α)]).map .asked) (.done c)
  /-- The partitions are unmapped when the runner is given up. -/
  | unmaps {c : ErrorCode} (reply : Except BootError Unit) :
    Step config plan scheduled (.done c) [.asked ⟨.unmapAll, reply⟩] (.done c)

/-- The record of an attempt that has come to a point. Before the attempt there may be calls without
an effect. -/
inductive Course (config : PostinstallConfig) (plan : InstallPlan) (scheduled : Bool) :
    List (Event α) → Point → Prop where
  /-- The attempt begins. -/
  | opens {before : List (Event α)} {c : RunnerCall} {r : Runner} {xs : List (Exchange α)}
    {pt : Point} (silent : Event.exchanges before = []) (starts : c.plan? = some plan)
    (settings : r.config = config) (works : r.plan = plan) (opens : Opens r xs scheduled pt) :
    Course config plan scheduled (before ++ .called c :: xs.map .asked) pt
  /-- The attempt takes a step. -/
  | step {es fs : List (Event α)} {pt pt' : Point} (course : Course config plan scheduled es pt)
    (step : Step config plan scheduled pt fs pt') : Course config plan scheduled (es ++ fs) pt'

/-! ## Runners on the map -/

/-- The point at which a runner is between happenings. -/
inductive Rests (config : PostinstallConfig) (plan : InstallPlan) (scheduled : Bool) :
    Point → Runner → Prop where
  /-- The runner waits for a program. -/
  | running {r : Runner} {pid : Pid} (settings : r.config = config)
    (works : r.plan = withoutSkipped plan) (child : r.childPid = some pid)
    (mount : r.mount = some ⟨config.mountDir⟩) (powerwash : r.powerwashScheduled = scheduled) :
    Rests config plan scheduled (.running r.cursor pid r.suspended) r
  /-- The attempt has ended. -/
  | done {r : Runner} {c : ErrorCode} (child : r.child = none) (result : r.result = some c) :
    Rests config plan scheduled (.done c) r

/-- A record leads along the map to the point at which a runner is. -/
def Arrives (config : PostinstallConfig) (plan : InstallPlan) (scheduled : Bool)
    (es : List (Event α)) (r : Runner) : Prop :=
  ∃ pt, Course config plan scheduled es pt ∧ Rests config plan scheduled pt r

/-- A record leads past a partition, or to the point at which a runner is. -/
def Onward (config : PostinstallConfig) (plan : InstallPlan) (scheduled : Bool) (i : Nat)
    (es : List (Event α)) : Runner × Bool → Prop
  | (_, true) => Course config plan scheduled es (.before (i + 1))
  | (r, false) => Arrives config plan scheduled es r

variable {config : PostinstallConfig} {plan : InstallPlan} {scheduled : Bool} {es : List (Event α)}

/-- At a point where a runner rests, the program that runs is its child. -/
theorem Rests.child?_eq {pt : Point} {r : Runner} (h : Rests config plan scheduled pt r) :
    pt.child? = r.childPid := by
  cases h with
  | running _ _ child => exact child.symm
  | done child => exact (childPid_eq_none child).symm

/-- At a point where a runner rests, the result of the attempt is its result. -/
theorem Rests.result?_eq {pt : Point} {r : Runner} (h : Rests config plan scheduled pt r)
    (hr : Stable (some plan) r) : pt.result? = r.result := by
  cases h with
  | running _ _ child =>
    obtain ⟨c, hc, -⟩ := Option.map_eq_some_iff.mp child
    obtain ⟨_, -, hrunning⟩ := hr.isRunning hc
    exact hrunning.result.symm
  | done _ result => exact result.symm

/-- What a program is started with depends on the settings and the plan. -/
theorem programArguments_eq {r : Runner} (hsettings : r.config = config)
    (hworks : r.plan = withoutSkipped plan) (program : Path) :
    r.programArguments program = launchArguments config plan program := by
  have htriggered : (withoutSkipped plan).isTriggered = plan.isTriggered := by
    simp [InstallPlan.isTriggered, withoutSkipped]
  unfold programArguments launchArguments
  rw [hsettings, hworks, htriggered]
  rfl

/-- The end of an attempt releases the partition first. -/
theorem Ends.release {r r' : Runner} {code : ErrorCode} {xs : List (Exchange α)}
    (h : Ends r code xs r') : ∃ us ys, xs = us ++ ys ∧ Unmounts r.mount us ∧
      Ends r.released code ys r' := by
  cases h with
  | @intro us ss ps c hus hss hps =>
    refine ⟨us, [] ++ ss ++ ps ++ [⟨.complete c, ()⟩], by simp, hus, ?_⟩
    exact Ends.intro (r := r.released) rfl hss hps

/-- An attempt that has to end does so, after its partition was released. -/
theorem Ends.arrives_released {r r' : Runner} {code : ErrorCode} {mounted : Bool}
    {us xs : List (Exchange α)} (h : Ends r.released code xs r')
    (hcourse : Course config plan scheduled es (.ending code mounted))
    (hunmounts : Unmounts (heldIf config mounted) us)
    (hplan : r.plan = plan ∨ r.plan = withoutSkipped plan)
    (hpowerwash : r.powerwashScheduled = scheduled) :
    Arrives config plan scheduled (es ++ (us ++ xs).map .asked) r' := by
  cases h with
  | @intro vs ss ps c hvs hss hps =>
    obtain rfl : vs = [] := List.map_eq_nil_iff.mp hvs
    subst hpowerwash
    have hends : Step config plan r.powerwashScheduled (.ending code mounted) _ (.done c) :=
      .ends hunmounts (hss.of_plan hplan) hps
    have harrives := hcourse.step hends
    rw [List.nil_append, ← List.append_assoc, ← List.append_assoc]
    exact ⟨_, harrives, .done rfl rfl⟩

/-- An attempt that has to end does so. -/
theorem Ends.arrives {r r' : Runner} {code : ErrorCode} {mounted : Bool} {xs : List (Exchange α)}
    (h : Ends r code xs r') (hcourse : Course config plan scheduled es (.ending code mounted))
    (hmount : r.mount = heldIf config mounted)
    (hplan : r.plan = plan ∨ r.plan = withoutSkipped plan)
    (hpowerwash : r.powerwashScheduled = scheduled) :
    Arrives config plan scheduled (es ++ xs.map .asked) r' := by
  obtain ⟨us, ys, rfl, hus, hends⟩ := h.release
  rw [hmount] at hus
  exact hends.arrives_released hcourse hus hplan hpowerwash

variable [ProgressNumber α]

/-- A partition that is left leads onward. -/
theorem Leaves.onward {r : Runner} {i : Nat} {q : Partition} {code : Int} {mounted : Bool}
    {xs : List (Exchange α)} {out : Runner × Bool} (h : Leaves r (effective plan q) code xs out)
    (hcourse : Course config plan scheduled es (.leaving i code mounted))
    (hcurrent : plan.partitions[i]? = some q) (hmount : r.mount = heldIf config mounted)
    (hplan : r.plan = withoutSkipped plan) (hpowerwash : r.powerwashScheduled = scheduled) :
    Onward config plan scheduled i (es ++ xs.map .asked) out := by
  cases h with
  | goesOn hpasses hus =>
    rw [effective_optional] at hpasses
    rw [hmount] at hus
    exact hcourse.step (.passes _ hcurrent hpasses hus)
  | ends hfails hrequired hus hends =>
    rw [effective_optional] at hrequired
    rw [hmount] at hus
    have hending := hcourse.step (.givesUp hcurrent hfails hrequired)
    rw [List.append_nil] at hending
    exact hends.arrives_released hending hus (Or.inr hplan) hpowerwash

omit [ProgressNumber α] in
/-- A partition that is mounted is held, and its program can be found if it is to be run. -/
theorem Mounts.holds {r : Runner} {q : Partition} {ms is : List (Exchange α)} {m : ScopedMount}
    (h : Mounts r (effective plan q) ms (.ok m)) (his : Inspects r.mounted is)
    (hcourse : Course config plan scheduled es (.before r.cursor)) (hsettings : r.config = config)
    (hcurrent : plan.partitions[r.cursor]? = some q)
    (hpath : runsUnder plan q = true →
      ∃ program, programPath config.mountDir q.program = .ok program) :
    Course config plan scheduled (es ++ (ms ++ is).map .asked) (.holding r.cursor) := by
  cases h with
  | intro hacquires =>
    rw [effective_readonlyTarget, effective_filesystem, hsettings] at hacquires
    have hinspects : ∀ x ∈ is, ∃ file, x.request = .readText file := by
      intro x hx
      have hmem : x.request ∈ is.map (·.request) := List.mem_map_of_mem hx
      rw [his] at hmem
      obtain ⟨file, -, hfile⟩ := List.mem_map.mp hmem
      exact ⟨_, hfile.symm⟩
    have hstep := hcourse.step (.mounts hcurrent hpath hacquires hinspects)
    rw [effective_name]
    simpa using hstep

/-- A partition before which a runner stands leads onward. -/
theorem Enters.onward {r : Runner} {q : Partition} {xs : List (Exchange α)} {out : Runner × Bool}
    (h : Enters r (effective plan q) xs out)
    (hcourse : Course config plan scheduled es (.before r.cursor)) (hr : IsReady plan r)
    (hsettings : r.config = config) (hpowerwash : r.powerwashScheduled = scheduled)
    (hcurrent : plan.partitions[r.cursor]? = some q) :
    Onward config plan scheduled r.cursor (es ++ xs.map .asked) out := by
  have hplan : r.plan = withoutSkipped plan := hr.works
  have hidle : runsUnder plan q = false →
      (runsUnder plan q = true → ∃ program, programPath config.mountDir q.program = .ok program) :=
    fun hfalse htrue => absurd (hfalse.symm.trans htrue) Bool.false_ne_true
  cases h with
  | skips hruns hprogram =>
    rw [effective_runs] at hruns
    rw [effective_program] at hprogram
    exact hcourse.step (.skips hcurrent hruns hprogram)
  | @probes ms is m hruns _ hmounts his =>
    rw [effective_runs] at hruns
    have hholds := hmounts.holds his hcourse hsettings hcurrent (hidle hruns)
    have hstep := hholds.step (.probed hcurrent hruns)
    rw [hsettings]
    simpa [Onward] using hstep
  | @sticks ms is ls m _ e hruns _ hmounts his hleaves =>
    rw [effective_runs] at hruns
    have hholds := hmounts.holds his hcourse hsettings hcurrent (hidle hruns)
    have hstep := hholds.step (.sticks e hcurrent hruns)
    have honward := hleaves.onward (r := r.probed) hstep hcurrent rfl hplan hpowerwash
    rw [hsettings]
    simpa using honward
  | misplaced hruns hpath hends =>
    rw [effective_runs] at hruns
    rw [effective_program, hsettings] at hpath
    have hstep := hcourse.step (.misplaced hcurrent hruns hpath)
    rw [List.append_nil] at hstep
    exact hends.arrives hstep hr.mount (Or.inr hplan) hpowerwash
  | unmountable _ hpath hmounts hends =>
    rw [effective_runs, effective_program, hsettings] at hpath
    cases hmounts with
    | intro hacquires =>
      rw [effective_readonlyTarget, effective_filesystem, hsettings] at hacquires
      have hstep := hcourse.step (.unmountable hcurrent hpath hacquires)
      have harrives := hends.arrives (r := r.mounting) hstep hr.mount (Or.inr hplan) hpowerwash
      rw [effective_name]
      simpa [Onward] using harrives
  | @starts program ms is ls m r' hruns hpath hmounts his hls =>
    rw [effective_runs] at hruns
    rw [effective_program, hsettings] at hpath
    have hholds := hmounts.holds his hcourse hsettings hcurrent fun _ => ⟨program, hpath⟩
    cases hls with
    | runs contents pid reply hpid =>
      have hstep := hholds.step (.starts contents reply hcurrent hruns hpath hpid)
      have harguments := programArguments_eq (r := r.mounted) hsettings hplan program
      have hrests : Rests config plan scheduled (.running r.cursor pid false)
          (r.mounted.monitoring ⟨pid, true, reply.isOk⟩) := by
        rw [← hr.suspended]
        exact .running (r := r.mounted.monitoring ⟨pid, true, reply.isOk⟩) hsettings hplan rfl
          (by rw [← hsettings]; rfl) hpowerwash
      refine ⟨_, ?_, hrests⟩
      rw [harguments]
      have hsame : r.mounted.config = config := hsettings
      rw [hsame]
      simpa using hstep
  | @fails program ms is ls xs m r' _ hruns hpath hmounts his hls hleaves =>
    rw [effective_runs] at hruns
    rw [effective_program, hsettings] at hpath
    have hholds := hmounts.holds his hcourse hsettings hcurrent fun _ => ⟨program, hpath⟩
    have harguments := programArguments_eq (r := r.mounted) hsettings hplan program
    have hmount : r.mounted.launching.mount = heldIf config true := by
      rw [← hsettings]
      rfl
    have hsame : r.mounted.config = config := hsettings
    cases hls with
    | refused contents e =>
      have hstep := hholds.step
        (.fails contents (.error e) hcurrent hruns hpath fun _ hpid => nomatch hpid)
      have honward := hleaves.onward (r := r.mounted.launching) hstep hcurrent hmount hplan
        hpowerwash
      rw [harguments, hsame]
      simpa using honward
    | invalid contents pid hpid =>
      have hinvalid : ∀ pid', (.ok pid : Except SystemError Pid) = .ok pid' → ¬0 < pid' := by
        rintro _ ⟨⟩
        exact hpid
      have hstep := hholds.step (.fails contents (.ok pid) hcurrent hruns hpath hinvalid)
      have honward := hleaves.onward (r := r.mounted.launching) hstep hcurrent hmount hplan
        hpowerwash
      rw [harguments, hsame]
      simpa using honward

/-- The way through the partitions arrives. -/
theorem Proceeds.arrives {r r' : Runner} {xs : List (Exchange α)} (h : Proceeds r xs r')
    (hcourse : Course config plan scheduled es (.before r.cursor)) (hr : IsReady plan r)
    (hsettings : r.config = config) (hpowerwash : r.powerwashScheduled = scheduled) :
    Arrives config plan scheduled (es ++ xs.map .asked) r' := by
  induction h generalizing es with
  | sourceless hsource hends =>
    rw [hr.works] at hsource
    have hstep := hcourse.step (.sourceless hsource)
    rw [List.append_nil] at hstep
    exact hends.arrives hstep hr.mount (Or.inr hr.works) hpowerwash
  | finishes _ hnone hends =>
    unfold partition? at hnone
    rw [hr.works, withoutSkipped_getElem?, Option.map_eq_none_iff] at hnone
    have hstep := hcourse.step (.finishes hnone)
    rw [List.append_nil] at hstep
    exact hends.arrives hstep hr.mount (Or.inr hr.works) hpowerwash
  | passes _ hcurrent henters _ ih =>
    obtain ⟨q, hq, rfl⟩ := partition?_eq_some hr.works hcurrent
    have hfurther := henters.further
    have hnext := henters.onward hcourse hr hsettings hpowerwash hq
    rw [Onward, ← hfurther.cursor] at hnext
    have harrives := ih hnext (henters.isReady hr hcurrent) (hfurther.config.trans hsettings)
      (hfurther.powerwash.trans hpowerwash)
    rwa [List.map_append, ← List.append_assoc]
  | stops _ hcurrent henters =>
    obtain ⟨q, hq, rfl⟩ := partition?_eq_some hr.works hcurrent
    exact henters.onward hcourse hr hsettings hpowerwash hq

/-- The beginning of an attempt arrives. -/
theorem Begins.arrives {r r' : Runner} {c : RunnerCall} {xs : List (Exchange α)}
    (h : Begins (r.planned plan) xs r') (hr : IsIdle r) (hsettings : r.config = config)
    (hsilent : Event.exchanges es = []) (hstarts : c.plan? = some plan) :
    ∃ scheduled, Arrives config plan scheduled (es ++ .called c :: xs.map .asked) r' := by
  have hopens : ∀ {ms : List (Exchange α)} {scheduled : Bool} {pt : Point},
      Opens (r.planned plan) ms scheduled pt →
      Course config plan scheduled (es ++ .called c :: ms.map .asked) pt :=
    fun hopens => .opens (r := r.planned plan) hsilent hstarts hsettings rfl hopens
  cases h with
  | unmapped hmaps hends =>
    have harrives := hends.arrives (hopens (.unmapped hmaps)) hr.mount (Or.inl rfl) hr.powerwash
    exact ⟨false, by simpa using harrives⟩
  | unscheduled e hmaps hneeds hends =>
    have harrives := hends.arrives (hopens (.unscheduled e hmaps hneeds)) hr.mount (Or.inl rfl)
      hr.powerwash
    exact ⟨false, by simpa using harrives⟩
  | plain hmaps hneeds hproceeds =>
    have hfirst := hopens (.plain ((r.planned plan).atFirstPartition.progress.progress
      (clampFraction ProgressNumber.zero)) hmaps hneeds)
    have harrives := hproceeds.arrives hfirst (hr.isReady r.powerwashScheduled) hsettings
      hr.powerwash
    exact ⟨false, by simpa [reported] using harrives⟩
  | scheduled hmaps hneeds hproceeds =>
    have hfirst :=
      hopens (.scheduled ((r.planned plan).scheduled.atFirstPartition.progress.progress
      (clampFraction ProgressNumber.zero)) hmaps hneeds)
    have harrives := hproceeds.arrives hfirst (hr.isReady true) hsettings rfl
    exact ⟨true, by simpa [reported] using harrives⟩

/-! ## Happenings on the map -/

omit [ProgressNumber α] in
/-- The end of the running program, by itself. -/
theorem Kills.endsProgram {r killed : Runner} {c : RunningChild} {ks : List (Exchange α)}
    (h : Kills r ks killed) (hc : r.child = some c) : EndsProgram c.pid r.suspended ks := by
  cases h with
  | nothing hnone =>
    rw [hnone] at hc
    cases hc
  | going c' reply hc' hs =>
    obtain rfl := Option.some.inj (hc'.symm.trans hc)
    exact ⟨.ok (), reply, by rw [hs]; rfl⟩
  | resumed c' reply hc' hs =>
    obtain rfl := Option.some.inj (hc'.symm.trans hc)
    exact ⟨.ok (), reply, by rw [hs]; rfl⟩
  | stuck c' e reply hc' hs =>
    obtain rfl := Option.some.inj (hc'.symm.trans hc)
    exact ⟨.error e, reply, by rw [hs]; rfl⟩

omit [ProgressNumber α] in
/-- Ending a program leaves the partition mounted, and the powerwash as it is. -/
theorem Kills.holds {r killed : Runner} {ks : List (Exchange α)} (h : Kills r ks killed) :
    killed.mount = r.mount ∧ killed.powerwashScheduled = r.powerwashScheduled := by
  rcases h.eq_or with rfl | rfl
  · exact ⟨rfl, rfl⟩
  · exact ⟨rfl, rfl⟩

/-- The record of a runner is on the map, given the plan of its attempt if one was started. -/
inductive Charted (config : PostinstallConfig) :
    Option InstallPlan → List (Event α) → Runner → Prop where
  /-- Nothing was started. -/
  | idle {es : List (Event α)} {r : Runner} (settings : r.config = config)
    (silent : Event.exchanges es = []) : Charted config none es r
  /-- The attempt was started. -/
  | begun {plan : InstallPlan} {scheduled : Bool} {es : List (Event α)} {r : Runner}
    (arrives : Arrives config plan scheduled es r) : Charted config (some plan) es r

omit [ProgressNumber α] in
/-- The record of a runner that waits for a program leads to that point. -/
theorem Arrives.running {r : Runner} {pid : Pid} (h : Arrives config plan scheduled es r)
    (hchild : r.childPid = some pid) :
    Course config plan scheduled es (.running r.cursor pid r.suspended) ∧ r.config = config ∧
      r.plan = withoutSkipped plan ∧ r.mount = some ⟨config.mountDir⟩ ∧
      r.powerwashScheduled = scheduled := by
  obtain ⟨pt, hcourse, hrests⟩ := h
  cases hrests with
  | @running _ pid' settings works child mount powerwash =>
    obtain rfl := Option.some.inj (child.symm.trans hchild)
    exact ⟨hcourse, settings, works, mount, powerwash⟩
  | done child =>
    obtain ⟨c, hc, -⟩ := Option.map_eq_some_iff.mp hchild
    rw [child] at hc
    cases hc

/-- A happening at a runner that has begun leads on along the map. -/
theorem Move.arrives {mayCancel : Bool} {r r' : Runner} {fs : List (Event α)}
    (h : Move mayCancel r fs r') (hes : Arrives config plan scheduled es r)
    (hr : Stable (some plan) r) : Arrives config plan scheduled (es ++ fs) r' := by
  cases h with
  | noted c _ hexits =>
    obtain ⟨pt, hcourse, hrests⟩ := hes
    refine ⟨pt, hcourse.step (.noted c ?_), hrests⟩
    rw [hrests.child?_eq]
    exact hexits
  | begins _ hidle =>
    obtain ⟨hnone, -⟩ := hr.isIdle hidle
    cases hnone
  | @waits c x hc hx =>
    obtain ⟨hcourse, hsettings, hworks, hmount, hpowerwash⟩ := hes.running (childPid_eq hc)
    have hattends : ∀ y ∈ [x], y.Attends c.pid := List.forall_mem_singleton.mpr (Or.inl hx)
    exact ⟨_, hcourse.step (.attends hattends),
      .running hsettings hworks (childPid_eq hc) hmount hpowerwash⟩
  | @reads c reads hc =>
    obtain ⟨hcourse, hsettings, hworks, hmount, hpowerwash⟩ := hes.running (childPid_eq hc)
    refine ⟨_, hcourse.step (.attends ?_),
      .running (r := r.afterReads c reads) hsettings hworks rfl hmount hpowerwash⟩
    rintro x (_ | ⟨_, hx⟩)
    · exact Or.inr (Or.inl ⟨_, _, rfl⟩)
    · unfold reports at hx
      obtain ⟨line, -, hline⟩ := List.mem_filterMap.mp hx
      obtain ⟨literal, -, rfl⟩ := Option.map_eq_some_iff.mp hline
      exact Or.inr (Or.inr ⟨_, rfl⟩)
  | @exits _ e pid code p ls xs out hreports hchild hcurrent hleaves hgoesOn =>
    obtain ⟨hcourse, hsettings, hworks, hmount, hpowerwash⟩ := hes.running hchild
    obtain ⟨c, hc, -⟩ := Option.map_eq_some_iff.mp hchild
    obtain ⟨_, hsame, hrunning⟩ := hr.isRunning hc
    obtain rfl := Option.some.inj hsame
    obtain ⟨q, hq, rfl⟩ := partition?_eq_some hworks hcurrent
    have hleaving := hcourse.step (.exits hreports)
    have honward := hleaves.onward hleaving hq hmount hworks hpowerwash
    obtain ⟨r₁, goesOn⟩ := out
    cases goesOn with
    | false =>
      obtain ⟨rfl, rfl⟩ := hgoesOn
      simpa [Onward] using honward
    | true =>
      have hfurther := hleaves.further
      have hready := hleaves.isReady hrunning.result hworks hr.inStep hrunning.weights hcurrent
      rw [Onward, ← hfurther.cursor] at honward
      have harrives := Proceeds.arrives hgoesOn honward hready (hfurther.config.trans hsettings)
        (hfurther.powerwash.trans hpowerwash)
      simpa using harrives
  | suspends hc =>
    obtain ⟨hcourse, hsettings, hworks, hmount, hpowerwash⟩ := hes.running (childPid_eq hc)
    exact ⟨_, hcourse.step .suspends,
      .running (r := { r with suspended := true }) hsettings hworks (childPid_eq hc) hmount
        hpowerwash⟩
  | resumes hc hs =>
    obtain ⟨hcourse, hsettings, hworks, hmount, hpowerwash⟩ := hes.running (childPid_eq hc)
    rw [hs] at hcourse
    exact ⟨_, hcourse.step .resumes,
      .running (r := { r with suspended := false }) hsettings hworks (childPid_eq hc) hmount
        hpowerwash⟩
  | balks e hc hkind =>
    obtain ⟨hcourse, hsettings, hworks, hmount, hpowerwash⟩ := hes.running (childPid_eq hc)
    exact ⟨_, hcourse.step (.balks e hkind),
      .running hsettings hworks (childPid_eq hc) hmount hpowerwash⟩
  | aborts hc hx _ haborts =>
    obtain ⟨hcourse, hsettings, hworks, hmount, hpowerwash⟩ := hes.running (childPid_eq hc)
    cases haborts with
    | intro hkills hends =>
      obtain ⟨hheld, hscheduled⟩ := hkills.holds
      have hending := hcourse.step (.aborts hx (hkills.endsProgram hc))
      have harrives := hends.arrives hending (hheld.trans hmount)
        (Or.inr (hkills.keeps.1.trans hworks)) (hscheduled.trans hpowerwash)
      simpa using harrives
  | cancels _ hbegun hongoing hcancels =>
    obtain ⟨_, -, hrunning⟩ := hr.isRunning_of_result hbegun hongoing
    obtain ⟨c, hc, -⟩ := hrunning.child
    obtain ⟨hcourse, hsettings, hworks, hmount, hpowerwash⟩ := hes.running (childPid_eq hc)
    cases hcancels with
    | @intro ks us xs killed _ hkills hus hends =>
      obtain ⟨hheld, hscheduled⟩ := hkills.holds
      have hending := hcourse.step (.cancels (hkills.endsProgram hc))
      rw [hheld, hmount] at hus
      have harrives := hends.arrives_released hending hus (Or.inr (hkills.keeps.1.trans hworks))
        (hscheduled.trans hpowerwash)
      simpa using harrives

/-- Every happening stays on the map. -/
theorem Move.charted {mayCancel : Bool} {start : Option InstallPlan} {r r' : Runner}
    {fs : List (Event α)} (h : Move mayCancel r fs r') (hes : Charted config start es r)
    (hr : Stable start r) : Charted config (start.or (Event.firstPlan fs)) (es ++ fs) r' := by
  cases hes with
  | begun harrives => exact .begun (h.arrives harrives hr)
  | idle hsettings hsilent =>
    have hchild : ∀ {c : RunningChild}, r.child ≠ some c := by
      intro c hc
      obtain ⟨_, hnone, -⟩ := hr.isRunning hc
      cases hnone
    cases h with
    | noted c hstarts =>
      rw [hr.or_noted hstarts]
      exact .idle hsettings (by simp [hsilent])
    | begins hstarts hidle hbegins =>
      obtain ⟨-, hidle'⟩ := hr.isIdle hidle
      obtain ⟨scheduled, harrives⟩ := hbegins.arrives hidle' hsettings hsilent hstarts
      simpa [hstarts] using Charted.begun harrives
    | waits hc => exact absurd hc hchild
    | reads _ hc => exact absurd hc hchild
    | exits _ hpid =>
      obtain ⟨c, hc, -⟩ := Option.map_eq_some_iff.mp hpid
      exact absurd hc hchild
    | suspends hc => exact absurd hc hchild
    | resumes hc => exact absurd hc hchild
    | balks _ hc => exact absurd hc hchild
    | aborts hc => exact absurd hc hchild
    | cancels _ hbegun =>
      have hsome := hr.isSome hbegun
      cases hsome

/-- Every run of happenings stays on the map. -/
theorem Moves.charted {mayCancel : Bool} {start : Option InstallPlan} {r r' : Runner}
    {fs : List (Event α)} (h : Moves mayCancel r fs r') (hes : Charted config start es r)
    (hr : Stable start r) : Charted config (start.or (Event.firstPlan fs)) (es ++ fs) r' := by
  induction h generalizing start es with
  | nil r => simpa using hes
  | cons hmove _ ih =>
    have hcharted := ih (hmove.charted hes hr) (hmove.stable hr)
    rwa [Event.firstPlan_append, ← Option.or_assoc, ← List.append_assoc]

/-! ## Histories on the map -/

/-- The record of any calls on a new runner is on the map. -/
theorem afterCalls_charted (config : PostinstallConfig) (cs : List RunnerCall) (p : Platform α σ)
    (s : σ) : Charted config (RunnerCall.firstPlan cs) (record p (new config) cs s)
      (afterCalls config cs p s).result := by
  have hnew : Charted config none ([] : List (Event α)) (new config) := .idle rfl rfl
  have hcharted := (afterCalls_moves config cs p s).charted hnew (stable_new config)
  rwa [record_firstPlan] at hcharted

omit [ProgressNumber α] in
/-- A runner that has a result is on the map where the attempt has ended. -/
theorem Charted.done {start : Option InstallPlan} {r : Runner} {code : ErrorCode}
    (h : Charted config start es r) (hr : Stable start r) (hresult : r.result = some code) :
    ∃ plan scheduled, start = some plan ∧ Course config plan scheduled es (.done code) := by
  obtain ⟨hsome, hdone⟩ := hr.isDone hresult
  cases h with
  | idle => cases hsome
  | @begun plan scheduled _ _ harrives =>
    obtain ⟨pt, hcourse, hrests⟩ := harrives
    cases hrests with
    | running _ _ child =>
      obtain ⟨c, hc, -⟩ := Option.map_eq_some_iff.mp child
      rw [hdone.child] at hc
      cases hc
    | done _ result =>
      obtain rfl := Option.some.inj (result.symm.trans hresult)
      exact ⟨plan, scheduled, rfl, hcourse⟩

/-- The record of any lifetime is on the map. -/
theorem lifetime_charted (config : PostinstallConfig) (cs : List RunnerCall) (p : Platform α σ)
    (s : σ) : Charted config (RunnerCall.firstPlan cs) (lifetimeRecord config cs p s)
      (afterLifetime config cs p s).result := by
  obtain ⟨ys, us, hrecord, hmoves, hus, hrests⟩ := afterLifetime_moves config cs p s
  have hstable := afterCalls_stable config cs p s
  have hcharted := hmoves.charted (afterCalls_charted config cs p s) hstable
  have hstable' := hmoves.stable_asked hstable
  rw [Event.firstPlan_map_asked, Option.or_none] at hcharted
  rw [hrecord, List.map_append, ← List.append_assoc]
  by_cases hidle : (afterLifetime config cs p s).result.stage = .idle
  · unfold Unmaps at hus
    rw [if_neg (fun hand => hand.1 hidle), List.map_eq_nil_iff] at hus
    rwa [hus, List.map_nil, List.append_nil]
  · obtain ⟨code, hcode⟩ := Option.isSome_iff_exists.mp (hrests.resolve_left hidle)
    obtain ⟨plan, scheduled, hplan, hcourse⟩ := hcharted.done hstable' hcode
    have hrests' : Rests config plan scheduled (.done code) (afterLifetime config cs p s).result :=
      .done (hstable'.isDone hcode).2.child hcode
    rw [hplan]
    rcases hus.eq with rfl | ⟨reply, rfl⟩
    · exact .begun ⟨_, by simpa using hcourse, hrests'⟩
    · exact .begun ⟨_, hcourse.step (.unmaps reply), hrests'⟩

/-- The record of a lifetime in which an attempt is started leads to the end of that attempt, which
gave the result. -/
theorem lifetime_course (config : PostinstallConfig) (cs : List RunnerCall) (p : Platform α σ)
    (s : σ) {plan : InstallPlan} (hplan : RunnerCall.firstPlan cs = some plan) :
    ∃ scheduled code, Course config plan scheduled (lifetimeRecord config cs p s) (.done code) ∧
      (afterLifetime config cs p s).result.result = some code := by
  have hstable := afterLifetime_stable config cs p s
  obtain ⟨code, hcode⟩ := afterLifetime_result config cs p s (Option.isSome_of_eq_some hplan)
  obtain ⟨plan', scheduled, hplan', hcourse⟩ :=
    (lifetime_charted config cs p s).done hstable hcode
  obtain rfl := Option.some.inj (hplan.symm.trans hplan')
  exact ⟨scheduled, code, hcourse, hcode⟩

end Runner

end SlotUpdate
