import Mathlib.Data.List.Induction
import SlotUpdate.Proofs.List.Places
import SlotUpdate.Proofs.Mount.ProgramPath
import SlotUpdate.Proofs.Postinstall.Programs

/-!
# Programs are started in order

An attempt takes the partitions of its plan in order and never comes back to one. At a partition it
mounts the device, and then it starts the program at most once, if that is to run and is below the
mount directory. A program that is not there ends the attempt before its partition or a later one is
touched. `OrdersLaunches` says this of a record.

What touches partitions is a sequence of visits, one for a partition, with increasing places in the
plan (`Tour`). `Touches` says what a step can add to it: seen from the visits, an attempt is on its
way to a partition, at one that is mounted, or over (`Leg`). Every step does one of these
(`Step.touches`), so that the visits stay in order (`Touches.tours`), and programs are started one
after the other (`Step.keeps_launchLaw`).
-/

namespace SlotUpdate

variable {α σ : Type}

/-! ## Visits -/

/-- Whether a request is about a partition: its name, its device or its program. -/
def Request.touches : Request α → Bool
  | .mountOptions _ | .pathExists _ | .setReadonly _ _ | .mount _ _ _ _ | .readProgram _
  | .spawn _ _ => true
  | _ => false

/-- The requests of a record that are about partitions. -/
def touched (es : List (Event α)) : List (Request α) :=
  ((Event.exchanges es).map (·.request)).filter Request.touches

/-- Nothing touches no partition. -/
@[simp]
theorem touched_nil : touched ([] : List (Event α)) = [] := rfl

/-- Calls touch no partition. -/
@[simp]
theorem touched_called (c : RunnerCall) (es : List (Event α)) :
    touched (.called c :: es) = touched es := rfl

/-- A request is found among those that touch partitions if it does. -/
@[simp]
theorem touched_asked (x : Exchange α) (es : List (Event α)) :
    touched (.asked x :: es) =
      if x.request.touches then x.request :: touched es else touched es := List.filter_cons

/-- What touches partitions does so in the parts of a record. -/
@[simp]
theorem touched_append (es fs : List (Event α)) :
    touched (es ++ fs) = touched es ++ touched fs := by
  simp [touched]

/-- Where nothing was asked for, no partition was touched. -/
theorem touched_of_silent {es : List (Event α)} (h : Event.exchanges es = []) :
    touched es = [] := by
  unfold touched
  rw [h]
  rfl

/-- What touches partitions depends on the requests only. -/
theorem touched_map_asked (xs : List (Exchange α)) :
    touched (xs.map .asked) = (xs.map (·.request)).filter Request.touches := by
  unfold touched
  rw [Event.exchanges_map_asked]

/-- Exchanges that are not about what touches partitions touch none. -/
theorem touched_eq_nil {xs : List (Exchange α)} (h : ∀ x ∈ xs, x.request.touches = false) :
    touched (xs.map .asked) = [] := by
  rw [touched_map_asked, List.filter_eq_nil_iff]
  intro q hq hq'
  obtain ⟨x, hx, rfl⟩ := List.mem_map.mp hq
  rw [h x hx] at hq'
  cases hq'

/-- Exchanges that are about neither mounts nor files nor programs touch no partition. -/
theorem touched_of_about {topics : List Topic} {xs : List (Exchange α)} (h : About topics xs)
    (hother : ∀ topic ∈ topics, topic ∉ [Topic.mounts, .files, .programs]) :
    touched (xs.map .asked) = [] := by
  apply touched_eq_nil
  rintro ⟨request, reply⟩ hx
  have htopic := hother _ (h _ hx)
  cases request <;> first | rfl | simp at htopic

namespace Runner

variable {config : PostinstallConfig} {plan : InstallPlan} {p : Partition}

/-- The requests with which a partition is mounted. -/
def mountRequests (config : PostinstallConfig) (p : Partition) (options : String) :
    List (Request α) :=
  [.mountOptions p.name, .pathExists p.readonlyTarget, .pathExists config.mountDir,
    .setReadonly p.readonlyTarget true,
    .mount p.readonlyTarget config.mountDir p.filesystem options]

/-- The program of a partition is started: what has to hold of it and of its arguments. -/
structure IsLaunch (config : PostinstallConfig) (plan : InstallPlan) (p : Partition)
    (program : Path) (argv : List String) : Prop where
  /-- The program is to run, and is not one that may be skipped and is. -/
  selected : p.runs = true ∧ ¬(p.optional = true ∧ plan.runPostinstall = false)
  /-- It is the one that the path of the partition leads to. -/
  resolved : programPath config.mountDir p.program = .ok program
  /-- It is below the mount directory, and no step on the way leads up. -/
  below : program.IsBelow config.mountDir
  /-- It gets its own path, the slot and the number of the status pipe, and a one exactly if the
  plan is a triggered one. -/
  arguments : argv = [program.text, toString plan.targetSlot.toNat, toString config.statusFd] ++
    if plan.partitions.length = 1 ∧ plan.switchSlot = false ∧
      "manifest-bytes".toList <+: plan.downloadUrl.toList then ["1"] else []

/-- The program of a partition is to run, but its path is refused. The path of a program that is not
to run is not looked at. -/
def Refuses (config : PostinstallConfig) (plan : InstallPlan) (p : Partition) : Prop :=
  runsUnder plan p = true ∧ ∃ e, programPath config.mountDir p.program = .error e

/-- The requests that touch a partition when an attempt comes to it. -/
inductive Visits (config : PostinstallConfig) (plan : InstallPlan) (p : Partition) :
    List (Request α) → Prop where
  /-- The partition is mounted, or mounting goes as far as it can. -/
  | mounts {qs : List (Request α)} (options : String) (accepted : ¬Refuses config plan p)
    (part : qs <+: mountRequests config p options) : Visits config plan p qs
  /-- The partition is mounted, and its program is started. -/
  | launches {program : Path} {argv : List String} (options : String)
    (launches : IsLaunch config plan p program argv) :
    Visits config plan p
      (mountRequests config p options ++ [.readProgram program, .spawn argv config.statusFd])

/-- A plan is triggered if it has a single partition, switches no slots, and comes from the
manifest. -/
theorem isTriggered_iff (plan : InstallPlan) : plan.isTriggered = true ↔
    plan.partitions.length = 1 ∧ plan.switchSlot = false ∧
      "manifest-bytes".toList <+: plan.downloadUrl.toList := by
  unfold InstallPlan.isTriggered InstallPlan.triggeredSource
  rw [Bool.and_eq_true, Bool.and_eq_true, beq_iff_eq, Bool.not_eq_true', and_assoc,
    List.isPrefixOf_iff_prefix]

/-- A program that is started is one that has to be, with the arguments that it has to get. -/
theorem isLaunch_of_programPath {program : Path} (hruns : runsUnder plan p = true)
    (hpath : programPath config.mountDir p.program = .ok program) :
    IsLaunch config plan p program (launchArguments config plan program) where
  selected := by
    unfold runsUnder at hruns
    rw [Bool.and_eq_true, Bool.not_eq_true', Bool.and_eq_false_iff] at hruns
    refine ⟨hruns.1, ?_⟩
    rintro ⟨hoptional, hskips⟩
    simp [hoptional, hskips] at hruns
  resolved := hpath
  below := isBelow_of_programPath hpath
  arguments := by
    unfold launchArguments
    simp only [isTriggered_iff]

/-- A program that is to run and was found is not refused. -/
theorem not_refuses (hpath : runsUnder plan p = true →
    ∃ program, programPath config.mountDir p.program = .ok program) : ¬Refuses config plan p := by
  rintro ⟨hruns, e, herror⟩
  obtain ⟨program, hok⟩ := hpath hruns
  rw [hok] at herror
  cases herror

/-! ## Tours -/

/-- The partitions before a place are dealt with, those that are touched one after the other. -/
structure Tour (config : PostinstallConfig) (plan : InstallPlan) (n : Nat)
    (visits : List (Nat × List (Request α))) : Prop where
  /-- The visits go forward. -/
  increasing : visits.Pairwise fun v w => v.1 < w.1
  /-- Each visit is one of a partition before the place. -/
  visited : ∀ v ∈ visits, v.1 < n ∧ ∃ p, plan.partitions[v.1]? = some p ∧ Visits config plan p v.2
  /-- No partition before the place is refused. -/
  accepted : ∀ i p, i < n → plan.partitions[i]? = some p → ¬Refuses config plan p

namespace Tour

variable {n : Nat} {visits : List (Nat × List (Request α))}

/-- At first no partition is dealt with. -/
theorem start : Tour config plan 0 ([] : List (Nat × List (Request α))) where
  increasing := .nil
  visited := fun _ hmem => nomatch hmem
  accepted := fun _ _ hlt => absurd hlt (Nat.not_lt_zero _)

/-- The next partition is dealt with. -/
theorem accepted_succ (h : Tour config plan n visits) (hcurrent : plan.partitions[n]? = some p)
    (haccepted : ¬Refuses config plan p) :
    ∀ i q, i < n + 1 → plan.partitions[i]? = some q → ¬Refuses config plan q := by
  intro i q hlt hq
  rcases Nat.lt_succ_iff_lt_or_eq.mp hlt with hlt | rfl
  · exact h.accepted i q hlt hq
  · obtain rfl := Option.some.inj (hcurrent.symm.trans hq)
    exact haccepted

/-- The next partition is left out. -/
theorem skip (h : Tour config plan n visits) (hcurrent : plan.partitions[n]? = some p)
    (haccepted : ¬Refuses config plan p) : Tour config plan (n + 1) visits where
  increasing := h.increasing
  visited := by
    intro v hv
    obtain ⟨hlt, hvisits⟩ := h.visited v hv
    exact ⟨Nat.lt_succ_of_lt hlt, hvisits⟩
  accepted := h.accepted_succ hcurrent haccepted

/-- The next partition is visited. -/
theorem visit {qs : List (Request α)} (h : Tour config plan n visits)
    (hcurrent : plan.partitions[n]? = some p) (haccepted : ¬Refuses config plan p)
    (hvisits : Visits config plan p qs) : Tour config plan (n + 1) (visits ++ [(n, qs)]) where
  increasing := by
    rw [List.pairwise_append]
    refine ⟨h.increasing, List.pairwise_singleton _ _, ?_⟩
    intro v hv w hw
    rw [List.mem_singleton.mp hw]
    exact (h.visited v hv).1
  visited := by
    intro v hv
    rcases List.mem_append.mp hv with hv | hv
    · exact (h.skip hcurrent haccepted).visited v hv
    · rw [List.mem_singleton.mp hv]
      exact ⟨Nat.lt_succ_self n, p, hcurrent, hvisits⟩
  accepted := h.accepted_succ hcurrent haccepted

end Tour

/-- Where an attempt is, seen from its visits. -/
inductive Leg where
  /-- On the way to a partition. -/
  | toward (i : Nat)
  /-- At a partition, which is mounted. -/
  | inside (i : Nat)
  /-- Past the last visit. -/
  | finished
  deriving Repr, DecidableEq

end Runner

/-- Where the attempt is at a point, seen from its visits. -/
def Point.leg : Point → Runner.Leg
  | before i => .toward i
  | holding i => .inside i
  | running i _ _ | leaving i _ _ => .toward (i + 1)
  | ending _ _ | done _ => .finished

namespace Runner

variable {config : PostinstallConfig} {plan : InstallPlan} {scheduled : Bool}

/-- What was touched so far is a tour to where the attempt is. -/
def Leg.Tours (config : PostinstallConfig) (plan : InstallPlan) (qs : List (Request α)) :
    Leg → Prop
  | .toward i => ∃ visits, Tour config plan i visits ∧ qs = visits.flatMap (·.2)
  | .inside i => ∃ visits p options, Tour config plan i visits ∧ plan.partitions[i]? = some p ∧
    ¬Refuses config plan p ∧ qs = visits.flatMap (·.2) ++ mountRequests config p options
  | .finished => ∃ n visits, Tour config plan n visits ∧ qs = visits.flatMap (·.2)

/-- What a step touches, and where it leads. -/
inductive Touches (config : PostinstallConfig) (plan : InstallPlan) :
    Leg → List (Event α) → Leg → Prop where
  /-- Nothing happens to partitions. -/
  | nothing (leg : Leg) {fs : List (Event α)} (untouched : touched fs = []) :
    Touches config plan leg fs leg
  /-- No partition is visited any more. -/
  | stops (i : Nat) {fs : List (Event α)} (untouched : touched fs = []) :
    Touches config plan (.toward i) fs .finished
  /-- A partition is left out. -/
  | skips {i : Nat} {p : Partition} {fs : List (Event α)} (current : plan.partitions[i]? = some p)
    (accepted : ¬Refuses config plan p) (untouched : touched fs = []) :
    Touches config plan (.toward i) fs (.toward (i + 1))
  /-- A partition cannot be mounted. -/
  | fails {i : Nat} {p : Partition} {fs : List (Event α)} (options : String)
    (current : plan.partitions[i]? = some p) (accepted : ¬Refuses config plan p)
    (part : touched fs <+: mountRequests config p options) :
    Touches config plan (.toward i) fs .finished
  /-- A partition is mounted. -/
  | mounts {i : Nat} {p : Partition} {fs : List (Event α)} (options : String)
    (current : plan.partitions[i]? = some p) (accepted : ¬Refuses config plan p)
    (mounts : touched fs = mountRequests config p options) :
    Touches config plan (.toward i) fs (.inside i)
  /-- A mounted partition is left. -/
  | leaves (i : Nat) {fs : List (Event α)} (untouched : touched fs = []) :
    Touches config plan (.inside i) fs (.toward (i + 1))
  /-- The program of a mounted partition is started. -/
  | launches {i : Nat} {p : Partition} {program : Path} {argv : List String}
    (contents : Option Bytes) (reply : Except SystemError Pid) {fs : List (Event α)}
    (current : plan.partitions[i]? = some p) (launches : IsLaunch config plan p program argv)
    (untouched : touched fs = []) :
    Touches config plan (.inside i)
      (.asked ⟨.readProgram program, contents⟩ :: .asked ⟨.spawn argv config.statusFd, reply⟩ :: fs)
      (.toward (i + 1))

/-- Whatever a step touches, the visits stay in order. -/
theorem Touches.tours {leg leg' : Leg} {fs : List (Event α)} {qs : List (Request α)}
    (h : Touches config plan leg fs leg') (htours : leg.Tours config plan qs) :
    leg'.Tours config plan (qs ++ touched fs) := by
  cases h with
  | nothing _ huntouched =>
    rwa [huntouched, List.append_nil]
  | stops i huntouched =>
    obtain ⟨visits, htour, rfl⟩ := htours
    rw [huntouched, List.append_nil]
    exact ⟨i, visits, htour, rfl⟩
  | skips hcurrent haccepted huntouched =>
    obtain ⟨visits, htour, rfl⟩ := htours
    rw [huntouched, List.append_nil]
    exact ⟨visits, htour.skip hcurrent haccepted, rfl⟩
  | fails options hcurrent haccepted hpart =>
    obtain ⟨visits, htour, rfl⟩ := htours
    exact ⟨_, _, htour.visit hcurrent haccepted (.mounts options haccepted hpart), by simp⟩
  | mounts options hcurrent haccepted hmounts =>
    obtain ⟨visits, htour, rfl⟩ := htours
    rw [hmounts]
    exact ⟨visits, _, options, htour, hcurrent, haccepted, rfl⟩
  | leaves i huntouched =>
    obtain ⟨visits, p, options, htour, hcurrent, haccepted, rfl⟩ := htours
    rw [huntouched, List.append_nil]
    have hpart : (mountRequests config p options : List (Request α)) <+:
        mountRequests config p options := List.prefix_refl _
    exact ⟨_, htour.visit hcurrent haccepted (.mounts options haccepted hpart), by simp⟩
  | launches contents reply hcurrent hlaunches huntouched =>
    obtain ⟨visits, p, options, htour, hcurrent', haccepted, rfl⟩ := htours
    -- The partition whose program is started is the one that was mounted.
    obtain rfl := Option.some.inj (hcurrent.symm.trans hcurrent')
    refine ⟨_, htour.visit hcurrent haccepted (.launches options hlaunches), ?_⟩
    simp [Request.touches, huntouched]

/-! ## Steps -/

/-- Unmounting touches no partition: it is about the mount directory. -/
theorem Unmounts.touched_eq {held : Option ScopedMount} {us : List (Exchange α)}
    (h : Unmounts held us) : touched (us.map .asked) = [] := by
  rw [touched_map_asked, h]
  cases held <;> rfl

/-- Looking for something mounted touches no partition. -/
theorem Clears.touched_eq {dir : Path} {cs : List (Exchange α)}
    {outcome : Except MountError Unit} (h : Clears dir cs outcome) :
    touched (cs.map .asked) = [] := by
  cases h <;> rfl

/-- Mounting a partition touches it with all of its requests in order, or with the first ones if it
fails. -/
theorem Acquires.touches {options : String} {xs : List (Exchange α)}
    {outcome : Except MountError ScopedMount}
    (h : Acquires p.readonlyTarget config.mountDir p.filesystem options xs outcome) :
    touched ((⟨.mountOptions p.name, options⟩ :: xs).map .asked) <+:
        mountRequests config p options ∧
      (outcome.isOk = true → touched ((⟨.mountOptions p.name, options⟩ :: xs).map .asked) =
        mountRequests config p options) := by
  cases h with
  | noDevice => simp [mountRequests, Request.touches, Except.isOk, Except.toBool]
  | noDirectory => simp [mountRequests, Request.touches, Except.isOk, Except.toBool]
  | blocked hclears =>
    simp [hclears.touched_eq, mountRequests, Request.touches, Except.isOk, Except.toBool]
  | writable e hclears =>
    simp [hclears.touched_eq, mountRequests, Request.touches, Except.isOk, Except.toBool]
  | refused e hclears => simp [hclears.touched_eq, mountRequests, Request.touches]
  | mounted hclears => simp [hclears.touched_eq, mountRequests, Request.touches]

/-- Looking for build properties touches no partition: it is about the mount directory. -/
theorem touched_of_inspects {is : List (Exchange α)}
    (h : ∀ x ∈ is, ∃ file, x.request = .readText file) : touched (is.map .asked) = [] := by
  apply touched_eq_nil
  intro x hx
  obtain ⟨file, hfile⟩ := h x hx
  rw [hfile]
  rfl

/-- Looking after a program touches no partition. -/
theorem touched_of_attends {pid : Pid} {xs : List (Exchange α)} (h : ∀ x ∈ xs, x.Attends pid) :
    touched (xs.map .asked) = [] := by
  apply touched_eq_nil
  intro x hx
  refine (h x hx).elim ?_ ?_ ?_ ?_ ?_ ?_ <;> intros <;> rfl

/-- Ending a program touches no partition. -/
theorem EndsProgram.touched_eq {pid : Pid} {stopped : Bool} {ks : List (Exchange α)}
    (h : EndsProgram pid stopped ks) : touched (ks.map .asked) = [] := by
  obtain ⟨resumed, ended, rfl⟩ := h
  cases stopped <;> rfl

/-- Every step touches partitions in one of the ways. -/
theorem Step.touches {pt pt' : Point} {fs : List (Event α)}
    (h : Step config plan scheduled pt fs pt') : Touches config plan pt.leg fs pt'.leg := by
  cases h with
  | noted => exact .nothing _ rfl
  | sourceless => exact .stops _ rfl
  | finishes => exact .stops _ rfl
  | skips hcurrent hidle =>
    have haccepted : ¬Refuses config plan _ := not_refuses fun hruns => by
      rw [hidle] at hruns
      cases hruns
    exact .skips hcurrent haccepted rfl
  | misplaced => exact .stops _ rfl
  | unmountable hcurrent hpath hacquires =>
    exact .fails _ hcurrent (not_refuses hpath) hacquires.touches.1
  | @mounts i p options xs is m hcurrent hpath hacquires hinspects =>
    refine .mounts options hcurrent (not_refuses hpath) ?_
    rw [← List.cons_append, List.map_append, touched_append, touched_of_inspects hinspects,
      List.append_nil]
    exact hacquires.touches.2 rfl
  | probed => exact .leaves _ rfl
  | sticks => exact .leaves _ rfl
  | starts contents reply hcurrent hruns hpath =>
    exact .launches contents _ hcurrent (isLaunch_of_programPath hruns hpath) rfl
  | fails contents reply hcurrent hruns hpath =>
    exact .launches contents _ hcurrent (isLaunch_of_programPath hruns hpath) rfl
  | attends hattends => exact .nothing _ (touched_of_attends hattends)
  | suspends => exact .nothing _ rfl
  | resumes => exact .nothing _ rfl
  | balks => exact .nothing _ rfl
  | exits hreports => rcases hreports with rfl | rfl <;> exact .nothing _ rfl
  | passes _ _ _ hus =>
    refine .nothing _ ?_
    rw [List.map_append, touched_append, hus.touched_eq]
    rfl
  | givesUp => exact .stops _ rfl
  | aborts hfails hkills =>
    obtain ⟨e, rfl | rfl⟩ := hfails <;> exact .stops _ hkills.touched_eq
  | cancels hkills => exact .stops _ hkills.touched_eq
  | ends hus hss hps =>
    have hslots := touched_of_about hss.about (by decide)
    have hpowerwash := touched_of_about (about_of_takesBack hps) (by decide)
    refine .nothing _ ?_
    rw [List.map_append, List.map_append, List.map_append, touched_append, touched_append,
      touched_append, hus.touched_eq, hslots, hpowerwash]
    rfl
  | unmaps => exact .nothing _ rfl

/-! ## One program at a time -/

/-- Before a program is started, every program that was launched has exited. -/
def launchLaw (past : List (Event α)) : Event α → Prop
  | .asked ⟨.spawn _ _, _⟩ =>
    (Ledger.ofRecord past).alive = [] ∧ (Ledger.ofRecord past).terminated = []
  | _ => True

/-- Where nothing touches a partition, no program is started. -/
theorem keeps_launchLaw_of_untouched {past fs : List (Event α)}
    (h : ∀ argv statusFd, .spawn argv statusFd ∉ touched fs) : Keeps launchLaw past fs := by
  apply Keeps.of_forall
  intro e he past
  cases e with
  | called c => trivial
  | asked x =>
    obtain ⟨request, reply⟩ := x
    cases request with
    | spawn argv statusFd =>
      refine absurd ?_ (h argv statusFd)
      exact List.mem_filter.mpr ⟨List.mem_map_of_mem (Event.mem_exchanges.mpr he), rfl⟩
    | _ => trivial

/-- Where programs are started only when every other one has exited, at most one is alive. -/
theorem alive_length_le_one {es : List (Event α)} (h : Keeps launchLaw [] es) :
    (Ledger.ofRecord es).alive.length ≤ 1 := by
  induction es using List.reverseRecOn with
  | nil => exact Nat.zero_le 1
  | append_singleton es e ih =>
    obtain ⟨hes, hlaw, -⟩ := (keeps_append es [e]).mp h
    rw [Ledger.ofRecord_append, Ledger.events_cons, Ledger.events_nil]
    by_cases hspawn : ∃ argv statusFd reply, e = .asked ⟨.spawn argv statusFd, reply⟩
    · obtain ⟨argv, statusFd, reply, rfl⟩ := hspawn
      have hnone : (Ledger.ofRecord es).alive = [] := hlaw.1
      cases reply with
      | error e =>
        have hsame : (Ledger.ofRecord es).alive.length ≤ 1 := ih hes
        exact hsame
      | ok pid =>
        have hlaunch : ((Ledger.ofRecord es).launch pid).alive.length ≤ 1 := by
          unfold Ledger.launch
          split <;> simp [hnone]
        exact hlaunch
    · have hother : ∀ argv statusFd reply, e ≠ .asked ⟨.spawn argv statusFd, reply⟩ :=
        fun argv statusFd reply heq => hspawn ⟨argv, statusFd, reply, heq⟩
      exact Nat.le_trans (Ledger.alive_event_le _ hother) (ih hes)

/-- No program is started to mount a partition. -/
theorem spawn_not_mem_mountRequests (options : String) (argv : List String) (statusFd : Int) :
    (.spawn argv statusFd : Request α) ∉ mountRequests config p options := by
  simp [mountRequests]

/-- A step starts a program only where every other one has exited. -/
theorem Touches.keeps_launchLaw {leg leg' : Leg} {past fs : List (Event α)}
    (h : Touches config plan leg fs leg')
    (halone : ∀ i, leg = .inside i →
      (Ledger.ofRecord past).alive = [] ∧ (Ledger.ofRecord past).terminated = []) :
    Keeps launchLaw past fs := by
  have hquiet : ∀ {past gs : List (Event α)}, touched gs = [] → Keeps launchLaw past gs := by
    intro past gs hgs
    apply keeps_launchLaw_of_untouched
    rw [hgs]
    exact fun _ _ => List.not_mem_nil
  cases h with
  | nothing _ huntouched => exact hquiet huntouched
  | stops _ huntouched => exact hquiet huntouched
  | skips _ _ huntouched => exact hquiet huntouched
  | leaves _ huntouched => exact hquiet huntouched
  | fails options _ _ hpart =>
    apply keeps_launchLaw_of_untouched
    exact fun _ _ hmem => spawn_not_mem_mountRequests options _ _ (hpart.subset hmem)
  | mounts options _ _ hmounts =>
    apply keeps_launchLaw_of_untouched
    rw [hmounts]
    exact spawn_not_mem_mountRequests options
  | launches contents reply _ _ huntouched =>
    refine ⟨trivial, ?_, hquiet huntouched⟩
    have hread : ∀ program, Ledger.ofRecord (past ++ [.asked ⟨.readProgram program, contents⟩]) =
        Ledger.ofRecord past :=
      fun program => Ledger.ofRecord_append past [.asked ⟨.readProgram program, contents⟩]
    unfold launchLaw
    rw [hread]
    exact halone _ rfl

/-- As long as an attempt visits partitions no step tells a program to end. -/
theorem Step.terminated_eq {pt pt' : Point} {fs : List (Event α)}
    (h : Step config plan scheduled pt fs pt') (hon : pt'.leg ≠ .finished) (l : Ledger) :
    (l.events fs).terminated = l.terminated := by
  have hother : ∀ (topics : List Topic) {xs : List (Exchange α)}, About topics xs →
      .programs ∉ topics → (l.events (xs.map .asked)).terminated = l.terminated := by
    intro topics xs hxs hnone
    rw [Ledger.events_of_about hxs hnone]
  cases h with
  | noted c =>
    cases c with
    | exited pid code => exact l.exit_terminated pid
    | _ => rfl
  | skips => rfl
  | mounts _ _ hacquires hinspects =>
    exact hother _ (hacquires.about_inspected _ hinspects) (by decide)
  | probed => rfl
  | sticks => rfl
  | starts => exact l.launch_terminated _
  | fails _ reply =>
    cases reply with
    | error e => rfl
    | ok pid => exact l.launch_terminated pid
  | attends hattends => rw [Ledger.events_of_attends hattends]
  | suspends => rfl
  | resumes => rfl
  | balks e hkind => rcases hkind with rfl | ⟨rfl, -⟩ <;> rfl
  | exits hreports => rcases hreports with rfl | rfl <;> exact l.exit_terminated _
  | passes share _ _ hus => exact hother _ (hus.about_passed share) (by decide)
  | _ => exact absurd rfl hon

/-- Only from an attempt that goes on does a step lead to one. -/
theorem Touches.ne_finished {leg leg' : Leg} {fs : List (Event α)}
    (h : Touches config plan leg fs leg') (hon : leg' ≠ .finished) : leg ≠ .finished := by
  cases h with
  | nothing => exact hon
  | _ => exact nofun

/-- At a partition that is mounted no program runs yet. -/
theorem child?_of_leg {pt : Point} {i : Nat} (h : pt.leg = .inside i) : pt.child? = none := by
  cases pt with
  | holding => rfl
  | _ => cases h

/-- An attempt begins without touching a partition, and before the first one if it goes on. -/
theorem Opens.touches {r : Runner} {before : List (Event α)} {c : RunnerCall}
    {xs : List (Exchange α)} {pt : Point} (h : Opens r xs scheduled pt)
    (hsilent : Event.exchanges before = []) :
    touched (before ++ .called c :: xs.map .asked) = [] ∧
      (pt.leg = .finished ∨ pt.leg = .toward 0) := by
  have hbefore : touched before = [] := touched_of_silent hsilent
  have hxs : touched (xs.map .asked) = [] := touched_of_about h.about (by decide)
  refine ⟨by simp [hbefore, hxs], ?_⟩
  cases h with
  | unmapped => exact Or.inl rfl
  | unscheduled => exact Or.inl rfl
  | plain => exact Or.inr rfl
  | scheduled => exact Or.inr rfl

/-- What an attempt has touched is a tour to where it is. -/
theorem Course.tours {es : List (Event α)} {pt : Point} (h : Course config plan scheduled es pt) :
    pt.leg.Tours config plan (touched es) := by
  induction h with
  | opens hsilent _ _ _ hopens =>
    obtain ⟨huntouched, hleg | hleg⟩ := hopens.touches hsilent
    · rw [huntouched, hleg]
      exact ⟨0, [], .start, rfl⟩
    · rw [huntouched, hleg]
      exact ⟨[], .start, rfl⟩
  | step _ hstep ih =>
    rw [touched_append]
    exact hstep.touches.tours ih

/-- An attempt starts programs only where every other one has exited, and tells none to end as long
as it visits partitions. -/
theorem Course.launches {es : List (Event α)} {pt : Point}
    (h : Course config plan scheduled es pt) :
    Keeps launchLaw [] es ∧ (pt.leg ≠ .finished → (Ledger.ofRecord es).terminated = []) := by
  induction h with
  | opens hsilent hstarts _ _ hopens =>
    obtain ⟨huntouched, -⟩ := hopens.touches hsilent
    constructor
    · apply keeps_launchLaw_of_untouched
      rw [huntouched]
      exact fun _ _ => List.not_mem_nil
    · intro _
      rw [(hopens.ofRecord_eq hsilent hstarts).1]
      rfl
  | step hcourse hstep ih =>
    obtain ⟨hkeeps, hended⟩ := ih
    have htouches := hstep.touches
    constructor
    · rw [keeps_append]
      refine ⟨hkeeps, htouches.keeps_launchLaw ?_⟩
      intro i hleg
      refine ⟨?_, hended (hleg ▸ nofun)⟩
      rw [List.nil_append, hcourse.alive, child?_of_leg hleg]
      rfl
    · intro hon
      rw [Ledger.ofRecord_append, hstep.terminated_eq hon]
      exact hended (htouches.ne_finished hon)

/-! ## Records -/

/-- Programs are started in the order of the plan, each one at most once and as it has to be, given
the plan of the attempt if one was started. -/
structure OrdersLaunches (config : PostinstallConfig) (start : Option InstallPlan)
    (es : List (Event α)) : Prop where
  /-- What touches partitions is a sequence of visits, one after the other in the order of the plan.
  In a visit a partition is mounted, or mounting is tried, and then its program may be started, once
  and as it has to be. Where the path of a program that is to run is refused, neither the partition
  nor any later one is visited. -/
  visits : ∃ visits : List (Nat × List (Request α)), touched es = visits.flatMap (·.2) ∧
    (visits.Pairwise fun v w => v.1 < w.1) ∧
    (∀ v ∈ visits, ∃ plan p, start = some plan ∧ plan.partitions[v.1]? = some p ∧
      Visits config plan p v.2) ∧
    ∀ plan i p, start = some plan → plan.partitions[i]? = some p → Refuses config plan p →
      ∀ v ∈ visits, v.1 < i
  /-- When a program is started every program that was launched before has exited. -/
  alone : ∀ before argv statusFd reply after,
    es = before ++ .asked ⟨.spawn argv statusFd, reply⟩ :: after →
      (Ledger.ofRecord before).alive = [] ∧ (Ledger.ofRecord before).terminated = []
  /-- At any time no more than one program is alive. -/
  single : ∀ before after, es = before ++ after → (Ledger.ofRecord before).alive.length ≤ 1

/-- A tour never comes to a partition that is refused. -/
theorem Tour.lt_of_refuses {n i : Nat} {visits : List (Nat × List (Request α))}
    (h : Tour config plan n visits) (hp : plan.partitions[i]? = some p)
    (hrefuses : Refuses config plan p) : ∀ v ∈ visits, v.1 < i := by
  intro v hv
  have hle : n ≤ i := Nat.le_of_not_lt fun hlt => h.accepted i p hlt hp hrefuses
  exact Nat.lt_of_lt_of_le (h.visited v hv).1 hle

/-- Wherever an attempt is, what was touched so far is a tour. -/
theorem Leg.Tours.exists_tour {leg : Leg} {qs : List (Request α)} (h : leg.Tours config plan qs) :
    ∃ n visits, Tour config plan n visits ∧ qs = visits.flatMap (·.2) := by
  cases leg with
  | toward i => exact ⟨i, h⟩
  | inside i =>
    -- The partition that is mounted counts as visited even if nothing more is done there.
    have hleaves : Touches config plan (.inside i) ([] : List (Event α)) (.toward (i + 1)) :=
      .leaves i rfl
    obtain ⟨visits, htour, hqs⟩ := hleaves.tours h
    exact ⟨i + 1, visits, htour, by simpa using hqs⟩
  | finished => exact h

/-- Programs are started in order in every record on the map. -/
theorem Charted.ordersLaunches {start : Option InstallPlan} {es : List (Event α)} {r : Runner}
    (h : Charted config start es r) : OrdersLaunches config start es := by
  have hlaw : Keeps launchLaw [] es := by
    cases h with
    | idle _ hsilent =>
      apply keeps_launchLaw_of_untouched
      rw [touched_of_silent hsilent]
      exact fun _ _ => List.not_mem_nil
    | begun harrives =>
      obtain ⟨pt, hcourse, -⟩ := harrives
      exact hcourse.launches.1
  constructor
  case visits =>
    cases h with
    | idle _ hsilent =>
      refine ⟨[], touched_of_silent hsilent, .nil, fun _ hmem => (nomatch hmem), ?_⟩
      exact fun _ _ _ _ _ _ _ hmem => nomatch hmem
    | @begun plan _ _ _ harrives =>
      obtain ⟨pt, hcourse, -⟩ := harrives
      obtain ⟨n, visits, htour, htouched⟩ := hcourse.tours.exists_tour
      refine ⟨visits, htouched, htour.increasing, ?_, ?_⟩
      · intro v hv
        obtain ⟨-, p, hp, hvisits⟩ := htour.visited v hv
        exact ⟨plan, p, rfl, hp, hvisits⟩
      · rintro _ i p ⟨⟩ hp hrefuses
        exact htour.lt_of_refuses hp hrefuses
  case alone =>
    intro before argv statusFd reply after hes
    exact hlaw.of_split hes
  case single =>
    rintro before after rfl
    exact alive_length_le_one ((keeps_append before after).mp hlaw).1

variable [ProgressNumber α]

/-- Programs are started in order on every platform and for all calls, before a runner is given up
and when it is. -/
theorem launches_in_order (config : PostinstallConfig) (cs : List RunnerCall) (p : Platform α σ)
    (s : σ) :
    OrdersLaunches config (RunnerCall.firstPlan cs) (record p (new config) cs s) ∧
      OrdersLaunches config (RunnerCall.firstPlan cs) (lifetimeRecord config cs p s) :=
  ⟨(afterCalls_charted config cs p s).ordersLaunches,
    (lifetime_charted config cs p s).ordersLaunches⟩

end Runner

end SlotUpdate
