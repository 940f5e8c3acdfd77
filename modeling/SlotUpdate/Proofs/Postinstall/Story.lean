import Mathlib.Data.List.Forall2
import SlotUpdate.Proofs.Postinstall.Quiet

/-!
# The story of an attempt

What the record of a runner looks like in each shape. As long as an attempt goes on, nothing is
asked about the slots and no result is delivered (`Quiet`), and the record falls apart into one
piece for each partition that was passed, which tells that this partition was dealt with (`Passed`).
The end of an attempt adds what `Settles` allows and the delivery of the result, and an attempt that
ends with success has a piece for every partition.

`Standing` is the story up to a partition, and `Story` the story in a shape. Every relation that
passes a partition leads from one to the other, so that `Move.story` follows every happening.
-/

namespace SlotUpdate

variable {α σ : Type}

namespace Runner

/-! ## Partitions in a record -/

/-- A partition is mounted in a record. -/
def MountedIn (config : PostinstallConfig) (p : Partition) (es : List (Event α)) : Prop :=
  ∃ options,
    .asked ⟨.mount p.readonlyTarget config.mountDir p.filesystem options, .ok ()⟩ ∈ es

/-- A partition is mounted in a record, and after that its program is started with a number. -/
def StartedIn (config : PostinstallConfig) (p : Partition) (pid : Pid) (es : List (Event α)) :
    Prop :=
  ∃ before after program argv,
    es = before ++ .asked ⟨.spawn argv config.statusFd, .ok pid⟩ :: after ∧
    MountedIn config p before ∧ programPath config.mountDir p.program = .ok program ∧
      argv.head? = some program.text

/-- The program of a partition is started in a record and exits with code zero. -/
def ExitedIn (config : PostinstallConfig) (p : Partition) (es : List (Event α)) : Prop :=
  ∃ before e after pid, es = before ++ e :: after ∧ StartedIn config p pid before ∧
    Event.Reports e pid 0

/-- A record tells that a partition was dealt with as a plan says. -/
structure Passed (config : PostinstallConfig) (plan : InstallPlan) (p : Partition)
    (es : List (Event α)) : Prop where
  /-- If its program is to be run, or could be, then the partition was mounted. -/
  mounted : runsUnder plan p = true ∨ p.program ≠ "" → MountedIn config p es
  /-- If its program is to be run and its failure is not ignored, then it was a success. -/
  exited : runsUnder plan p = true → p.optional = false → ExitedIn config p es

/-- A record tells of partitions, one after the other, that they were dealt with. -/
def AccountsFor (config : PostinstallConfig) (plan : InstallPlan) (ps : List Partition)
    (es : List (Event α)) : Prop :=
  ∃ pieces, List.Forall₂ (Passed config plan) ps pieces ∧ pieces.flatten.Sublist es

/-- What is mounted in the first part of a record is mounted in it. -/
theorem MountedIn.append {config : PostinstallConfig} {p : Partition} {es : List (Event α)}
    (h : MountedIn config p es) (fs : List (Event α)) : MountedIn config p (es ++ fs) := by
  obtain ⟨options, hmem⟩ := h
  exact ⟨options, List.mem_append_left fs hmem⟩

/-- What is started in the first part of a record is started in it. -/
theorem StartedIn.append {config : PostinstallConfig} {p : Partition} {pid : Pid}
    {es : List (Event α)} (h : StartedIn config p pid es) (fs : List (Event α)) :
    StartedIn config p pid (es ++ fs) := by
  obtain ⟨before, after, program, argv, rfl, hmounted, hpath, hargv⟩ := h
  refine ⟨before, after ++ fs, program, argv, ?_, hmounted, hpath, hargv⟩
  rw [List.append_assoc]
  rfl

/-- A program that is started in a record was mounted there. -/
theorem StartedIn.mountedIn {config : PostinstallConfig} {p : Partition} {pid : Pid}
    {es : List (Event α)} (h : StartedIn config p pid es) : MountedIn config p es := by
  obtain ⟨before, after, program, argv, rfl, hmounted, -⟩ := h
  exact hmounted.append _

/-- Every record tells of no partitions. -/
theorem accountsFor_nil (config : PostinstallConfig) (plan : InstallPlan) (es : List (Event α)) :
    AccountsFor config plan [] es := ⟨[], .nil, List.nil_sublist es⟩

/-- A longer record tells of the same partitions. -/
theorem AccountsFor.append {config : PostinstallConfig} {plan : InstallPlan} {ps : List Partition}
    {es : List (Event α)} (h : AccountsFor config plan ps es) (fs : List (Event α)) :
    AccountsFor config plan ps (es ++ fs) := by
  obtain ⟨pieces, hpieces, hsub⟩ := h
  exact ⟨pieces, hpieces, hsub.trans (List.sublist_append_left es fs)⟩

/-- A record and a piece for the next partition tell of one partition more. -/
theorem AccountsFor.next {config : PostinstallConfig} {plan : InstallPlan} {ps : List Partition}
    {p : Partition} {es fs : List (Event α)} (h : AccountsFor config plan ps es)
    (hp : Passed config plan p fs) : AccountsFor config plan (ps ++ [p]) (es ++ fs) := by
  obtain ⟨pieces, hpieces, hsub⟩ := h
  refine ⟨pieces ++ [fs], List.rel_append hpieces (.cons hp .nil), ?_⟩
  rw [List.flatten_append, List.flatten_singleton]
  exact hsub.append_right fs

/-- A partition that is mounted is mounted in the record of it. -/
theorem Mounts.mountedIn {r : Runner} {p : Partition} {xs : List (Exchange α)} {m : ScopedMount}
    (h : Mounts r p xs (.ok m)) : MountedIn r.config p (xs.map .asked) := by
  cases h with
  | @intro options _ _ hacquires =>
    cases hacquires with
    | mounted => exact ⟨options, by simp⟩

/-- Being mounted does not depend on which programs are skipped. -/
theorem mountedIn_effective (config : PostinstallConfig) (plan : InstallPlan) (p : Partition)
    (es : List (Event α)) : MountedIn config (effective plan p) es ↔ MountedIn config p es := by
  unfold MountedIn
  rw [effective_readonlyTarget, effective_filesystem]

/-! ## Stories -/

/-- The story of an attempt up to a partition. -/
structure Standing (config : PostinstallConfig) (plan : InstallPlan) (es : List (Event α))
    (r : Runner) : Prop where
  /-- The settings of the runner. -/
  settings : r.config = config
  /-- The runner stands before a partition. -/
  ready : IsReady plan r
  /-- Nothing has been settled. -/
  quiet : Quiet (Event.exchanges es)
  /-- The partitions before the current one were dealt with. -/
  accounts : AccountsFor config plan (plan.partitions.take r.cursor) es

/-- The story of a runner, given the plan of its attempt if one was started. -/
inductive Story (config : PostinstallConfig) :
    Option InstallPlan → List (Event α) → Runner → Prop where
  /-- Nothing was started. -/
  | idle {es : List (Event α)} {r : Runner} (settings : r.config = config)
    (silent : Event.exchanges es = []) (result : r.result = none) : Story config none es r
  /-- The attempt waits for the program of a partition. -/
  | running {plan : InstallPlan} {before during : List (Event α)} {r : Runner} {p : Partition}
    {pid : Pid} (settings : r.config = config) (result : r.result = none)
    (quiet : Quiet (Event.exchanges (before ++ during)))
    (accounts : AccountsFor config plan (plan.partitions.take r.cursor) before)
    (current : plan.partitions[r.cursor]? = some p) (child : r.childPid = some pid)
    (started : StartedIn config p pid during) :
    Story config (some plan) (before ++ during) r
  /-- The attempt has ended. -/
  | done {plan : InstallPlan} {before after : List (Event α)} {ss ps : List (Exchange α)}
    {r : Runner} {code c : ErrorCode} (result : r.result = some c)
    (quiet : Quiet (Event.exchanges before)) (settles : Settles plan code ss c)
    (powerwash : Quiet ps) (silent : Event.exchanges after = [])
    (accounts : code = .success → plan.downloadUrl ≠ "" →
      AccountsFor config plan plan.partitions before) :
    Story config (some plan)
      (before ++ (ss ++ ps ++ [(⟨.complete c, ()⟩ : Exchange α)]).map .asked ++ after) r

/-- The end of an attempt tells the end of its story. -/
theorem Ends.story {config : PostinstallConfig} {plan : InstallPlan} {r r' : Runner}
    {code : ErrorCode} {xs : List (Exchange α)} {es : List (Event α)} (h : Ends r code xs r')
    (hquiet : Quiet (Event.exchanges es)) (hplan : r.plan = plan ∨ r.plan = withoutSkipped plan)
    (haccounts : code = .success → plan.downloadUrl ≠ "" →
      AccountsFor config plan plan.partitions es) :
    Story config (some plan) (es ++ xs.map .asked) r' := by
  cases h with
  | @intro us ss ps c hus hss hps =>
    have hbefore : Quiet (Event.exchanges (es ++ us.map .asked)) := by simp [hquiet, hus.quiet]
    have haccounts' : code = .success → plan.downloadUrl ≠ "" →
        AccountsFor config plan plan.partitions (es ++ us.map .asked) := fun hcode hsource =>
      (haccounts hcode hsource).append _
    have hdone : Story config (some plan) _ (r.ended c) :=
      .done rfl hbefore (hss.of_plan hplan) hps.quiet Event.exchanges_nil haccounts'
    simpa using hdone

variable [ProgressNumber α]

/-- An attempt that ends with a partition tells the end of its story. -/
theorem Leaves.story {config : PostinstallConfig} {plan : InstallPlan} {r r' : Runner}
    {p : Partition} {code : Int} {xs : List (Exchange α)} {es : List (Event α)}
    (h : Leaves r p code xs (r', false)) (hquiet : Quiet (Event.exchanges es))
    (hplan : r.plan = withoutSkipped plan) : Story config (some plan) (es ++ xs.map .asked) r' := by
  cases h with
  | @ends us xs _ _ _ hus hends =>
    have hbefore : Quiet (Event.exchanges (es ++ us.map .asked)) := by simp [hquiet, hus.quiet]
    have hstory : Story config (some plan) _ r' :=
      hends.story (r := r.released) hbefore (Or.inr hplan)
        fun hcode => absurd hcode (ErrorCode.ofExitCode_ne_success code)
    simpa using hstory

/-! ## Partitions in a story -/

/-- A partition that the attempt goes on from was dealt with. -/
theorem Enters.passed {plan : InstallPlan} {r r' : Runner} {q : Partition} {xs : List (Exchange α)}
    (h : Enters r (effective plan q) xs (r', true)) :
    Passed r.config plan q (xs.map .asked) ∧ Quiet xs := by
  cases h with
  | skips hidle hprogram =>
    rw [effective_runs] at hidle
    rw [effective_program] at hprogram
    refine ⟨⟨fun hneeds => ?_, fun hruns => ?_⟩, .nil⟩
    · simp [hidle, hprogram] at hneeds
    · simp [hidle] at hruns
  | @probes ms is m hidle _ hmounts his =>
    rw [effective_runs] at hidle
    refine ⟨⟨fun _ => ?_, fun hruns => ?_⟩, by simp [hmounts.quiet, his.quiet]⟩
    · have hmounted := (mountedIn_effective _ _ _ _).mp hmounts.mountedIn
      simpa using hmounted.append
        ((is ++ [(⟨.unmount r.config.mountDir, .ok ()⟩ : Exchange α)]).map .asked)
    · simp [hidle] at hruns
  | @sticks ms is ls m _ e hidle _ hmounts his hleaves =>
    rw [effective_runs] at hidle
    refine ⟨⟨fun _ => ?_, fun hruns => ?_⟩,
      by simp [hmounts.quiet, his.quiet, hleaves.quiet]⟩
    · have hmounted := (mountedIn_effective _ _ _ _).mp hmounts.mountedIn
      simpa using hmounted.append
        ((is ++ [(⟨.unmount r.config.mountDir, .error e⟩ : Exchange α)] ++ ls).map .asked)
    · simp [hidle] at hruns
  | @fails _ ms is ls xs m _ _ _ _ hmounts his hls hleaves =>
    refine ⟨⟨fun _ => ?_, fun _ hrequired => ?_⟩,
      by simp [hmounts.quiet, his.quiet, hls.quiet, hleaves.quiet]⟩
    · have hmounted := (mountedIn_effective _ _ _ _).mp hmounts.mountedIn
      simpa using hmounted.append ((is ++ ls ++ xs).map .asked)
    · -- A program that does not start counts as a failure, which only an optional one survives.
      rcases hleaves.passes with hzero | hoptional
      · cases hzero
      · rw [effective_optional, hrequired] at hoptional
        cases hoptional

omit [ProgressNumber α] in
/-- The story goes on past a partition that was dealt with. -/
theorem Standing.next {config : PostinstallConfig} {plan : InstallPlan} {es fs : List (Event α)}
    {r r' : Runner} {q : Partition} (hready : IsReady plan r') (hsettings : r'.config = config)
    (haccounts : AccountsFor config plan (plan.partitions.take r.cursor) es)
    (hcurrent : plan.partitions[r.cursor]? = some q) (hcursor : r'.cursor = r.cursor + 1)
    (hpassed : Passed config plan q fs) (hquiet : Quiet (Event.exchanges (es ++ fs))) :
    Standing config plan (es ++ fs) r' where
  settings := hsettings
  ready := hready
  quiet := hquiet
  accounts := by
    rw [hcursor, List.take_add_one, hcurrent]
    exact haccounts.next hpassed

/-- A partition that the attempt stops at, before its program or with the end, tells a story. -/
theorem Enters.story {config : PostinstallConfig} {plan : InstallPlan} {es : List (Event α)}
    {r r' : Runner} {q : Partition} {xs : List (Exchange α)}
    (h : Enters r (effective plan q) xs (r', false)) (hr : Standing config plan es r)
    (hcurrent : plan.partitions[r.cursor]? = some q) :
    Story config (some plan) (es ++ xs.map .asked) r' := by
  have hplan : r.plan = withoutSkipped plan := hr.ready.works
  cases h with
  | @sticks ms is ls m _ e hidle _ hmounts his hleaves =>
    have hquiet : Quiet (Event.exchanges
        (es ++ (ms ++ is ++ [(⟨.unmount r.config.mountDir, .error e⟩ : Exchange α)]).map
          .asked)) := by
      simp [hr.quiet, hmounts.quiet, his.quiet]
    have hstory : Story config (some plan) _ _ := hleaves.story hquiet hplan
    simpa using hstory
  | misplaced _ _ hends =>
    exact hends.story hr.quiet (Or.inr hplan)
      fun hcode => absurd hcode (MountError.errorCode_ne_success _)
  | @unmountable _ ms _ _ _ _ hmounts hends =>
    have hquiet : Quiet (Event.exchanges (es ++ ms.map .asked)) := by
      simp [hr.quiet, hmounts.quiet]
    have hstory : Story config (some plan) _ r' :=
      hends.story (r := r.mounting) hquiet (Or.inr hplan)
        fun hcode => absurd hcode (MountError.errorCode_ne_success _)
    simpa using hstory
  | @starts program ms is ls m _ _ hpath hmounts his hls =>
    rw [effective_program] at hpath
    obtain rfl := hr.settings
    cases hls with
    | runs contents pid reply hpid =>
      have hmounted := (mountedIn_effective _ _ _ _).mp hmounts.mountedIn
      have hbefore := hmounted.append
        ((is ++ [(⟨.readProgram program, contents⟩ : Exchange α)]).map .asked)
      refine .running rfl hr.ready.result ?_ hr.accounts hcurrent rfl
        ⟨_, [.asked ⟨.setNonblocking pid, reply⟩], program, r.mounted.programArguments program,
          ?_, hbefore, hpath, rfl⟩
      · simp [hr.quiet, hmounts.quiet, his.quiet]
      · simp [mounted, mounting]
  | @fails _ ms is ls xs m r₁ _ _ _ hmounts his hls hleaves =>
    have hquiet : Quiet (Event.exchanges (es ++ (ms ++ is ++ ls).map .asked)) := by
      simp [hr.quiet, hmounts.quiet, his.quiet, hls.quiet]
    have hplan₁ : r₁.plan = withoutSkipped plan := hls.keeps.1.trans hplan
    have hstory : Story config (some plan) _ _ := hleaves.story hquiet hplan₁
    simpa using hstory

/-- The way through the partitions tells a story. -/
theorem Proceeds.story {config : PostinstallConfig} {plan : InstallPlan} {es : List (Event α)}
    {r r' : Runner} {xs : List (Exchange α)} (h : Proceeds r xs r')
    (hr : Standing config plan es r) : Story config (some plan) (es ++ xs.map .asked) r' := by
  induction h generalizing es with
  | sourceless source hends =>
    refine hends.story hr.quiet (Or.inr hr.ready.works) fun _ hsource => ?_
    rw [hr.ready.works] at source
    exact absurd source hsource
  | @finishes r _ _ _ hnone hends =>
    refine hends.story hr.quiet (Or.inr hr.ready.works) fun _ _ => ?_
    -- The cursor is past the last partition, so all of them are accounted for.
    have hlength : plan.partitions.length ≤ r.cursor := by
      unfold partition? at hnone
      rw [hr.ready.works, withoutSkipped_getElem?, Option.map_eq_none_iff] at hnone
      exact List.getElem?_eq_none_iff.mp hnone
    have haccounts := hr.accounts
    rwa [List.take_of_length_le hlength] at haccounts
  | @passes r r₁ r' p xs ys _ hcurrent henters _ ih =>
    obtain ⟨q, hq, rfl⟩ := partition?_eq_some hr.ready.works hcurrent
    obtain ⟨hpassed, hquiet⟩ := henters.passed
    rw [hr.settings] at hpassed
    have hfurther := henters.further
    have hstanding : Standing config plan (es ++ xs.map .asked) r₁ :=
      .next (henters.isReady hr.ready hcurrent) (hfurther.config.trans hr.settings) hr.accounts hq
        hfurther.cursor hpassed (by simp [hr.quiet, hquiet])
    have hstory := ih hstanding
    simpa using hstory
  | @stops r r' p xs _ hcurrent henters =>
    obtain ⟨q, hq, rfl⟩ := partition?_eq_some hr.ready.works hcurrent
    exact henters.story hr hq

/-! ## Happenings in a story -/

omit [ProgressNumber α] in
/-- An attempt that begins stands before its first partition. -/
theorem IsIdle.standing {plan : InstallPlan} {r : Runner} {es : List (Event α)} (h : IsIdle r)
    (scheduled : Bool) (hquiet : Quiet (Event.exchanges es)) :
    Standing r.config plan es
      { (r.planned plan).atFirstPartition with powerwashScheduled := scheduled } where
  settings := rfl
  ready := h.isReady scheduled
  quiet := hquiet
  accounts := accountsFor_nil r.config plan es

/-- The beginning of an attempt tells a story. -/
theorem Begins.story {plan : InstallPlan} {es : List (Event α)} {r r' : Runner}
    {xs : List (Exchange α)} (h : Begins (r.planned plan) xs r') (hr : IsIdle r)
    (hquiet : Quiet (Event.exchanges es)) :
    Story r.config (some plan) (es ++ xs.map .asked) r' := by
  cases h with
  | @unmapped _ ms _ _ hmaps hends =>
    have hbefore : Quiet (Event.exchanges (es ++ ms.map .asked)) := by simp [hquiet, hmaps.quiet]
    have hstory : Story r.config (some plan) _ r' :=
      hends.story hbefore (Or.inl rfl) fun hcode => absurd hcode (by decide)
    simpa using hstory
  | @unscheduled ms _ _ e hmaps _ hends =>
    have hbefore : Quiet (Event.exchanges
        (es ++ (ms ++ [(⟨.schedulePowerwash, .error e⟩ : Exchange α)]).map .asked)) := by
      simp [hquiet, hmaps.quiet]
    have hstory : Story r.config (some plan) _ r' :=
      hends.story hbefore (Or.inl rfl) fun hcode => absurd hcode (by decide)
    simpa using hstory
  | @plain ms _ _ hmaps _ hproceeds =>
    have hbefore : Quiet (Event.exchanges (es ++ (ms ++
        [(r.planned plan).atFirstPartition.reported (ProgressNumber.zero : α)]).map .asked)) := by
      simp [hquiet, hmaps.quiet, reported]
    have hstory := hproceeds.story (hr.standing r.powerwashScheduled hbefore)
    simpa using hstory
  | @scheduled ms _ _ hmaps _ hproceeds =>
    have hbefore : Quiet (Event.exchanges (es ++ (ms ++
        [(⟨.schedulePowerwash, .ok ()⟩ : Exchange α)] ++
        [(r.planned plan).scheduled.atFirstPartition.reported (ProgressNumber.zero : α)]).map
          .asked)) := by
      simp [hquiet, hmaps.quiet, reported]
    have hstory := hproceeds.story (hr.standing true hbefore)
    simpa using hstory

omit [ProgressNumber α] in
/-- The story of a waiting runner goes on with whatever settles nothing and leaves the runner
waiting for the same program. -/
theorem Story.waits {config : PostinstallConfig} {start : Option InstallPlan}
    {es fs : List (Event α)} {r r' : Runner} {pid : Pid} (h : Story config start es r)
    (hr : Stable start r) (hchild : r.childPid = some pid) (hchild' : r'.childPid = some pid)
    (hquiet : Quiet (Event.exchanges fs)) (hsettings : r'.config = r.config)
    (hcursor : r'.cursor = r.cursor) (hresult : r'.result = r.result) :
    Story config start (es ++ fs) r' := by
  obtain ⟨c, hc, -⟩ := Option.map_eq_some_iff.mp hchild
  obtain ⟨plan, rfl, hrunning⟩ := hr.isRunning hc
  cases h with
  | @running _ before during _ p pid' settings result quiet accounts current child started =>
    have hpid : pid' = pid := by
      rw [child] at hchild
      exact Option.some.inj hchild
    subst hpid
    rw [List.append_assoc]
    refine .running (hsettings.trans settings) (hresult.trans result) ?_ ?_ ?_ hchild'
      (started.append fs)
    · rw [← List.append_assoc, Event.exchanges_append]
      exact (Quiet.append_iff _ _).mpr ⟨quiet, hquiet⟩
    · rw [hcursor]
      exact accounts
    · rw [hcursor]
      exact current
  | done result =>
    rw [hrunning.result] at result
    cases result

omit [ProgressNumber α] in
/-- What is asked after the story of a running program settles nothing. -/
theorem Story.quiet {config : PostinstallConfig} {start : Option InstallPlan}
    {es : List (Event α)} {r : Runner} (h : Story config start es r) (hresult : r.result = none) :
    Quiet (Event.exchanges es) := by
  cases h with
  | idle _ silent =>
    rw [silent]
    exact .nil
  | running _ _ quiet => exact quiet
  | done result =>
    rw [hresult] at result
    cases result

/-- The exit of a program tells the story of its partition, and of those that follow. -/
theorem Story.exits {config : PostinstallConfig} {plan : InstallPlan} {es : List (Event α)}
    {e : Event α} {r r' : Runner} {pid : Pid} {code : Int} {p : Partition}
    {ls xs : List (Exchange α)} {out : Runner × Bool} (h : Story config (some plan) es r)
    (hr : IsRunning plan r) (hstep : r.progress.cursor = r.cursor) (hreports : e.Reports pid code)
    (hchild : r.childPid = some pid) (hcurrent : r.partition? = some p)
    (hleaves : Leaves r p code ls out) (hgoesOn : GoesOn out xs r') :
    Story config (some plan) (es ++ e :: (ls ++ xs).map .asked) r' := by
  have hsilent : Quiet (Event.exchanges [e]) := by
    rcases hreports with rfl | rfl
    · exact .nil
    · simp
  obtain ⟨r₁, goesOn⟩ := out
  obtain ⟨q, hq, rfl⟩ := partition?_eq_some hr.works hcurrent
  cases goesOn with
  | false =>
    obtain ⟨rfl, rfl⟩ := hgoesOn
    have hbefore : Quiet (Event.exchanges (es ++ [e])) := by
      rw [Event.exchanges_append]
      exact (Quiet.append_iff _ _).mpr ⟨h.quiet hr.result, hsilent⟩
    have hstory : Story config (some plan) _ _ := hleaves.story hbefore hr.works
    simpa using hstory
  | true =>
    cases h with
    | @running _ before during _ p' pid' settings _ quiet accounts current child started =>
      have hquiet := hleaves.quiet
      have hpasses := hleaves.passes
      have hpid : pid' = pid := by
        rw [child] at hchild
        exact Option.some.inj hchild
      have hq' : p' = q := by
        rw [current] at hq
        exact Option.some.inj hq
      subst hpid hq'
      have hpassed : Passed config plan p' (during ++ e :: ls.map .asked) := by
        refine ⟨fun _ => started.mountedIn.append _, fun _ hrequired => ?_⟩
        have hzero : code = 0 := by
          rcases hpasses with hzero | hoptional
          · exact hzero
          · rw [effective_optional, hrequired] at hoptional
            cases hoptional
        rw [hzero] at hreports
        exact ⟨during, e, _, pid', rfl, started, hreports⟩
      have hfurther := hleaves.further
      have hall : Quiet (Event.exchanges (before ++ (during ++ e :: ls.map .asked))) := by
        have hsplit : before ++ (during ++ e :: ls.map .asked) =
            (before ++ during) ++ [e] ++ ls.map .asked := by simp
        rw [hsplit, Event.exchanges_append, Event.exchanges_append, Event.exchanges_map_asked]
        simp only [Quiet.append_iff]
        exact ⟨⟨quiet, hsilent⟩, hquiet⟩
      have hstanding : Standing config plan (before ++ (during ++ e :: ls.map .asked)) r₁ :=
        .next (hleaves.isReady hr.result hr.works hstep hr.weights hcurrent)
          (hfurther.config.trans settings) accounts current hfurther.cursor hpassed hall
      have hstory := Proceeds.story hgoesOn hstanding
      simpa using hstory
    | done result =>
      rw [hr.result] at result
      cases result

/-- Every happening goes on with the story. -/
theorem Move.story {config : PostinstallConfig} {mayCancel : Bool} {start : Option InstallPlan}
    {es fs : List (Event α)} {r r' : Runner} (h : Move mayCancel r fs r')
    (hes : Story config start es r) (hr : Stable start r) :
    Story config (start.or (Event.firstPlan fs)) (es ++ fs) r' := by
  cases h with
  | noted c hstarts =>
    rw [hr.or_noted hstarts]
    cases hes with
    | idle settings silent result => exact .idle settings (by simp [silent]) result
    | @running _ before during _ _ _ settings result quiet accounts current child started =>
      rw [List.append_assoc]
      exact .running settings result (by simpa using quiet) accounts current child
        (started.append _)
    | done result quiet settles powerwash silent accounts =>
      rw [List.append_assoc]
      exact .done result quiet settles powerwash (by simp [silent]) accounts
  | @begins _ c plan xs hplan hidle hbegins =>
    obtain ⟨rfl, hidle'⟩ := hr.isIdle hidle
    cases hes with
    | idle settings silent _ =>
      obtain rfl := settings
      have hquiet : Quiet (Event.exchanges (es ++ [.called c])) := by simp [silent]
      have hstory := hbegins.story hidle' hquiet
      simpa [hplan] using hstory
  | @waits c x hc hx =>
    have hquiet : Quiet (Event.exchanges [.asked x]) := Waits.quiet hx
    have hstory : Story config start (es ++ [.asked x]) r :=
      hes.waits hr (childPid_eq hc) (childPid_eq hc) hquiet rfl rfl rfl
    simpa using hstory
  | @reads c reads hc hwatched =>
    have hquiet : Quiet (Event.exchanges ((⟨.readStatus c.pid (!c.nonblocking), reads⟩ ::
        (r.afterReads c reads).reports (drain (!c.nonblocking) r.lines reads).lines :
          List (Exchange α)).map .asked)) := by
      simp [quiet_reports]
    have hstory : Story config start _ (r.afterReads c reads) :=
      hes.waits hr (childPid_eq hc) rfl hquiet rfl rfl rfl
    simpa using hstory
  | exits hreports hchild hcurrent hleaves hgoesOn =>
    obtain ⟨c, hc, -⟩ := Option.map_eq_some_iff.mp hchild
    obtain ⟨plan, rfl, hrunning⟩ := hr.isRunning hc
    exact hes.exits hrunning hr.inStep hreports hchild hcurrent hleaves hgoesOn
  | @suspends c hc =>
    have hquiet :
        Quiet (Event.exchanges [.asked (⟨.signal c.pid .stop, .ok ()⟩ : Exchange α)]) := by
      simp
    have hstory : Story config start _ { r with suspended := true } :=
      hes.waits hr (childPid_eq hc) (childPid_eq hc) hquiet rfl rfl rfl
    simpa using hstory
  | @resumes c hc =>
    have hquiet : Quiet
        (Event.exchanges [.asked (⟨.signal c.pid .resume, .ok ()⟩ : Exchange α)]) := by
      simp
    have hstory : Story config start _ { r with suspended := false } :=
      hes.waits hr (childPid_eq hc) (childPid_eq hc) hquiet rfl rfl rfl
    simpa using hstory
  | @balks c signal e hc =>
    have hquiet : Quiet
        (Event.exchanges [.asked (⟨.signal c.pid signal, .error e⟩ : Exchange α)]) := by
      simp
    have hstory : Story config start _ r :=
      hes.waits hr (childPid_eq hc) (childPid_eq hc) hquiet rfl rfl rfl
    simpa using hstory
  | @aborts _ c x xs hc hx hongoing haborts =>
    obtain ⟨plan, rfl, hrunning⟩ := hr.isRunning hc
    cases haborts with
    | @intro ks ys killed _ hkills hends =>
      have hx' : Quiet [x] := Waits.quiet (Or.inr (Or.inr (Or.inr hx)))
      have hquiet : Quiet (Event.exchanges (es ++ .asked x :: ks.map .asked)) := by
        simpa [hes.quiet hongoing, hkills.quiet] using hx'
      have hplan : killed.plan = withoutSkipped plan := hkills.keeps.1.trans hrunning.works
      have hstory : Story config (some plan) _ r' :=
        hends.story hquiet (Or.inr hplan) fun hcode => absurd hcode (by decide)
      simpa using hstory
  | cancels _ hbegun hongoing hcancels =>
    obtain ⟨plan, rfl, hrunning⟩ := hr.isRunning_of_result hbegun hongoing
    cases hcancels with
    | @intro ks us _ killed _ hkills hus hends =>
      have hquiet : Quiet (Event.exchanges (es ++ (ks ++ us).map .asked)) := by
        simp [hes.quiet hongoing, hkills.quiet, hus.quiet]
      have hplan : killed.plan = withoutSkipped plan := hkills.keeps.1.trans hrunning.works
      have hstory : Story config (some plan) _ r' :=
        hends.story (r := killed.released) hquiet (Or.inr hplan)
          fun hcode => absurd hcode (by decide)
      simpa using hstory

/-- Every run of happenings goes on with the story. -/
theorem Moves.story {config : PostinstallConfig} {mayCancel : Bool} {start : Option InstallPlan}
    {es fs : List (Event α)} {r r' : Runner} (h : Moves mayCancel r fs r')
    (hes : Story config start es r) (hr : Stable start r) :
    Story config (start.or (Event.firstPlan fs)) (es ++ fs) r' := by
  induction h generalizing start es with
  | nil r => simpa using hes
  | cons hmove _ ih =>
    have hstory := ih (hmove.story hes hr) (hmove.stable hr)
    rwa [Event.firstPlan_append, ← Option.or_assoc, ← List.append_assoc]

omit [ProgressNumber α] in
/-- The story of a new runner is empty. -/
theorem story_new (config : PostinstallConfig) :
    Story config none ([] : List (Event α)) (new config) := .idle rfl rfl rfl

/-- The record of any calls on a new runner tells its story. -/
theorem afterCalls_story (config : PostinstallConfig) (cs : List RunnerCall) (p : Platform α σ)
    (s : σ) : Story config (RunnerCall.firstPlan cs) (record p (new config) cs s)
      (afterCalls config cs p s).result := by
  have hstory := (afterCalls_moves config cs p s).story (story_new config) (stable_new config)
  rwa [record_firstPlan] at hstory

/-- Exchanges that follow the calls go on with the story. -/
theorem Moves.story_asked {config : PostinstallConfig} {mayCancel : Bool}
    {start : Option InstallPlan} {es : List (Event α)} {r r' : Runner} {xs : List (Exchange α)}
    (h : Moves mayCancel r (xs.map .asked) r') (hes : Story config start es r)
    (hr : Stable start r) : Story config start (es ++ xs.map .asked) r' := by
  have hstory := h.story hes hr
  rwa [Event.firstPlan_map_asked, Option.or_none] at hstory

end Runner

end SlotUpdate
