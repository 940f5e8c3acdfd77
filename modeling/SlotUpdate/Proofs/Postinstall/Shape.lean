import SlotUpdate.Proofs.Postinstall.Transitions

/-!
# The three shapes of a runner

Between happenings a runner is idle, waits for a program, or is done. `IsIdle`, `IsRunning` and
`IsDone` say what that means, and `Stable` adds what holds in every shape: only a running program
can be stopped, and the count of progress stands at the current partition. `Move.stable` shows that
every happening leads from shape to shape.

Inside of a happening there is one more, `IsReady`: the runner stands before a partition and holds
nothing. Every relation that passes a partition leads from it to it, or lands in one of the shapes.
-/

namespace SlotUpdate

variable {α : Type}

namespace Runner

/-! ## The plan of an attempt -/

/-- A partition as the attempt takes it: its program does not run if it is skipped. -/
def effective (plan : InstallPlan) (p : Partition) : Partition :=
  if isSkipped plan p then { p with runs := false } else p

/-- Whether the program of a partition is to be run under a plan. -/
def runsUnder (plan : InstallPlan) (p : Partition) : Bool :=
  p.runs && !(p.optional && !plan.runPostinstall)

/-- The program of a partition as the attempt takes it runs if it is to be run. -/
@[simp]
theorem effective_runs (plan : InstallPlan) (p : Partition) :
    (effective plan p).runs = runsUnder plan p := by
  unfold effective runsUnder isSkipped
  cases hskips : plan.runPostinstall <;> cases hoptional : p.optional <;> simp

/-- Being taken leaves the name of a partition as it is. -/
@[simp]
theorem effective_name (plan : InstallPlan) (p : Partition) :
    (effective plan p).name = p.name := by
  unfold effective
  split <;> rfl

/-- Being taken leaves the program of a partition as it is. -/
@[simp]
theorem effective_program (plan : InstallPlan) (p : Partition) :
    (effective plan p).program = p.program := by
  unfold effective
  split <;> rfl

/-- Being taken leaves it as it is whether a failure is ignored. -/
@[simp]
theorem effective_optional (plan : InstallPlan) (p : Partition) :
    (effective plan p).optional = p.optional := by
  unfold effective
  split <;> rfl

/-- Being taken leaves the device of a partition as it is. -/
@[simp]
theorem effective_readonlyTarget (plan : InstallPlan) (p : Partition) :
    (effective plan p).readonlyTarget = p.readonlyTarget := by
  unfold effective
  split <;> rfl

/-- Being taken leaves the filesystem of a partition as it is. -/
@[simp]
theorem effective_filesystem (plan : InstallPlan) (p : Partition) :
    (effective plan p).filesystem = p.filesystem := by
  unfold effective
  split <;> rfl

/-- The partitions of an attempt are those of its plan, as the attempt takes them. -/
theorem withoutSkipped_getElem? (plan : InstallPlan) (i : Nat) :
    (withoutSkipped plan).partitions[i]? = (plan.partitions[i]?).map (effective plan) :=
  List.getElem?_map

/-- What an attempt does about the slots does not depend on which programs are skipped. -/
theorem Settles.of_plan {plan plan' : InstallPlan} {code c : ErrorCode} {xs : List (Exchange α)}
    (h : Settles plan' code xs c) (hplan : plan' = plan ∨ plan' = withoutSkipped plan) :
    Settles plan code xs c := by
  rcases hplan with rfl | rfl
  · exact h
  · unfold Settles at h ⊢
    split at h
    · rename_i hcode
      rw [if_pos hcode]
      split at h
      · rename_i hswitch
        have hswitch' : plan.switchSlot = true := hswitch
        rw [if_pos hswitch']
        cases h with
        | unfinished e => exact .unfinished e
        | refused e => exact .refused e
        | switched reply => exact .switched reply
      · rename_i hswitch
        have hswitch' : ¬plan.switchSlot = true := hswitch
        rw [if_neg hswitch']
        exact h
    · rename_i hcode
      rw [if_neg hcode]
      exact h

/-! ## Shapes -/

/-- A runner that has not been started. -/
structure IsIdle (r : Runner) : Prop where
  /-- Its stage. -/
  stage : r.stage = .idle
  /-- There is no result. -/
  result : r.result = none
  /-- No program runs. -/
  child : r.child = none
  /-- Nothing is mounted. -/
  mount : r.mount = none
  /-- Nothing is stopped. -/
  suspended : r.suspended = false
  /-- No line has begun. -/
  lines : r.lines = .empty
  /-- No powerwash was asked for. -/
  powerwash : r.powerwashScheduled = false

/-- A runner that waits for the program of a partition of its plan. -/
structure IsRunning (plan : InstallPlan) (r : Runner) : Prop where
  /-- Its stage. -/
  stage : r.stage = .monitoringProgress
  /-- There is no result. -/
  result : r.result = none
  /-- A program runs, and it can be sent signals. -/
  child : ∃ c, r.child = some c ∧ 0 < c.pid
  /-- Its partition is mounted. -/
  mount : r.mount = some ⟨r.config.mountDir⟩
  /-- The runner works on the plan. -/
  works : r.plan = withoutSkipped plan
  /-- There is a source of the payload. -/
  source : plan.downloadUrl ≠ ""
  /-- The program is that of the current partition, which is to be run. -/
  current : ∃ p, plan.partitions[r.cursor]? = some p ∧ runsUnder plan p = true
  /-- Progress is counted for each partition. -/
  weights : r.progress.weights.length = plan.partitions.length

/-- A runner whose attempt has ended. -/
structure IsDone (r : Runner) : Prop where
  /-- There is a result, and the stage tells whether it is a success. -/
  result : ∃ code, r.result = some code ∧
    r.stage = if code.isSuccess then .allComplete else .aborted
  /-- No program runs. -/
  child : r.child = none
  /-- Nothing is mounted. -/
  mount : r.mount = none
  /-- Nothing is stopped. -/
  suspended : r.suspended = false
  /-- No line has begun. -/
  lines : r.lines = .empty

/-- The shapes of a runner. -/
inductive Shape where
  /-- It has not been started. -/
  | idle
  /-- It waits for a program. -/
  | running
  /-- Its attempt has ended. -/
  | done
  deriving Repr, DecidableEq

/-- A runner has a shape, given the plan of its attempt if one was started. -/
def HasShape (start : Option InstallPlan) (r : Runner) : Shape → Prop
  | .idle => start = none ∧ IsIdle r
  | .running => ∃ plan, start = some plan ∧ IsRunning plan r
  | .done => start.isSome = true ∧ IsDone r

/-- What holds of a runner between happenings. -/
structure Stable (start : Option InstallPlan) (r : Runner) : Prop where
  /-- It has one of the shapes. -/
  shape : ∃ shape, HasShape start r shape
  /-- Only a running program is stopped. -/
  suspended : r.suspended = true → r.child.isSome = true
  /-- Progress stands at the current partition. -/
  inStep : r.progress.cursor = r.cursor

/-- A runner has at most one shape. -/
theorem HasShape.unique {start : Option InstallPlan} {r : Runner} {s t : Shape}
    (hs : HasShape start r s) (ht : HasShape start r t) : s = t := by
  cases s <;> cases t <;> try rfl
  · obtain ⟨plan, hplan, -⟩ := ht
    rw [hs.1] at hplan
    cases hplan
  · obtain ⟨code, hcode, -⟩ := ht.2.result
    rw [hs.2.result] at hcode
    cases hcode
  · obtain ⟨plan, hplan, -⟩ := hs
    rw [ht.1] at hplan
    cases hplan
  · obtain ⟨plan, -, hrunning⟩ := hs
    obtain ⟨code, hcode, -⟩ := ht.2.result
    rw [hrunning.result] at hcode
    cases hcode
  · obtain ⟨code, hcode, -⟩ := hs.2.result
    rw [ht.2.result] at hcode
    cases hcode
  · obtain ⟨plan, -, hrunning⟩ := ht
    obtain ⟨code, hcode, -⟩ := hs.2.result
    rw [hrunning.result] at hcode
    cases hcode

/-- A runner that stands before a partition, or past the last, and holds nothing. -/
structure IsReady (plan : InstallPlan) (r : Runner) : Prop where
  /-- There is no result. -/
  result : r.result = none
  /-- No program runs. -/
  child : r.child = none
  /-- Nothing is mounted. -/
  mount : r.mount = none
  /-- Nothing is stopped. -/
  suspended : r.suspended = false
  /-- The runner works on the plan. -/
  works : r.plan = withoutSkipped plan
  /-- Progress stands at the current partition. -/
  inStep : r.progress.cursor = r.cursor
  /-- Progress is counted for each partition. -/
  weights : r.progress.weights.length = plan.partitions.length

/-- Where the way through the partitions leads: the runner waits for a program or is done. -/
structure Lands (plan : InstallPlan) (r : Runner) : Prop where
  /-- It has one of the two shapes. -/
  shape : IsRunning plan r ∨ IsDone r
  /-- Only a running program is stopped. -/
  suspended : r.suspended = true → r.child.isSome = true
  /-- Progress stands at the current partition. -/
  inStep : r.progress.cursor = r.cursor

/-- A runner that is done is stable. -/
theorem IsDone.stable {start : Option InstallPlan} {r : Runner} (h : IsDone r)
    (hstart : start.isSome = true) (hstep : r.progress.cursor = r.cursor) : Stable start r where
  shape := ⟨.done, hstart, h⟩
  suspended hs := by
    rw [h.suspended] at hs
    cases hs
  inStep := hstep

/-- A runner that waits for a program is stable. -/
theorem IsRunning.stable {plan : InstallPlan} {r : Runner} (h : IsRunning plan r)
    (hstep : r.progress.cursor = r.cursor) : Stable (some plan) r where
  shape := ⟨.running, plan, rfl, h⟩
  suspended _ := by
    obtain ⟨c, hc, -⟩ := h.child
    rw [hc]
    rfl
  inStep := hstep

/-- Where the way through the partitions leads, the runner is stable. -/
theorem Lands.stable {plan : InstallPlan} {r : Runner} (h : Lands plan r) :
    Stable (some plan) r := by
  rcases h.shape with hrunning | hdone
  · exact hrunning.stable h.inStep
  · exact hdone.stable rfl h.inStep

/-- The partition before which a runner stands, as its plan has it. -/
theorem partition?_eq_some {plan : InstallPlan} {r : Runner} {p : Partition}
    (hworks : r.plan = withoutSkipped plan) (h : r.partition? = some p) :
    ∃ q, plan.partitions[r.cursor]? = some q ∧ p = effective plan q := by
  unfold partition? at h
  rw [hworks, withoutSkipped_getElem?] at h
  obtain ⟨q, hq, rfl⟩ := Option.map_eq_some_iff.mp h
  exact ⟨q, hq, rfl⟩

/-- The count of progress moves on with the cursor while a partition is there. -/
theorem advance_inStep {plan : InstallPlan} {r : Runner} {p : Partition}
    (hworks : r.plan = withoutSkipped plan) (hstep : r.progress.cursor = r.cursor)
    (hweights : r.progress.weights.length = plan.partitions.length)
    (h : r.partition? = some p) :
    r.progress.advance.cursor = r.cursor + 1 ∧
      r.progress.advance.weights.length = plan.partitions.length := by
  obtain ⟨q, hq, -⟩ := partition?_eq_some hworks h
  obtain ⟨hlt, -⟩ := List.getElem?_eq_some_iff.mp hq
  have hlt' : r.progress.cursor < r.progress.weights.length := by
    rw [hstep, hweights]
    exact hlt
  rw [Aggregator.advance_cursor hlt', Aggregator.advance_weights, hstep]
  exact ⟨rfl, hweights⟩

/-! ## Ends and partitions -/

/-- An attempt that ends is done, and its cursors stay. -/
theorem Ends.isDone {r r' : Runner} {code : ErrorCode} {xs : List (Exchange α)}
    (h : Ends r code xs r') : IsDone r' ∧ r'.cursor = r.cursor ∧ r'.progress = r.progress := by
  cases h with
  | intro => exact ⟨⟨⟨_, rfl, rfl⟩, rfl, rfl, rfl, rfl⟩, rfl, rfl⟩

/-- An attempt that ends lands. -/
theorem Ends.lands {plan : InstallPlan} {r r' : Runner} {code : ErrorCode}
    {xs : List (Exchange α)} (h : Ends r code xs r') (hstep : r.progress.cursor = r.cursor) :
    Lands plan r' := by
  obtain ⟨hdone, hcursor, hprogress⟩ := h.isDone
  refine ⟨Or.inr hdone, ?_, by rw [hcursor, hprogress, hstep]⟩
  rw [hdone.suspended]
  intro hs
  cases hs

variable [ProgressNumber α]

/-- An attempt that goes on from the end of a partition stands before the next one. -/
theorem Leaves.isReady {plan : InstallPlan} {r r' : Runner} {p : Partition} {code : Int}
    {xs : List (Exchange α)} (h : Leaves r p code xs (r', true)) (hresult : r.result = none)
    (hworks : r.plan = withoutSkipped plan) (hstep : r.progress.cursor = r.cursor)
    (hweights : r.progress.weights.length = plan.partitions.length)
    (hcurrent : r.partition? = some p) : IsReady plan r' := by
  obtain ⟨hcursor, hlength⟩ := advance_inStep hworks hstep hweights hcurrent
  cases h with
  | goesOn => exact ⟨hresult, rfl, rfl, rfl, hworks, hcursor, hlength⟩

/-- An attempt that ends with a partition lands. -/
theorem Leaves.lands {plan : InstallPlan} {r r' : Runner} {p : Partition} {code : Int}
    {xs : List (Exchange α)} (h : Leaves r p code xs (r', false))
    (hstep : r.progress.cursor = r.cursor) : Lands plan r' := by
  cases h with
  | ends _ _ _ hends => exact hends.lands (r := r.released) hstep

/-- An attempt that goes on past a partition stands before the next one. -/
theorem Enters.isReady {plan : InstallPlan} {r r' : Runner} {p : Partition}
    {xs : List (Exchange α)} (h : Enters r p xs (r', true)) (hr : IsReady plan r)
    (hcurrent : r.partition? = some p) : IsReady plan r' := by
  obtain ⟨hcursor, hlength⟩ := advance_inStep hr.works hr.inStep hr.weights hcurrent
  cases h with
  | skips => exact ⟨hr.result, hr.child, hr.mount, hr.suspended, hr.works, hcursor, hlength⟩
  | probes => exact ⟨hr.result, hr.child, rfl, hr.suspended, hr.works, hcursor, hlength⟩
  | sticks _ _ _ _ _ hleaves =>
    exact hleaves.isReady (r := r.probed) hr.result hr.works hr.inStep hr.weights hcurrent
  | fails _ _ _ _ hls hleaves =>
    cases hls with
    | refused =>
      exact hleaves.isReady (r := r.mounted.launching) hr.result hr.works hr.inStep hr.weights
        hcurrent
    | invalid =>
      exact hleaves.isReady (r := r.mounted.launching) hr.result hr.works hr.inStep hr.weights
        hcurrent

/-- An attempt that stops at a partition lands. -/
theorem Enters.lands {plan : InstallPlan} {r r' : Runner} {p : Partition}
    {xs : List (Exchange α)} (h : Enters r p xs (r', false)) (hr : IsReady plan r)
    (hsource : r.plan.downloadUrl ≠ "") (hcurrent : r.partition? = some p) : Lands plan r' := by
  cases h with
  | sticks _ _ _ _ _ hleaves => exact hleaves.lands (r := r.probed) hr.inStep
  | misplaced _ _ hends => exact hends.lands hr.inStep
  | unmountable _ _ _ hends => exact hends.lands (r := r.mounting) hr.inStep
  | starts hruns _ _ _ hls =>
    obtain ⟨q, hq, rfl⟩ := partition?_eq_some hr.works hcurrent
    rw [effective_runs] at hruns
    have hsource' : plan.downloadUrl ≠ "" := by
      rw [hr.works] at hsource
      exact hsource
    cases hls with
    | runs _ pid reply hpid =>
      refine ⟨Or.inl ?_, fun _ => rfl, hr.inStep⟩
      exact ⟨rfl, hr.result, ⟨_, rfl, hpid⟩, rfl, hr.works, hsource', ⟨q, hq, hruns⟩, hr.weights⟩
  | fails _ _ _ _ hls hleaves =>
    cases hls with
    | refused => exact hleaves.lands (r := r.mounted.launching) hr.inStep
    | invalid => exact hleaves.lands (r := r.mounted.launching) hr.inStep

/-- The way through the partitions lands. -/
theorem Proceeds.lands {plan : InstallPlan} {r r' : Runner} {xs : List (Exchange α)}
    (h : Proceeds r xs r') (hr : IsReady plan r) : Lands plan r' := by
  induction h with
  | sourceless _ hends => exact hends.lands hr.inStep
  | finishes _ _ hends => exact hends.lands hr.inStep
  | passes _ hcurrent henters _ ih => exact ih (henters.isReady hr hcurrent)
  | stops hsource hcurrent henters => exact henters.lands hr hsource hcurrent

/-! ## Happenings -/

/-- An attempt that begins stands before its first partition. -/
theorem IsIdle.isReady {plan : InstallPlan} {r : Runner} (h : IsIdle r) (scheduled : Bool) :
    IsReady plan
      { (r.planned plan).atFirstPartition with powerwashScheduled := scheduled } where
  result := h.result
  child := h.child
  mount := h.mount
  suspended := h.suspended
  works := rfl
  inStep := rfl
  weights := by simp [atFirstPartition, Aggregator.ofWeights, withoutSkipped, planned]

/-- An attempt that begins lands. -/
theorem Begins.lands {plan : InstallPlan} {r r' : Runner} {xs : List (Exchange α)}
    (h : Begins (r.planned plan) xs r') (hr : IsIdle r) (hstep : r.progress.cursor = r.cursor) :
    Lands plan r' := by
  cases h with
  | unmapped _ hends => exact hends.lands (r := r.planned plan) hstep
  | unscheduled _ _ _ hends => exact hends.lands (r := r.planned plan) hstep
  | plain _ _ hproceeds =>
    apply hproceeds.lands
    exact hr.isReady r.powerwashScheduled
  | scheduled _ _ hproceeds =>
    apply hproceeds.lands
    exact hr.isReady true

omit [ProgressNumber α] in
/-- Ending a program changes at most whether it counts as stopped. -/
theorem Kills.eq_or {r killed : Runner} {ks : List (Exchange α)} (h : Kills r ks killed) :
    killed = r ∨ killed = { r with suspended := false } := by
  cases h with
  | nothing => exact Or.inl rfl
  | going => exact Or.inl rfl
  | resumed => exact Or.inr rfl
  | stuck => exact Or.inl rfl

omit [ProgressNumber α] in
/-- Ending a program leaves the plan and the result. -/
theorem Kills.keeps {r killed : Runner} {ks : List (Exchange α)} (h : Kills r ks killed) :
    killed.plan = r.plan ∧ killed.result = r.result := by
  rcases h.eq_or with rfl | rfl
  · exact ⟨rfl, rfl⟩
  · exact ⟨rfl, rfl⟩

omit [ProgressNumber α] in
/-- An attempt that is cancelled is done, and its cursors stay. -/
theorem Cancels.isDone {r r' : Runner} {xs : List (Exchange α)} (h : Cancels r xs r') :
    IsDone r' ∧ r'.cursor = r.cursor ∧ r'.progress = r.progress := by
  cases h with
  | intro hkills _ hends =>
    rcases hkills.eq_or with rfl | rfl
    · exact hends.isDone
    · exact hends.isDone

omit [ProgressNumber α] in
/-- An attempt that cannot wait is done, and its cursors stay. -/
theorem Aborts.isDone {r r' : Runner} {xs : List (Exchange α)} (h : Aborts r xs r') :
    IsDone r' ∧ r'.cursor = r.cursor ∧ r'.progress = r.progress := by
  cases h with
  | intro hkills hends =>
    rcases hkills.eq_or with rfl | rfl
    · exact hends.isDone
    · exact hends.isDone

/-- A runner with a program waits for it. -/
theorem Stable.isRunning {start : Option InstallPlan} {r : Runner} (h : Stable start r)
    {c : RunningChild} (hc : r.child = some c) : ∃ plan, start = some plan ∧ IsRunning plan r := by
  obtain ⟨shape, hshape⟩ := h.shape
  cases shape with
  | idle =>
    rw [hshape.2.child] at hc
    cases hc
  | running => exact hshape
  | done =>
    rw [hshape.2.child] at hc
    cases hc

/-- A runner in its first stage is idle. -/
theorem Stable.isIdle {start : Option InstallPlan} {r : Runner} (h : Stable start r)
    (hstage : r.stage = .idle) : start = none ∧ IsIdle r := by
  obtain ⟨shape, hshape⟩ := h.shape
  cases shape with
  | idle => exact hshape
  | running =>
    obtain ⟨plan, -, hrunning⟩ := hshape
    rw [hrunning.stage] at hstage
    cases hstage
  | done =>
    obtain ⟨code, -, hcode⟩ := hshape.2.result
    rw [hcode] at hstage
    split at hstage <;> cases hstage

/-- A runner past its first stage has a plan. -/
theorem Stable.isSome {start : Option InstallPlan} {r : Runner} (h : Stable start r)
    (hstage : r.stage ≠ .idle) : start.isSome = true := by
  obtain ⟨shape, hshape⟩ := h.shape
  cases shape with
  | idle => exact absurd hshape.2.stage hstage
  | running =>
    obtain ⟨plan, rfl, -⟩ := hshape
    rfl
  | done => exact hshape.1

/-- A runner that has begun and has no result waits for a program. -/
theorem Stable.isRunning_of_result {start : Option InstallPlan} {r : Runner} (h : Stable start r)
    (hstage : r.stage ≠ .idle) (hresult : r.result = none) :
    ∃ plan, start = some plan ∧ IsRunning plan r := by
  obtain ⟨shape, hshape⟩ := h.shape
  cases shape with
  | idle => exact absurd hshape.2.stage hstage
  | running => exact hshape
  | done =>
    obtain ⟨code, hcode, -⟩ := hshape.2.result
    rw [hcode] at hresult
    cases hresult

/-- A runner that has a result is done. -/
theorem Stable.isDone {start : Option InstallPlan} {r : Runner} (h : Stable start r)
    {code : ErrorCode} (hresult : r.result = some code) : start.isSome = true ∧ IsDone r := by
  obtain ⟨shape, hshape⟩ := h.shape
  cases shape with
  | idle =>
    rw [hshape.2.result] at hresult
    cases hresult
  | running =>
    obtain ⟨plan, -, hrunning⟩ := hshape
    rw [hrunning.result] at hresult
    cases hresult
  | done => exact hshape

/-- A runner that is idle or done holds nothing. -/
theorem Stable.released {start : Option InstallPlan} {r : Runner} (h : Stable start r)
    (hrests : r.stage = .idle ∨ r.result.isSome = true) :
    r.child = none ∧ r.mount = none ∧ r.released = r := by
  have hempty : r.child = none ∧ r.mount = none ∧ r.suspended = false ∧ r.lines = .empty := by
    rcases hrests with hidle | hover
    · obtain ⟨-, hr⟩ := h.isIdle hidle
      exact ⟨hr.child, hr.mount, hr.suspended, hr.lines⟩
    · obtain ⟨code, hcode⟩ := Option.isSome_iff_exists.mp hover
      obtain ⟨-, hr⟩ := h.isDone hcode
      exact ⟨hr.child, hr.mount, hr.suspended, hr.lines⟩
  obtain ⟨hchild, hmount, hsuspended, hlines⟩ := hempty
  refine ⟨hchild, hmount, ?_⟩
  unfold Runner.released
  rw [← hchild, ← hmount, ← hsuspended, ← hlines]

/-- The way on from the end of a running partition lands. -/
theorem GoesOn.lands {plan : InstallPlan} {r r' : Runner} {p : Partition} {code : Int}
    {ls xs : List (Exchange α)} {out : Runner × Bool} (h : GoesOn out xs r')
    (hleaves : Leaves r p code ls out) (hr : IsRunning plan r)
    (hstep : r.progress.cursor = r.cursor) (hcurrent : r.partition? = some p) : Lands plan r' := by
  obtain ⟨r₁, goesOn⟩ := out
  cases goesOn with
  | true =>
    have hready := hleaves.isReady hr.result hr.works hstep hr.weights hcurrent
    exact Proceeds.lands h hready
  | false =>
    obtain ⟨-, rfl⟩ := h
    exact hleaves.lands hstep

omit [ProgressNumber α] in
/-- A call that is refused starts no other attempt. -/
theorem Stable.or_noted {start : Option InstallPlan} {r : Runner} (h : Stable start r)
    {c : RunnerCall} (hstarts : c.plan?.isSome = true → r.stage ≠ .idle) :
    start.or (Event.firstPlan [(.called c : Event α)]) = start := by
  cases hplan : c.plan? with
  | none => simp [hplan]
  | some plan =>
    have hsome := h.isSome (hstarts (by rw [hplan]; rfl))
    rw [Option.or_of_isSome hsome]

/-- Every happening leads from shape to shape. -/
theorem Move.stable {mayCancel : Bool} {start : Option InstallPlan} {r r' : Runner}
    {es : List (Event α)} (h : Move mayCancel r es r') (hr : Stable start r) :
    Stable (start.or (Event.firstPlan es)) r' := by
  cases h with
  | noted c hstarts =>
    rw [hr.or_noted hstarts]
    exact hr
  | begins hplan hidle hbegins =>
    obtain ⟨rfl, hidle'⟩ := hr.isIdle hidle
    have hlands := hbegins.lands hidle' hr.inStep
    simpa [hplan] using hlands.stable
  | waits => simpa using hr
  | @reads c reads hc hwatched =>
    obtain ⟨plan, rfl, hrunning⟩ := hr.isRunning hc
    have hpid : 0 < c.pid := by
      obtain ⟨c', hc', hpid⟩ := hrunning.child
      rw [hc] at hc'
      obtain rfl := Option.some.inj hc'
      exact hpid
    have hafter : IsRunning plan (r.afterReads c reads) :=
      ⟨hrunning.stage, hrunning.result, ⟨_, rfl, hpid⟩, hrunning.mount, hrunning.works,
        hrunning.source, hrunning.current, hrunning.weights⟩
    exact hafter.stable hr.inStep
  | exits hreports hchild hcurrent hleaves hgoesOn =>
    obtain ⟨c, hc, -⟩ := Option.map_eq_some_iff.mp hchild
    obtain ⟨plan, rfl, hrunning⟩ := hr.isRunning hc
    exact (hgoesOn.lands hleaves hrunning hr.inStep hcurrent).stable
  | suspends hc =>
    obtain ⟨plan, rfl, hrunning⟩ := hr.isRunning hc
    have hafter : IsRunning plan { r with suspended := true } :=
      ⟨hrunning.stage, hrunning.result, hrunning.child, hrunning.mount, hrunning.works,
        hrunning.source, hrunning.current, hrunning.weights⟩
    exact hafter.stable hr.inStep
  | resumes hc =>
    obtain ⟨plan, rfl, hrunning⟩ := hr.isRunning hc
    have hafter : IsRunning plan { r with suspended := false } :=
      ⟨hrunning.stage, hrunning.result, hrunning.child, hrunning.mount, hrunning.works,
        hrunning.source, hrunning.current, hrunning.weights⟩
    exact hafter.stable hr.inStep
  | balks => simpa using hr
  | aborts hc _ _ haborts =>
    obtain ⟨plan, rfl, hrunning⟩ := hr.isRunning hc
    obtain ⟨hdone, hcursor, hprogress⟩ := haborts.isDone
    apply hdone.stable rfl
    rw [hcursor, hprogress, hr.inStep]
  | cancels _ hbegun hongoing hcancels =>
    obtain ⟨plan, rfl, hrunning⟩ := hr.isRunning_of_result hbegun hongoing
    obtain ⟨hdone, hcursor, hprogress⟩ := hcancels.isDone
    apply hdone.stable rfl
    rw [hcursor, hprogress, hr.inStep]

/-- Every run of happenings leads from shape to shape. -/
theorem Moves.stable {mayCancel : Bool} {start : Option InstallPlan} {r r' : Runner}
    {es : List (Event α)} (h : Moves mayCancel r es r') (hr : Stable start r) :
    Stable (start.or (Event.firstPlan es)) r' := by
  induction h generalizing start with
  | nil r => simpa using hr
  | cons hmove _ ih =>
    have hstable := ih (hmove.stable hr)
    rw [Event.firstPlan_append, ← Option.or_assoc]
    exact hstable

/-- Nothing happens at a runner that is done but calls without an effect. -/
theorem Move.of_done {mayCancel : Bool} {start : Option InstallPlan} {r r' : Runner}
    {es : List (Event α)} (h : Move mayCancel r es r') (hr : Stable start r) {code : ErrorCode}
    (hresult : r.result = some code) : Event.exchanges es = [] ∧ r' = r := by
  obtain ⟨-, hdone⟩ := hr.isDone hresult
  have hnone : ∀ c, r.child ≠ some c := fun c hc => by
    rw [hdone.child] at hc
    cases hc
  cases h with
  | noted => exact ⟨rfl, rfl⟩
  | begins _ hidle =>
    rw [(hr.isIdle hidle).2.result] at hresult
    cases hresult
  | waits hc => exact absurd hc (hnone _)
  | reads _ hc => exact absurd hc (hnone _)
  | exits _ hchild =>
    obtain ⟨c, hc, -⟩ := Option.map_eq_some_iff.mp hchild
    exact absurd hc (hnone c)
  | suspends hc => exact absurd hc (hnone _)
  | resumes hc => exact absurd hc (hnone _)
  | balks _ hc => exact absurd hc (hnone _)
  | aborts hc => exact absurd hc (hnone _)
  | cancels _ _ hongoing =>
    rw [hongoing] at hresult
    cases hresult

/-- A runner that is done stays as it is, and asks for nothing. -/
theorem Moves.of_done {mayCancel : Bool} {start : Option InstallPlan} {r r' : Runner}
    {es : List (Event α)} (h : Moves mayCancel r es r') (hr : Stable start r) {code : ErrorCode}
    (hresult : r.result = some code) : Event.exchanges es = [] ∧ r' = r := by
  induction h generalizing start with
  | nil => exact ⟨rfl, rfl⟩
  | cons hmove _ ih =>
    obtain ⟨hsilent, rfl⟩ := hmove.of_done hr hresult
    obtain ⟨hsilent', rfl⟩ := ih (hmove.stable hr) hresult
    exact ⟨by rw [Event.exchanges_append, hsilent, hsilent']; rfl, rfl⟩

/-- A new runner is stable. -/
theorem stable_new (config : PostinstallConfig) : Stable none (new config) where
  shape := ⟨.idle, rfl, rfl, rfl, rfl, rfl, rfl, rfl, rfl⟩
  suspended := fun h => nomatch h
  inStep := rfl

end Runner

end SlotUpdate
