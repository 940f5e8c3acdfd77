import Mathlib.Logic.ExistsUnique
import SlotUpdate.Proofs.Postinstall.Bounds

/-!
# Runners that can be reached

Whatever is called on a new runner, and whatever the platform replies, the runner has exactly one of
the three shapes after every call, and it is never stuck: an attempt that goes on has a program to
wait for. The shapes are kept by `Move.stable`, the calls that go through partitions end by the
bounds on their exchanges, and `round_waits` shows that a round of a whole attempt waits for the
program unless it ends the attempt.
-/

namespace SlotUpdate

open SlotUpdate.Action

variable {α σ : Type} [ProgressNumber α]

/-- A request that takes time: to wait for a program, or for a while. -/
def Request.takesTime : Request α → Bool
  | .awaitStatus _ | .pause => true
  | _ => false

/-- An exchange that takes time, for a certain program if for any. -/
def Exchange.TakesTime (x : Exchange α) (pid : Pid) : Prop :=
  x.request = .awaitStatus pid ∨ x.request = .pause

omit [ProgressNumber α] in
/-- An exchange that takes time for a certain program takes time. -/
theorem Exchange.TakesTime.takesTime {x : Exchange α} {pid : Pid} (h : x.TakesTime pid) :
    x.request.takesTime = true := by
  rcases h with h | h <;> rw [h] <;> rfl

namespace Runner

/-! ## Shapes -/

/-- A stable runner has exactly one shape. -/
theorem Stable.existsUnique_shape {start : Option InstallPlan} {r : Runner} (h : Stable start r) :
    ∃! shape, HasShape start r shape := by
  obtain ⟨shape, hshape⟩ := h.shape
  exact ⟨shape, hshape, fun other hother => hother.unique hshape⟩

/-- A stable runner that was started has either a program or a result. -/
theorem Stable.child_or_result {start : Option InstallPlan} {r : Runner} (h : Stable start r)
    (hsome : start.isSome = true) : r.child.isSome = true ↔ r.result = none := by
  obtain ⟨shape, hshape⟩ := h.shape
  cases shape with
  | idle =>
    rw [hshape.1] at hsome
    cases hsome
  | running =>
    obtain ⟨plan, -, hrunning⟩ := hshape
    obtain ⟨c, hc, -⟩ := hrunning.child
    simp [hc, hrunning.result]
  | done =>
    obtain ⟨code, hcode, -⟩ := hshape.2.result
    simp [hcode, hshape.2.child]

/-! ## Rounds wait -/

/-- Waiting for a status pipe takes time. -/
theorem pollStatus_waits (r : Runner) (c : RunningChild) :
    (r.pollStatus c : Action α _).Ensures fun xs _ => ∃ x ∈ xs, x.TakesTime c.pid := by
  unfold pollStatus
  split
  · rw [ensures_bind, ensures_request]
    intro reply
    refine (ensures_true _).mono ?_
    intro xs _ _
    exact ⟨_, List.mem_cons_self, Or.inl rfl⟩
  · intro reply
    exact ⟨_, List.mem_cons_self, Or.inr rfl⟩

/-- Waiting once takes time if a program runs. -/
theorem monitor_waits {r : Runner} {c : RunningChild} (hc : r.child = some c) :
    (r.monitor : Action α _).Ensures fun xs _ => ∃ x ∈ xs, x.TakesTime c.pid := by
  have hpoll : (r.pollOnce : Action α _).Ensures fun xs _ => ∃ x ∈ xs, x.TakesTime c.pid := by
    unfold pollOnce
    rw [hc]
    refine (pollStatus_waits r c).bind ?_
    rintro xs out ⟨x, hx, htime⟩
    refine (ensures_true _).mono ?_
    intro ys _ _
    exact ⟨x, List.mem_append_left ys hx, htime⟩
  unfold monitor
  apply hpoll.bind
  rintro xs out ⟨x, hx, htime⟩
  refine (ensures_true _).mono ?_
  intro ys _ _
  exact ⟨x, List.mem_append_left ys hx, htime⟩

/-- A round waits for the program that runs at its beginning, unless it ends the attempt. -/
theorem round_waits {start : Option InstallPlan} {r : Runner} (h : Stable start r)
    {c : RunningChild} (hc : r.child = some c) (controls : List Control) :
    (r.round controls : Action α _).Ensures fun xs r' =>
      r'.result.isSome = true ∨ ∃ x ∈ xs, x.TakesTime c.pid := by
  unfold round
  refine (handleAll_ensures h (fun _ => rfl : _ → true = true)).bind ?_
  rintro xs r₁ ⟨hxs, hkeeps⟩
  split
  · rename_i hover
    exact Or.inl hover
  · rename_i hongoing
    -- The control messages have left the program alone.
    have hpid : r₁.childPid = some c.pid := by
      rcases hkeeps with hpid | hover
      · exact hpid.trans (childPid_eq hc)
      · exact absurd hover hongoing
    obtain ⟨c₁, hc₁, hpid₁⟩ := Option.map_eq_some_iff.mp hpid
    refine (monitor_waits hc₁).mono ?_
    rintro ys r' ⟨x, hx, htime⟩
    rw [hpid₁] at htime
    exact Or.inr ⟨x, List.mem_append_right xs hx, htime⟩

/-- In a whole attempt that still goes on, every round has taken time. -/
theorem rounds_wait {start : Option InstallPlan} {r : Runner} (h : Stable start r)
    (hsome : start.isSome = true) (controls : List (List Control)) :
    (r.rounds controls : Action α _).Ensures fun xs r' =>
      r'.result = none → controls.length ≤ xs.countP (·.request.takesTime) := by
  induction controls generalizing r with
  | nil => exact fun _ => Nat.zero_le _
  | cons cs rest ih =>
    unfold rounds
    split
    · rename_i hover
      intro hongoing
      rw [hongoing] at hover
      cases hover
    · rename_i hongoing
      have hnone : r.result = none := by simpa using hongoing
      obtain ⟨c, hc⟩ := Option.isSome_iff_exists.mp ((h.child_or_result hsome).mpr hnone)
      have hround := (round_ensures (α := α) h (fun _ => rfl : _ → true = true)).and
        (round_waits h hc cs)
      apply hround.bind
      rintro xs r₁ ⟨hxs, hwaits⟩
      have hstable := hxs.stable_asked h
      have hmay : ∀ cs ∈ rest, .cancel ∈ cs → true = true := fun _ _ _ => rfl
      have hrest := (rounds_ensures (α := α) hstable hmay).and (ih hstable)
      apply hrest.mono
      rintro ys r' ⟨hys, hlength⟩ hnone'
      rcases hwaits with hover | ⟨x, hx, htime⟩
      · -- An attempt that has ended stays so.
        obtain ⟨code, hcode⟩ := Option.isSome_iff_exists.mp hover
        obtain ⟨-, rfl⟩ := hys.of_done hstable hcode
        rw [hnone'] at hcode
        cases hcode
      · have hcount : 0 < xs.countP (·.request.takesTime) :=
          List.countP_pos_iff.mpr ⟨x, hx, htime.takesTime⟩
        have hlength' := hlength hnone'
        rw [List.length_cons, List.countP_append]
        omega

/-- A whole attempt that still goes on when its rounds are over has taken time in each of them. -/
theorem call_run_waits {r : Runner} (h : Stable none r) (plan : InstallPlan)
    (controls : List (List Control)) :
    (r.call (.run plan controls) : Action α _).Ensures fun xs out =>
      out.1.result = none → controls.length ≤ xs.countP (·.request.takesTime) := by
  unfold call run
  rw [ensures_bind]
  refine (perform_ensures h plan).bind ?_
  rintro xs _ (⟨hstage, rfl, rfl⟩ | ⟨hidle, r₁, rfl, hbegins⟩)
  · have hbegun := h.isSome hstage
    cases hbegun
  · have hlands := hbegins.lands (h.isIdle hidle).2 h.inStep
    refine (rounds_wait hlands.stable rfl controls).bind ?_
    intro ys r' hlength hnone
    have hlength' := hlength hnone
    rw [List.append_nil, List.append_nil, List.countP_append]
    omega

/-! ## Shapes after calls -/

/-- What holds of the runner that calls lead to. -/
structure WellKept (config : PostinstallConfig) (cs : List RunnerCall) (p : Platform α σ) (s : σ) :
    Prop where
  /-- It has exactly one of the shapes. -/
  shape : ∃! shape, HasShape (RunnerCall.firstPlan cs) (afterCalls config cs p s).result shape
  /-- Only a running program is stopped. -/
  suspended : (afterCalls config cs p s).result.suspended = true →
    (afterCalls config cs p s).result.child.isSome = true
  /-- Progress stands at the current partition. -/
  inStep : (afterCalls config cs p s).result.progress.cursor =
    (afterCalls config cs p s).result.cursor
  /-- If an attempt was started, there is a program exactly as long as there is no result. -/
  busy : (RunnerCall.firstPlan cs).isSome = true →
    ((afterCalls config cs p s).result.child.isSome = true ↔
      (afterCalls config cs p s).result.result = none)
  /-- To start an attempt takes a number of exchanges that depends on the plan only. -/
  performs : ∀ plan, (afterNext config cs (.perform plan) p s).exchanges.length ≤
    15 * plan.partitions.length + 11
  /-- The exit of a program takes a number of exchanges that depends on the partitions left only. -/
  exits : ∀ pid code, (afterNext config cs (.exited pid code) p s).exchanges.length ≤
    15 * (afterCalls config cs p s).result.remaining + 7
  /-- If an attempt goes on, a program runs that the next round waits for, unless the round ends the
  attempt. -/
  waits : (RunnerCall.firstPlan cs).isSome = true →
    (afterCalls config cs p s).result.result = none →
    ∃ c, (afterCalls config cs p s).result.child = some c ∧ ∀ controls,
      let out := ((afterCalls config cs p s).result.round controls).run p
        (afterCalls config cs p s).state
      out.result.result.isSome = true ∨ ∃ x ∈ out.exchanges, x.TakesTime c.pid
  /-- A whole attempt that still goes on has taken time in each of its rounds. -/
  rounds : RunnerCall.firstPlan cs = none → ∀ plan controls,
    (afterNext config cs (.run plan controls) p s).result.1.result = none →
    controls.length ≤
      (afterNext config cs (.run plan controls) p s).exchanges.countP (·.request.takesTime)

/-- Every runner that calls lead to is well kept. -/
theorem well_kept (config : PostinstallConfig) (cs : List RunnerCall) (p : Platform α σ) (s : σ) :
    WellKept config cs p s := by
  have hstable := afterCalls_stable config cs p s
  constructor
  case shape => exact hstable.existsUnique_shape
  case suspended => exact hstable.suspended
  case inStep => exact hstable.inStep
  case busy => exact hstable.child_or_result
  case performs =>
    intro plan
    exact ((call_perform_length_le hstable plan).run p _).1
  case exits =>
    intro pid code
    exact ((call_exited_length_le hstable pid code).run p _).1
  case waits =>
    intro hsome hongoing
    obtain ⟨c, hc⟩ := Option.isSome_iff_exists.mp ((hstable.child_or_result hsome).mpr hongoing)
    exact ⟨c, hc, fun controls => ((round_waits hstable hc controls).run p _).1⟩
  case rounds =>
    intro hnone plan controls
    rw [hnone] at hstable
    exact ((call_run_waits hstable plan controls).run p _).1

end Runner

end SlotUpdate
