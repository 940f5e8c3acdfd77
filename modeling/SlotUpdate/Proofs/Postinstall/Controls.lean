import SlotUpdate.Proofs.Postinstall.Course
import SlotUpdate.Proofs.Postinstall.Turns

/-!
# Control messages are calls, and the end is final

A whole attempt asks of the platform what its start and the direct calls ask that its turns stand
for, in the order in which it takes the turns. `Driven` says so, and what follows for the messages:
one that is refused leaves the runner as it was, cancelling while a program runs ends the attempt,
and so does a wait that fails. Nothing is asked for after the end, whatever is still to be told.

What a turn does rests on the shapes of a runner: a turn leaves it stable (`Taken.Holds.stable`),
and at a runner that is done it leads to nothing (`Taken.Holds.of_done`), which goes on to the last
turn (`Served.of_done`). As long as no wait fails, the turns are direct calls one after the other
(`Served.calls_leads`).
-/

namespace SlotUpdate

open SlotUpdate.Action

variable {α σ : Type}

namespace Runner

/-! ## Stopped attempts -/

/-- The exchanges with which an attempt is stopped: the program is told to end and released, its
partition is unmounted, a powerwash is taken back, and the code is delivered. -/
def Stops (r : Runner) (pid : Pid) (code : ErrorCode) (xs : List (Exchange α)) : Prop :=
  ∃ ks us ps, xs = ks ++ us ++ ps ++ [⟨.complete code, ()⟩] ∧ EndsProgram pid r.suspended ks ∧
    Unmounts r.mount us ∧
    ps.map (·.request) = if r.powerwashScheduled then [Request.cancelPowerwash] else []

/-- An attempt that ends with a failure leaves the slots alone, and delivers the failure. -/
theorem Ends.of_failure {r r' : Runner} {code : ErrorCode} {xs : List (Exchange α)}
    (h : Ends r code xs r') (hcode : code.isSuccess = false) :
    r'.result = some code ∧ ∃ us ps, xs = us ++ ps ++ [⟨.complete code, ()⟩] ∧
      Unmounts r.mount us ∧
      ps.map (·.request) = if r.powerwashScheduled then [Request.cancelPowerwash] else [] := by
  cases h with
  | @intro us ss ps c hus hss hps =>
    have hne : code ≠ .success := by
      rintro rfl
      cases hcode
    unfold Settles at hss
    rw [if_neg hne] at hss
    obtain ⟨rfl, rfl⟩ := hss
    unfold TakesBack at hps
    rw [hcode, Bool.not_false, Bool.and_true] at hps
    exact ⟨rfl, us, ps, by rw [List.append_nil], hus, hps⟩

/-- An attempt that is cancelled while a program runs is stopped as cancelled. -/
theorem Cancels.stops {r r' : Runner} {c : RunningChild} {xs : List (Exchange α)}
    (h : Cancels r xs r') (hc : r.child = some c) :
    Stops r c.pid .userCanceled xs ∧ r'.result = some .userCanceled := by
  cases h with
  | @intro ks us ys killed _ hkills hus hends =>
    obtain ⟨hresult, vs, ps, rfl, hvs, hps⟩ := hends.of_failure rfl
    obtain ⟨hmount, hpowerwash⟩ := hkills.holds
    have hnone : vs = [] := List.map_eq_nil_iff.mp hvs
    rw [hmount] at hus
    refine ⟨⟨ks, us, ps, ?_, hkills.endsProgram hc, hus, ?_⟩, hresult⟩
    · rw [hnone, List.nil_append, List.append_assoc, List.append_assoc, List.append_assoc]
    · rw [← hpowerwash]
      exact hps

/-- An attempt that cannot wait for its program is stopped with a failure of its own. -/
theorem Aborts.stops {r r' : Runner} {c : RunningChild} {xs : List (Exchange α)}
    (h : Aborts r xs r') (hc : r.child = some c) :
    Stops r c.pid .postinstallRunnerError xs ∧ r'.result = some .postinstallRunnerError := by
  cases h with
  | @intro ks ys killed _ hkills hends =>
    obtain ⟨hresult, us, ps, rfl, hus, hps⟩ := hends.of_failure rfl
    obtain ⟨hmount, hpowerwash⟩ := hkills.holds
    rw [hmount] at hus
    rw [hpowerwash] at hps
    refine ⟨⟨ks, us, ps, ?_, hkills.endsProgram hc, hus, hps⟩, hresult⟩
    rw [List.append_assoc, List.append_assoc, List.append_assoc]

/-! ## Single turns -/

/-- A signal that stops a program changes nothing if it fails. -/
theorem suspend_refused (r : Runner) :
    (r.suspend : Action α _).Ensures fun _ out =>
      out.1.result = r.result ∧ ∀ e, out.2 = .error e → out.1 = r := by
  unfold suspend
  cases hc : r.child with
  | none => exact ⟨rfl, fun _ _ => rfl⟩
  | some c =>
    rw [ensures_bind, ensures_request]
    intro reply
    cases reply with
    | error e => exact ⟨rfl, fun _ _ => rfl⟩
    | ok u => exact ⟨rfl, nofun⟩

/-- A signal that lets a program go on changes nothing if it fails. -/
theorem resume_refused (r : Runner) :
    (r.resume : Action α _).Ensures fun _ out =>
      out.1.result = r.result ∧ ∀ e, out.2 = .error e → out.1 = r := by
  unfold resume
  cases hc : r.child with
  | none => exact ⟨rfl, fun _ _ => rfl⟩
  | some c =>
    dsimp only
    split
    · exact ⟨rfl, fun _ _ => rfl⟩
    · rw [ensures_bind, ensures_request]
      intro reply
      cases reply with
      | error e => exact ⟨rfl, fun _ _ => rfl⟩
      | ok u => exact ⟨rfl, nofun⟩

/-- What an action keeps if it fails, a call keeps that answers by its outcome. -/
theorem ofOutcome_refused {r : Runner} {a : Action α (Runner × Except RunnerError Unit)}
    (h : a.Ensures fun _ out => out.1.result = r.result ∧ ∀ e, out.2 = .error e → out.1 = r) :
    (do
      let (r', outcome) ← a
      return (r', CallAnswer.ofOutcome outcome)).Ensures fun _ out =>
        out.1.result = r.result ∧ ∀ e, out.2 = CallAnswer.refused e → out.1 = r := by
  apply h.bind
  rintro _ ⟨r', outcome⟩ ⟨hresult, hrefused⟩
  refine ⟨hresult, fun e he => ?_⟩
  cases outcome with
  | error e' => exact hrefused e' rfl
  | ok u => cases he

/-- Giving an attempt up that goes on aborts it. -/
theorem giveUp_aborts {r : Runner} (hongoing : r.result = none) :
    (r.giveUp : Action α Runner).Ensures (Aborts r) := by
  refine (killChild_ensures r).bind ?_
  intro ks killed hkills
  have hresult : killed.result = none := hkills.keeps.2.trans hongoing
  refine (completeAttempt_ensures hresult .postinstallRunnerError).mono ?_
  intro xs r' hends
  exact .intro hkills hends

/-- A message to stop the program or to let it go on does not end the attempt, and changes nothing
if it is refused. -/
theorem call_refused [ProgressNumber α] (r : Runner) {control : Control}
    (hcontrol : control ≠ .cancel) :
    (r.call control.call : Action α _).Ensures fun _ out =>
      out.1.result = r.result ∧ ∀ e, out.2 = .refused e → out.1 = r := by
  cases control with
  | suspend => exact ofOutcome_refused (suspend_refused r)
  | resume => exact ofOutcome_refused (resume_refused r)
  | cancel => exact absurd rfl hcontrol

end Runner

variable [ProgressNumber α]

namespace Taken

/-- The direct calls that turns stand for. -/
def calls (ks : List (Taken α)) : List RunnerCall := ks.filterMap fun k => k.turn.call?

/-- What was done about turns, without what was asked to take them. -/
def effects (ks : List (Taken α)) : List (Exchange α) := ks.flatMap fun k => k.exchanges

variable {k : Taken α} {start : Option InstallPlan}

/-- A wait that fails gives up an attempt that goes on. -/
theorem Holds.aborts (h : k.Holds) (hr : Runner.Stable start k.before) {e : SystemError}
    (he : k.turn.failure? = some e) :
    ∃ c, k.before.child = some c ∧ Runner.Aborts k.before k.exchanges k.after := by
  obtain ⟨c, hc⟩ := h.fits.exists_child (Turn.isTold_of_failure? he)
  obtain ⟨plan, -, hrunning⟩ := hr.isRunning hc
  exact ⟨c, hc, (Runner.giveUp_aborts hrunning.result).of_leads (h.fails e he)⟩

/-- A turn leaves a runner stable. -/
theorem Holds.stable (h : k.Holds) (hr : Runner.Stable start k.before) :
    Runner.Stable start k.after := by
  cases hcall : k.turn.call? with
  | some c =>
    obtain ⟨hmoves, -⟩ := (Runner.call_ensures hr c).of_leads (h.calls c hcall)
    have hstable := hmoves.stable hr
    rwa [Event.firstPlan_called_cons, Turn.plan?_of_call? hcall, Event.firstPlan_map_asked,
      Option.none_or, Option.or_none] at hstable
  | none =>
    -- A turn without a call does nothing, unless it is a wait that failed.
    cases hfailure : k.turn.failure? with
    | none =>
      rw [(h.idles hcall hfailure).2]
      exact hr
    | some e =>
      obtain ⟨c, hc, haborts⟩ := h.aborts hr hfailure
      obtain ⟨plan, rfl, -⟩ := hr.isRunning hc
      obtain ⟨hdone, hcursor, hprogress⟩ := haborts.isDone
      refine hdone.stable rfl ?_
      rw [hcursor, hprogress, hr.inStep]

/-- At a runner that is done a turn is a message, and leads to nothing. -/
theorem Holds.of_done (h : k.Holds) (hr : Runner.Stable start k.before) {code : ErrorCode}
    (hcode : k.before.result = some code) :
    k.turn.isTold = true ∧ k.exchanges = [] ∧ k.after = k.before := by
  have hdone := (hr.isDone hcode).2
  -- There is no program to wait for.
  have htold : k.turn.isTold = true := by
    cases hturn : k.turn.isTold with
    | true => rfl
    | false =>
      obtain ⟨c, hc⟩ := h.fits.exists_child hturn
      rw [hdone.child] at hc
      cases hc
  obtain ⟨⟨c, hcall⟩, -⟩ := Turn.call?_of_isTold (α := α) htold
  obtain ⟨hmoves, -⟩ := (Runner.call_ensures hr c).of_leads (h.calls c hcall)
  obtain ⟨hsilent, hsame⟩ := hmoves.of_done hr hcode
  rw [Event.exchanges_called_cons, Event.exchanges_map_asked] at hsilent
  exact ⟨htold, hsilent, hsame⟩

end Taken

namespace Served

variable {r r' : Runner} {ks : List (Taken α)} {start : Option InstallPlan}

/-- Turns can be parted anywhere. -/
theorem parted {front back : List (Taken α)} (h : Served r (front ++ back) r') :
    ∃ r₁, Served r front r₁ ∧ Served r₁ back r' := by
  induction front generalizing r with
  | nil => exact ⟨r, .nil r, h⟩
  | cons k front ih =>
    cases h with
    | cons holds rest =>
      obtain ⟨r₁, hfront, hback⟩ := ih rest
      exact ⟨r₁, .cons holds hfront, hback⟩

/-- A turn among others is taken after the ones before it, and the others follow. -/
theorem at_turn {front back : List (Taken α)} {k : Taken α}
    (h : Served r (front ++ k :: back) r') :
    Served r front k.before ∧ k.Holds ∧ Served k.after back r' := by
  obtain ⟨_, hfront, hrest⟩ := h.parted
  cases hrest with
  | cons holds rest => exact ⟨hfront, holds, rest⟩

/-- Turns leave a runner stable. -/
theorem stable (h : Served r ks r') (hr : Runner.Stable start r) : Runner.Stable start r' := by
  induction h with
  | nil => exact hr
  | cons holds _ ih => exact ih (holds.stable hr)

/-- Each turn is taken at a stable runner. -/
theorem of_mem (h : Served r ks r') (hr : Runner.Stable start r) {k : Taken α} (hk : k ∈ ks) :
    Runner.Stable start k.before ∧ k.Holds := by
  obtain ⟨front, back, rfl⟩ := List.append_of_mem hk
  obtain ⟨hfront, hholds, -⟩ := h.at_turn
  exact ⟨hfront.stable hr, hholds⟩

/-- Once an attempt has ended, nothing is asked for, and the runner stays the same. -/
theorem of_done (h : Served r ks r') (hr : Runner.Stable start r) {code : ErrorCode}
    (hcode : r.result = some code) : Taken.record ks = [] ∧ r' = r := by
  induction h with
  | nil => exact ⟨rfl, rfl⟩
  | @cons k ks r' holds _ ih =>
    obtain ⟨htold, hsilent, hsame⟩ := holds.of_done hr hcode
    rw [hsame] at ih
    obtain ⟨hrest, rfl⟩ := ih hr hcode
    rw [Taken.record_cons, (Turn.call?_of_isTold htold).2, hsilent, hrest]
    exact ⟨rfl, rfl⟩

/-- As long as no wait fails, turns lead where the direct calls lead that they stand for. -/
theorem calls_leads (h : Served r ks r') (hwaits : ∀ k ∈ ks, k.turn.failure? = none) :
    (r.calls (Taken.calls ks)).Leads (Taken.effects ks) r' := by
  induction h with
  | nil => exact ⟨rfl, rfl⟩
  | @cons k ks r' holds _ ih =>
    obtain ⟨hwait, hrest⟩ := List.forall_mem_cons.mp hwaits
    have heffects : Taken.effects (k :: ks) = k.exchanges ++ Taken.effects ks := List.flatMap_cons
    rw [heffects]
    cases hcall : k.turn.call? with
    | none =>
      have hcalls : Taken.calls (k :: ks) = Taken.calls ks := List.filterMap_cons_none hcall
      obtain ⟨hsilent, hsame⟩ := holds.idles hcall hwait
      -- Direct calls pass such a turn over.
      rw [hcalls, hsilent, List.nil_append, ← hsame]
      exact ih hrest
    | some c =>
      have hcalls : Taken.calls (k :: ks) = c :: Taken.calls ks := List.filterMap_cons_some hcall
      rw [hcalls]
      exact (holds.calls c hcall).bind (ih hrest)

end Served

/-! ## Whole attempts -/

/-- A whole attempt, taken apart: its start with exchanges `os`, which leads to the runner `first`,
and then its turns `ks`. -/
structure Driven (r : Runner) (plan : InstallPlan) (controls : List (List Control))
    (os : List (Exchange α)) (first : Runner) (ks : List (Taken α)) (out : Runner × CallAnswer) :
    Prop where
  /-- It starts as by a direct call. -/
  starts : (r.call (.perform plan)).Leads os (first, .nothing)
  /-- Then one turn is taken after the other. -/
  served : Served first ks out.1
  /-- They are in rounds, and messages are left over only after the end. -/
  rounds : ∃ taken, taken <+: controls ∧ InRounds taken (ks.map (·.turn)) ∧
    (out.1.result = none → taken = controls)
  /-- As long as no wait fails, direct calls in the same order lead through the same exchanges. -/
  direct : ∀ front back, ks = front ++ back → (∀ k ∈ front, k.turn.failure? = none) →
    ∃ r', (r.calls (.perform plan :: Taken.calls front)).Leads (os ++ Taken.effects front) r' ∧
      (back = [] → r' = out.1)
  /-- To stop the program or to let it go on never ends the attempt. If it is refused, the runner
  stays the same. -/
  endures : ∀ k ∈ ks, ∀ control, k.turn = .told control → control ≠ .cancel →
    k.after.result = k.before.result ∧ ∀ e, k.answer = .refused e → k.after = k.before
  /-- After the end there are only messages, and they change nothing. -/
  inert : ∀ k ∈ ks, k.before.result.isSome = true →
    k.turn.isTold = true ∧ k.exchanges = [] ∧ k.after = k.before
  /-- To cancel while a program runs is final. -/
  canceled : ∀ front k back c, ks = front ++ k :: back → k.turn = .told .cancel →
    k.before.child = some c →
    Runner.Stops k.before c.pid .userCanceled k.exchanges ∧ Taken.record back = [] ∧
      out = (k.after, .finished .userCanceled)
  /-- A wait that fails is final, whatever the partition. -/
  failed : ∀ front k back e, ks = front ++ k :: back → k.turn.failure? = some e →
    ∃ c, k.before.child = some c ∧
      Runner.Stops k.before c.pid .postinstallRunnerError k.exchanges ∧ Taken.record back = [] ∧
      out = (k.after, .finished .postinstallRunnerError)

namespace Runner

variable {start : Option InstallPlan}

omit [ProgressNumber α] in
/-- What a whole attempt returns once there is a result. -/
theorem attemptAnswer_eq {r : Runner} {code : ErrorCode} (hcode : r.result = some code) :
    r.attemptAnswer = .finished code := by
  unfold attemptAnswer returned
  rw [hcode]
  rfl

/-- After a turn that ends the attempt nothing is asked for, and its result is returned. -/
theorem final_of_served {r r' : Runner} {front back : List (Taken α)} {k : Taken α}
    (h : Served r (front ++ k :: back) r') (hr : Stable start r) {code : ErrorCode}
    (hcode : k.after.result = some code) :
    Taken.record back = [] ∧ (r', r'.attemptAnswer) = (k.after, .finished code) := by
  obtain ⟨hfront, hholds, hback⟩ := h.at_turn
  obtain ⟨hsilent, rfl⟩ := hback.of_done (hholds.stable (hfront.stable hr)) hcode
  rw [attemptAnswer_eq hcode]
  exact ⟨hsilent, rfl⟩

/-- A turn that cancels while a program runs stops the attempt. -/
theorem stops_of_cancel {k : Taken α} (h : k.Holds) (hr : Stable start k.before)
    (hturn : k.turn = .told .cancel) {c : RunningChild} (hc : k.before.child = some c) :
    Stops k.before c.pid .userCanceled k.exchanges ∧ k.after.result = some .userCanceled := by
  obtain ⟨plan, -, hrunning⟩ := hr.isRunning hc
  have hbegun : k.before.stage ≠ .idle := by
    rw [hrunning.stage]
    exact Stage.noConfusion
  have hcall : k.turn.call? = some .terminate := by
    rw [hturn]
    rfl
  obtain ⟨ys, zs, r', hxs, hterminate, rfl, hout⟩ := (leads_bind _ _ _ _).mp (h.calls _ hcall)
  obtain ⟨rfl, -⟩ := Prod.mk.inj hout
  rw [hxs, List.append_nil]
  exact ((terminate_cancels hbegun hrunning.result).of_leads hterminate).stops hc

/-- To cancel while a program runs is final. -/
theorem canceled_of_served {r r' : Runner} {front back : List (Taken α)} {k : Taken α}
    (h : Served r (front ++ k :: back) r') (hr : Stable start r) (hturn : k.turn = .told .cancel)
    {c : RunningChild} (hc : k.before.child = some c) :
    Stops k.before c.pid .userCanceled k.exchanges ∧ Taken.record back = [] ∧
      (r', r'.attemptAnswer) = (k.after, .finished .userCanceled) := by
  obtain ⟨hfront, hholds, -⟩ := h.at_turn
  obtain ⟨hstops, hcode⟩ := stops_of_cancel hholds (hfront.stable hr) hturn hc
  exact ⟨hstops, final_of_served h hr hcode⟩

/-- A wait that fails is final. -/
theorem failed_of_served {r r' : Runner} {front back : List (Taken α)} {k : Taken α}
    (h : Served r (front ++ k :: back) r') (hr : Stable start r) {e : SystemError}
    (hfailure : k.turn.failure? = some e) :
    ∃ c, k.before.child = some c ∧ Stops k.before c.pid .postinstallRunnerError k.exchanges ∧
      Taken.record back = [] ∧
      (r', r'.attemptAnswer) = (k.after, .finished .postinstallRunnerError) := by
  obtain ⟨hfront, hholds, -⟩ := h.at_turn
  obtain ⟨c, hc, haborts⟩ := hholds.aborts (hfront.stable hr) hfailure
  obtain ⟨hstops, hcode⟩ := haborts.stops hc
  exact ⟨c, hc, hstops, final_of_served h hr hcode⟩

/-- A runner that was used before refuses a whole attempt. -/
theorem call_run_of_used {r : Runner} (hused : r.stage ≠ .idle) (plan : InstallPlan)
    (controls : List (List Control)) :
    (r.call (.run plan controls) : Action α _) = pure (r, .refused .alreadyUsed) := by
  have hperform : (r.perform plan : Action α _) = pure (.error .alreadyUsed) := by
    unfold perform
    rw [if_pos hused]
  unfold call
  simp only [run, hperform]
  rfl

/-- A whole attempt of a runner that was not used is a start and then turns. -/
theorem driven_of_leads {r : Runner} (hr : Stable start r) (hidle : r.stage = .idle)
    {plan : InstallPlan} {controls : List (List Control)} {xs : List (Exchange α)}
    {out : Runner × CallAnswer} (h : (r.call (.run plan controls)).Leads xs out) :
    ∃ os first ks, xs = os ++ Taken.record ks ∧ Driven r plan controls os first ks out := by
  obtain ⟨ys, zs, ran, rfl, hrun, rfl, rfl⟩ := (leads_bind _ _ _ _).mp h
  rw [List.append_nil]
  rcases (run_ensures hr plan controls).of_leads hrun with ⟨hused, -⟩ | ⟨r', rfl, -⟩
  · exact absurd hidle hused
  obtain ⟨os, first, ks, taken, rfl, hperform, hserved, hprefix, hrounds, hall⟩ := run_served hrun
  have hstarts : (r.call (.perform plan)).Leads os (first, .nothing) :=
    (leads_bind _ _ _ _).mpr ⟨os, [], _, (List.append_nil os).symm, hperform, rfl, rfl⟩
  -- Every turn is taken at a stable runner, since the start leaves one behind.
  have hfirst := ((call_ensures hr (.perform plan)).of_leads hstarts).1.stable hr
  refine ⟨os, first, ks, rfl, ?_⟩
  exact {
    starts := hstarts
    served := hserved
    rounds := ⟨taken, hprefix, hrounds, hall⟩
    direct := by
      rintro front back rfl hwaits
      obtain ⟨r₁, hfront, hback⟩ := hserved.parted
      refine ⟨r₁, hstarts.bind (hfront.calls_leads hwaits), ?_⟩
      rintro rfl
      cases hback
      rfl
    endures := by
      intro k hk control hturn hcontrol
      have hcall : k.turn.call? = some control.call := by
        rw [hturn]
        rfl
      have hholds := (hserved.of_mem hfirst hk).2
      exact (call_refused k.before hcontrol).of_leads (hholds.calls _ hcall)
    inert := by
      intro k hk hover
      obtain ⟨code, hcode⟩ := Option.isSome_iff_exists.mp hover
      obtain ⟨hstable, hholds⟩ := hserved.of_mem hfirst hk
      exact hholds.of_done hstable hcode
    canceled := by
      rintro front k back c rfl hturn hc
      exact canceled_of_served hserved hfirst hturn hc
    failed := by
      rintro front k back e rfl hfailure
      exact failed_of_served hserved hfirst hfailure }

/-- A whole attempt is its start and then direct calls, one for each control message and for
whatever waiting gives, in the order in which these come. Messages that are refused change nothing;
cancelling while a program runs is final, and so is a wait that fails. A runner that was used before
refuses. -/
theorem run_driven (config : PostinstallConfig) (cs : List RunnerCall) (plan : InstallPlan)
    (controls : List (List Control)) (p : Platform α σ) (s : σ) :
    let r := (afterCalls config cs p s).result
    let out := afterNext config cs (.run plan controls) p s
    (r.stage ≠ .idle → out.exchanges = [] ∧ out.result = (r, .refused .alreadyUsed)) ∧
      (r.stage = .idle → ∃ os first ks, out.exchanges = os ++ Taken.record ks ∧
        Driven r plan controls os first ks out.result) := by
  intro r out
  have hstable : Stable (RunnerCall.firstPlan cs) r := afterCalls_stable config cs p s
  have hleads : (r.call (.run plan controls)).Leads out.exchanges out.result :=
    leads_run _ p (afterCalls config cs p s).state
  refine ⟨fun hused => ?_, fun hidle => driven_of_leads hstable hidle hleads⟩
  rwa [call_run_of_used hused, leads_pure] at hleads

end Runner

end SlotUpdate
