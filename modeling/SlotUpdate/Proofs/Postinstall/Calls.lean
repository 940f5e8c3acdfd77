import SlotUpdate.Proofs.Postinstall.Paths
import SlotUpdate.Proofs.Postinstall.Shape

/-!
# Calls are runs of happenings

A call on a stable runner is recorded as a run of happenings: the call itself, and what it exchanges
with the platform. Rounds of a whole attempt are put together from waits, so that `call_ensures`
follows one wait (`pollOnce_ensures`), one control message (`handle_ensures`) and one round
(`round_ensures`) in turn. Giving a runner up is a run of happenings as well, and after it there is
at most the wish to unmap the partitions (`shutDown_ensures`).

`Runner.follow` carries calls out on a platform and keeps the record, for what is said of histories
later on.
-/

namespace SlotUpdate

open SlotUpdate.Action

variable {α σ : Type} [ProgressNumber α]

namespace Runner

/-! ## Runs of happenings -/

/-- One happening is a run. -/
theorem Move.moves {mayCancel : Bool} {r r' : Runner} {es : List (Event α)}
    (h : Move mayCancel r es r') : Moves mayCancel r es r' := by
  have hmoves := Moves.cons h (.nil r')
  simpa using hmoves

/-- Runs follow each other. -/
theorem Moves.trans {mayCancel : Bool} {r r₁ r' : Runner} {es fs : List (Event α)}
    (h : Moves mayCancel r es r₁) (h' : Moves mayCancel r₁ fs r') :
    Moves mayCancel r (es ++ fs) r' := by
  induction h with
  | nil => exact h'
  | cons hmove _ ih =>
    rw [List.append_assoc]
    exact .cons hmove (ih h')

/-- A run where nothing is cancelled is a run anywhere. -/
theorem Moves.mono {mayCancel mayCancel' : Bool} (hmay : mayCancel = true → mayCancel' = true)
    {r r' : Runner} {es : List (Event α)} (h : Moves mayCancel r es r') :
    Moves mayCancel' r es r' := by
  induction h with
  | nil r => exact .nil r
  | cons hmove _ ih => exact .cons (hmove.mono hmay) ih

/-- Exchanges after exchanges are a run if both are. -/
theorem Moves.asked_append {mayCancel : Bool} {r r₁ r' : Runner} {xs ys : List (Exchange α)}
    (h : Moves mayCancel r (xs.map .asked) r₁) (h' : Moves mayCancel r₁ (ys.map .asked) r') :
    Moves mayCancel r ((xs ++ ys).map .asked) r' := by
  rw [List.map_append]
  exact h.trans h'

/-- Exchanges that start no attempt leave a runner stable. -/
theorem Moves.stable_asked {mayCancel : Bool} {start : Option InstallPlan} {r r' : Runner}
    {xs : List (Exchange α)} (h : Moves mayCancel r (xs.map .asked) r') (hr : Stable start r) :
    Stable start r' := by
  have hstable := h.stable hr
  rwa [Event.firstPlan_map_asked, Option.or_none] at hstable

/-! ## Progress and exits -/

/-- Lines are reported one after the other. -/
theorem reportLines_ensures (r : Runner) (lines : List String) :
    (r.reportLines lines : Action α Unit).Ensures fun xs _ => xs = r.reports lines := by
  induction lines with
  | nil => rfl
  | cons line rest ih =>
    unfold reportLines reportLine reports
    cases hline : ProgressLine.read? line with
    | none =>
      rw [ensures_bind, ensures_tell]
      apply ih.mono
      rintro xs _ rfl
      simp [hline, reports]
    | some literal =>
      refine (reportProgress_ensures r (ProgressNumber.ofLiteral literal)).bind ?_
      rintro _ _ rfl
      apply ih.mono
      rintro xs _ rfl
      simp [hline, reports]

/-- A turn of reads is one happening, or none if the status pipe is not watched. -/
theorem onReadable_ensures (mayCancel : Bool) (r : Runner) :
    (r.onReadable : Action α Runner).Ensures fun xs r' =>
      Moves mayCancel r (xs.map .asked) r' ∧ r'.childPid = r.childPid := by
  unfold onReadable
  cases hc : r.child with
  | none => exact ⟨.nil r, rfl⟩
  | some c =>
    by_cases hwatched : c.watched = true
    · simp only [hwatched, if_true]
      unfold readChild
      rw [ensures_bind, ensures_request]
      intro reads
      rw [ensures_bind, ensures_tellAll]
      refine (reportLines_ensures _ _).bind ?_
      rintro _ _ rfl
      have hmove : Move mayCancel r (_ : List (Event α)) (r.afterReads c reads) :=
        .reads reads hc hwatched
      refine ⟨?_, by simp [childPid, hc]⟩
      simpa [afterReads] using hmove.moves
    · simp only [hwatched]
      exact ⟨.nil r, rfl⟩

/-- The exit of the current program ends its partition, and the attempt goes on from there. -/
theorem onExited_ensures {start : Option InstallPlan} {r : Runner} (h : Stable start r) {pid : Pid}
    (hchild : r.childPid = some pid) (code : Int) :
    (r.onExited pid code : Action α Runner).Ensures fun xs r' => ∃ p ls ys out,
      xs = ls ++ ys ∧ r.partition? = some p ∧ Leaves r p code ls out ∧ GoesOn out ys r' := by
  obtain ⟨c, hc, -⟩ := Option.map_eq_some_iff.mp hchild
  obtain ⟨plan, -, hrunning⟩ := h.isRunning hc
  obtain ⟨q, hq, -⟩ := hrunning.current
  have hcurrent : r.partition? = some (effective plan q) := by
    unfold partition?
    rw [hrunning.works, withoutSkipped_getElem?, hq]
    rfl
  unfold onExited
  rw [if_pos hchild, hcurrent]
  refine (leavePartition_ensures hrunning.result (effective plan q) code _).bind ?_
  rintro ls ⟨r₁, goesOn⟩ hls
  cases goesOn with
  | true =>
    have hresult : r₁.result = none := hls.further.result.trans hrunning.result
    refine (proceed_ensures hresult).mono ?_
    intro ys r' hys
    exact ⟨_, ls, ys, _, rfl, rfl, hls, hys⟩
  | false => exact ⟨_, ls, [], _, rfl, rfl, hls, rfl, rfl⟩

/-- The exit of the current program is one happening, whoever reports it. -/
theorem onExited_moves {start : Option InstallPlan} {r : Runner} (h : Stable start r)
    (mayCancel : Bool) {e : Event α} {pid : Pid} {code : Int} (hreports : e.Reports pid code)
    (hchild : r.childPid = some pid) :
    (r.onExited pid code : Action α Runner).Ensures fun xs r' =>
      Moves mayCancel r (e :: xs.map .asked) r' := by
  refine (onExited_ensures h hchild code).mono ?_
  rintro _ r' ⟨p, ls, ys, out, rfl, hcurrent, hls, hys⟩
  exact (Move.exits hreports hchild hcurrent hls hys).moves

/-! ## Waiting -/

/-- What waiting once gives: a run of happenings, after which waiting may have failed. -/
def Polls (mayCancel : Bool) (r : Runner) (xs : List (Exchange α)) :
    Runner × Except SystemError Unit → Prop
  | (r', .ok ()) => Moves mayCancel r (xs.map .asked) r'
  | (r', .error _) => ∃ ys x c, xs = ys ++ [x] ∧ Moves mayCancel r (ys.map .asked) r' ∧
      r'.child = some c ∧ x.FailsToWait c.pid

/-- Waiting for the status pipe is a wait, and reads may follow. The program stays the same. -/
theorem pollStatus_ensures (mayCancel : Bool) {r : Runner} {c : RunningChild}
    (hc : r.child = some c) :
    (r.pollStatus c : Action α _).Ensures fun xs out =>
      Polls mayCancel r xs out ∧ out.1.childPid = some c.pid := by
  have hpid := childPid_eq hc
  unfold pollStatus
  by_cases hwatched : c.watched = true
  · rw [if_pos hwatched, ensures_bind, ensures_request]
    intro reply
    have hwait : Move mayCancel r [.asked ⟨.awaitStatus c.pid, reply⟩] r :=
      .waits hc (Or.inl ⟨reply, rfl⟩)
    match reply, hwait with
    | .error e, _ => exact ⟨⟨[], _, c, rfl, .nil r, hc, e, Or.inl rfl⟩, hpid⟩
    | .ok false, hwait => exact ⟨hwait.moves, hpid⟩
    | .ok true, hwait =>
      refine (onReadable_ensures mayCancel r).bind ?_
      rintro xs r' ⟨hmoves, hpid'⟩
      refine ⟨?_, hpid'.trans hpid⟩
      have hboth := hwait.moves.trans hmoves
      simpa [Polls] using hboth
  · rw [if_neg hwatched]
    intro reply
    exact ⟨(Move.waits hc (Or.inr (Or.inl rfl))).moves, hpid⟩

/-- The question whether the program has exited is a wait or its exit. -/
theorem pollExit_ensures {start : Option InstallPlan} {r : Runner} (h : Stable start r)
    (mayCancel : Bool) {pid : Pid} (hchild : r.childPid = some pid) :
    (r.pollExit pid : Action α _).Ensures (Polls mayCancel r) := by
  obtain ⟨c, hc, rfl⟩ := Option.map_eq_some_iff.mp hchild
  unfold pollExit
  rw [ensures_bind, ensures_request]
  intro reply
  match reply with
  | .error e => exact ⟨[], _, c, rfl, .nil r, hc, e, Or.inr rfl⟩
  | .ok none => exact (Move.waits hc (Or.inr (Or.inr (Or.inl rfl)))).moves
  | .ok (some code) =>
    refine (onExited_moves h mayCancel (Or.inr rfl) hchild).bind ?_
    intro xs r' hmoves
    simpa [Polls] using hmoves

/-- Waiting once follows `Polls`. -/
theorem pollOnce_ensures {start : Option InstallPlan} {r : Runner} (h : Stable start r)
    (mayCancel : Bool) : (r.pollOnce : Action α _).Ensures (Polls mayCancel r) := by
  unfold pollOnce
  cases hc : r.child with
  | none => exact Moves.nil r
  | some c =>
    refine (pollStatus_ensures mayCancel hc).bind ?_
    rintro xs ⟨r₁, polled⟩ ⟨hpolls, hpid⟩
    cases polled with
    | error e => simpa using hpolls
    | ok u =>
      have hmoves : Moves mayCancel r (xs.map .asked) r₁ := hpolls
      refine (pollExit_ensures (hmoves.stable_asked h) mayCancel hpid).mono ?_
      rintro ys ⟨r', polled⟩ hys
      cases polled with
      | ok u => exact hmoves.asked_append hys
      | error e =>
        obtain ⟨zs, x, c', rfl, hzs, hc', hx⟩ := hys
        refine ⟨xs ++ zs, x, c', (List.append_assoc xs zs [x]).symm, ?_, hc', hx⟩
        exact hmoves.asked_append hzs

/-- Waiting once, and the end of the attempt if that fails, is a run of happenings. -/
theorem monitor_ensures {start : Option InstallPlan} {r : Runner} (h : Stable start r)
    (mayCancel : Bool) :
    (r.monitor : Action α Runner).Ensures fun xs r' => Moves mayCancel r (xs.map .asked) r' := by
  unfold monitor
  refine (pollOnce_ensures h mayCancel).bind ?_
  rintro xs ⟨r₁, polled⟩ hxs
  cases polled with
  | ok u =>
    have hmoves : Moves mayCancel r (xs.map .asked) r₁ := hxs
    simpa using hmoves
  | error e =>
    obtain ⟨ys, x, c, rfl, hys, hc, hx⟩ := hxs
    obtain ⟨plan, -, hrunning⟩ := (hys.stable_asked h).isRunning hc
    rw [ensures_bind, ensures_tell]
    refine (killChild_ensures r₁).bind ?_
    intro ks killed hkills
    have hresult : killed.result = none := hkills.keeps.2.trans hrunning.result
    refine (completeAttempt_ensures hresult .postinstallRunnerError).mono ?_
    intro zs r' hends
    have haborts : Move mayCancel r₁ _ r' := .aborts hc hx hrunning.result (.intro hkills hends)
    have hboth := hys.trans haborts.moves
    simpa using hboth

/-! ## Control messages -/

omit [ProgressNumber α] in
/-- Cancelling an attempt that goes on cancels it. -/
theorem terminate_cancels {r : Runner} (hbegun : r.stage ≠ .idle) (hongoing : r.result = none) :
    (r.terminate : Action α Runner).Ensures (Cancels r) := by
  have hover : ¬(r.stage = .idle ∨ r.result.isSome = true) := by
    rw [hongoing]
    exact fun h => h.elim hbegun Bool.false_ne_true
  unfold terminate
  rw [if_neg hover, ensures_bind, ensures_tell]
  refine (killChild_ensures r).bind ?_
  intro ks killed hkills
  have hresult : killed.result = none := hkills.keeps.2.trans hongoing
  refine (cleanUp_ensures killed).bind ?_
  rintro us _ ⟨hus, rfl⟩
  refine (completeAttempt_ensures (r := killed.released) hresult .userCanceled).mono ?_
  intro xs r' hends
  rw [List.nil_append, ← List.append_assoc]
  exact .intro hkills hus hends

/-- Cancelling is one happening, or none if no attempt goes on; none does afterwards. -/
theorem terminate_ensures {mayCancel : Bool} (hmay : mayCancel = true) (r : Runner) :
    (r.terminate : Action α Runner).Ensures fun xs r' =>
      Moves mayCancel r (xs.map .asked) r' ∧
        (r' = r ∧ r.stage = .idle ∨ r'.result.isSome = true) := by
  by_cases hover : r.stage = .idle ∨ r.result.isSome = true
  · unfold terminate
    rw [if_pos hover]
    exact ⟨.nil r, hover.imp_left fun hidle => ⟨rfl, hidle⟩⟩
  · have hstage : r.stage ≠ .idle := fun hidle => hover (Or.inl hidle)
    have hongoing : r.result = none := by
      rw [← Option.not_isSome_iff_eq_none]
      exact fun hsome => hover (Or.inr hsome)
    refine (terminate_cancels hstage hongoing).mono ?_
    intro xs r' hcancels
    have hmove : Move mayCancel r (xs.map .asked) r' := .cancels hmay hstage hongoing hcancels
    obtain ⟨code, hcode, -⟩ := hcancels.isDone.1.result
    exact ⟨hmove.moves, Or.inr (Option.isSome_of_eq_some hcode)⟩

/-- Stopping the program is one happening, or none if no program runs. -/
theorem suspend_moves (mayCancel : Bool) (r : Runner) :
    (r.suspend : Action α _).Ensures fun xs out =>
      Moves mayCancel r (xs.map .asked) out.1 ∧ out.1.childPid = r.childPid := by
  refine (suspend_ensures r).mono ?_
  rintro _ ⟨_, _⟩ (⟨-, rfl, rfl⟩ | ⟨c, hc, ⟨rfl, rfl⟩ | ⟨e, rfl, rfl⟩⟩)
  · exact ⟨.nil _, rfl⟩
  · exact ⟨(Move.suspends hc).moves, rfl⟩
  · exact ⟨(Move.balks e hc (Or.inl rfl)).moves, rfl⟩

/-- Letting the program go on is one happening, or none if it is not stopped. -/
theorem resume_moves (mayCancel : Bool) (r : Runner) :
    (r.resume : Action α _).Ensures fun xs out =>
      Moves mayCancel r (xs.map .asked) out.1 ∧ out.1.childPid = r.childPid := by
  refine (resume_ensures r).mono ?_
  rintro _ ⟨_, _⟩ (⟨-, rfl, rfl⟩ | ⟨c, hc, hs, ⟨rfl, rfl⟩ | ⟨e, rfl, rfl⟩⟩)
  · exact ⟨.nil _, rfl⟩
  · exact ⟨(Move.resumes hc hs).moves, rfl⟩
  · exact ⟨(Move.balks e hc (Or.inr ⟨rfl, hs⟩)).moves, rfl⟩

/-- A control message is a run of happenings. The program stays the same, unless the attempt
ends. -/
theorem handle_ensures {mayCancel : Bool} (r : Runner) {control : Control}
    (hmay : control = .cancel → mayCancel = true) :
    (r.handle control : Action α Runner).Ensures fun xs r' =>
      Moves mayCancel r (xs.map .asked) r' ∧
        (r'.childPid = r.childPid ∨ r'.result.isSome = true) := by
  unfold handle
  have hobey : (r.obey control : Action α _).Ensures fun xs out =>
      Moves mayCancel r (xs.map .asked) out.1 ∧
        (out.1.childPid = r.childPid ∨ out.1.result.isSome = true) := by
    cases control with
    | suspend => exact (suspend_moves mayCancel r).mono fun _ _ h => ⟨h.1, Or.inl h.2⟩
    | resume => exact (resume_moves mayCancel r).mono fun _ _ h => ⟨h.1, Or.inl h.2⟩
    | cancel =>
      unfold obey
      refine (terminate_ensures (hmay rfl) r).bind ?_
      rintro xs r' ⟨hmoves, hrests⟩
      refine ⟨by simpa using hmoves, hrests.imp_left ?_⟩
      rintro ⟨rfl, -⟩
      rfl
  apply hobey.bind
  rintro xs ⟨r', outcome⟩ hxs
  cases outcome with
  | error e => simpa using hxs
  | ok u => simpa using hxs

/-- Control messages are a run of happenings. The program stays the same, unless the attempt
ends. -/
theorem handleAll_ensures {start : Option InstallPlan} {r : Runner} (h : Stable start r)
    {mayCancel : Bool} {controls : List Control} (hmay : .cancel ∈ controls → mayCancel = true) :
    (r.handleAll controls : Action α Runner).Ensures fun xs r' =>
      Moves mayCancel r (xs.map .asked) r' ∧
        (r'.childPid = r.childPid ∨ r'.result.isSome = true) := by
  induction controls generalizing r with
  | nil => exact ⟨.nil r, Or.inl rfl⟩
  | cons control rest ih =>
    unfold handleAll
    have hfirst : control = .cancel → mayCancel = true := fun heq =>
      hmay (heq ▸ List.mem_cons_self)
    have hrest : .cancel ∈ rest → mayCancel = true := fun hmem =>
      hmay (List.mem_cons_of_mem _ hmem)
    refine (handle_ensures r hfirst).bind ?_
    rintro xs r₁ ⟨hxs, hkeeps⟩
    have hstable := hxs.stable_asked h
    refine (ih hstable hrest).mono ?_
    rintro ys r' ⟨hys, hkeeps'⟩
    refine ⟨hxs.asked_append hys, ?_⟩
    rcases hkeeps with hpid | hover
    · rwa [← hpid]
    · -- Once the attempt has ended, the other messages change nothing.
      obtain ⟨code, hcode⟩ := Option.isSome_iff_exists.mp hover
      obtain ⟨-, rfl⟩ := hys.of_done hstable hcode
      exact Or.inr hover

/-! ## Rounds -/

/-- A round is a run of happenings. -/
theorem round_ensures {start : Option InstallPlan} {r : Runner} (h : Stable start r)
    {mayCancel : Bool} {controls : List Control} (hmay : .cancel ∈ controls → mayCancel = true) :
    (r.round controls : Action α Runner).Ensures fun xs r' =>
      Moves mayCancel r (xs.map .asked) r' := by
  unfold round
  refine (handleAll_ensures h hmay).bind ?_
  rintro xs r₁ ⟨hxs, -⟩
  split
  · simpa using hxs
  · refine (monitor_ensures (hxs.stable_asked h) mayCancel).mono ?_
    intro ys r' hys
    exact hxs.asked_append hys

/-- Rounds are a run of happenings. -/
theorem rounds_ensures {start : Option InstallPlan} {r : Runner} (h : Stable start r)
    {mayCancel : Bool} {controls : List (List Control)}
    (hmay : ∀ cs ∈ controls, .cancel ∈ cs → mayCancel = true) :
    (r.rounds controls : Action α Runner).Ensures fun xs r' =>
      Moves mayCancel r (xs.map .asked) r' := by
  induction controls generalizing r with
  | nil => exact .nil r
  | cons cs rest ih =>
    unfold rounds
    split
    · exact .nil r
    · refine (round_ensures h (hmay cs List.mem_cons_self)).bind ?_
      intro xs r₁ hxs
      have hrest : ∀ cs' ∈ rest, .cancel ∈ cs' → mayCancel = true := fun cs' hmem =>
        hmay cs' (List.mem_cons_of_mem _ hmem)
      refine (ih (hxs.stable_asked h) hrest).mono ?_
      intro ys r' hys
      exact hxs.asked_append hys

/-! ## Calls -/

/-- What a whole attempt returns is the result of the runner. -/
theorem result_of_finished {r : Runner} {code : ErrorCode}
    (h : r.attemptAnswer = .finished code) : r.result = some code := by
  unfold attemptAnswer at h
  cases hresult : r.result with
  | none =>
    rw [hresult] at h
    cases h
  | some c =>
    unfold returned at h
    rw [hresult] at h
    injection h with hcode
    rw [← hcode]
    rfl

/-- A call that starts nothing and does not report the exit of the current program has no effect of
its own. -/
theorem Move.plain {mayCancel : Bool} {r : Runner} {c : RunnerCall} (hplan : c.plan? = none)
    (hexit : ∀ pid code, c = .exited pid code → r.childPid ≠ some pid) :
    Move mayCancel r [(.called c : Event α)] r := by
  refine .noted c ?_ hexit
  rw [hplan]
  exact fun hsome => nomatch hsome

/-- A call that is to start an attempt is refused by a runner that has begun before. -/
theorem Moves.refused {mayCancel : Bool} {r : Runner} {c : RunnerCall} {plan : InstallPlan}
    (hplan : c.plan? = some plan) (hstage : r.stage ≠ .idle) :
    Moves mayCancel r [(.called c : Event α)] r := by
  refine (Move.noted c (fun _ => hstage) ?_).moves
  rintro pid code rfl
  cases hplan

/-- An attempt begins, unless the runner has begun before. -/
theorem perform_ensures {start : Option InstallPlan} {r : Runner} (h : Stable start r)
    (plan : InstallPlan) :
    (r.perform plan : Action α _).Ensures fun xs out =>
      (r.stage ≠ .idle ∧ xs = [] ∧ out = .error .alreadyUsed) ∨
        r.stage = .idle ∧ ∃ r', out = .ok r' ∧ Begins (r.planned plan) xs r' := by
  unfold perform
  by_cases hidle : r.stage = .idle
  · rw [if_neg (not_not_intro hidle), ensures_bind, ensures_tellAll]
    have hresult : (r.planned plan).result = none := (h.isIdle hidle).2.result
    refine (begin_ensures hresult).bind ?_
    intro xs r' hbegins
    exact Or.inr ⟨hidle, r', rfl, by simpa using hbegins⟩
  · rw [if_pos hidle]
    exact Or.inl ⟨hidle, rfl, rfl⟩

/-- A whole attempt is a run of happenings. -/
theorem run_ensures {start : Option InstallPlan} {r : Runner} (h : Stable start r)
    (plan : InstallPlan) (controls : List (List Control)) :
    (r.run plan controls : Action α _).Ensures fun xs out =>
      (r.stage ≠ .idle ∧ xs = [] ∧ out = .error .alreadyUsed) ∨
        ∃ r', out = .ok r' ∧
          Moves (RunnerCall.run plan controls).mayCancel r
            (.called (.run plan controls) :: xs.map .asked) r' := by
  have hmay : ∀ cs ∈ controls, .cancel ∈ cs → (RunnerCall.run plan controls).mayCancel = true := by
    intro cs hcs hcancel
    unfold RunnerCall.mayCancel
    exact List.any_eq_true.mpr ⟨cs, hcs, List.contains_iff_mem.mpr hcancel⟩
  unfold run
  refine (perform_ensures h plan).bind ?_
  rintro xs _ (⟨hstage, rfl, rfl⟩ | ⟨hidle, r₁, rfl, hbegins⟩)
  · exact Or.inl ⟨hstage, rfl, rfl⟩
  · have hmoves : Moves (RunnerCall.run plan controls).mayCancel r _ r₁ :=
      (Move.begins (c := .run plan controls) rfl hidle hbegins).moves
    refine (rounds_ensures (hmoves.stable h) hmay).bind ?_
    intro ys r' hys
    refine Or.inr ⟨r', rfl, ?_⟩
    have hboth := hmoves.trans hys
    simpa using hboth

/-- A call is a run of happenings that begins with the call, and if a whole attempt returns, then
with its result. -/
theorem call_ensures {start : Option InstallPlan} {r : Runner} (h : Stable start r)
    (c : RunnerCall) :
    (r.call c : Action α _).Ensures fun xs out =>
      Moves c.mayCancel r (.called c :: xs.map .asked) out.1 ∧
        ∀ code, out.2 = .finished code → out.1.result = some code := by
  cases c with
  | perform plan =>
    refine (perform_ensures h plan).bind ?_
    rintro xs _ (⟨hstage, rfl, rfl⟩ | ⟨hidle, r', rfl, hbegins⟩)
    · exact ⟨Moves.refused rfl hstage, fun _ hcode => nomatch hcode⟩
    · have hmoves : Moves false r _ r' := (Move.begins (c := .perform plan) rfl hidle hbegins).moves
      exact ⟨by simpa [RunnerCall.mayCancel, started] using hmoves, fun _ hcode => nomatch hcode⟩
  | run plan controls =>
    refine (run_ensures h plan controls).bind ?_
    rintro xs _ (⟨hstage, rfl, rfl⟩ | ⟨r', rfl, hmoves⟩)
    · exact ⟨Moves.refused rfl hstage, fun _ hcode => nomatch hcode⟩
    · exact ⟨by simpa [RunnerCall.mayCancel, started] using hmoves,
        fun _ hcode => result_of_finished hcode⟩
  | readable =>
    have hnoted : Move false r [(.called .readable : Event α)] r := .plain rfl (by rintro _ _ ⟨⟩)
    refine (onReadable_ensures false r).bind ?_
    rintro xs r' ⟨hmoves, -⟩
    exact ⟨by simpa [RunnerCall.mayCancel] using hnoted.moves.trans hmoves,
      fun _ hcode => nomatch hcode⟩
  | poll =>
    have hnoted : Move false r [(.called .poll : Event α)] r := .plain rfl (by rintro _ _ ⟨⟩)
    refine (pollOnce_ensures h false).bind ?_
    rintro xs ⟨r', polled⟩ hpolls
    cases polled with
    | ok u =>
      have hmoves : Moves false r (xs.map .asked) r' := hpolls
      exact ⟨by simpa [RunnerCall.mayCancel] using hnoted.moves.trans hmoves,
        fun _ hcode => nomatch hcode⟩
    | error e =>
      -- The wait that failed is a happening too, which leaves the runner as it is.
      obtain ⟨ys, x, c, rfl, hys, hc, hx⟩ := hpolls
      have hwait : Move false r' [.asked x] r' := .waits hc (Or.inr (Or.inr (Or.inr hx)))
      exact ⟨by simpa [RunnerCall.mayCancel] using hnoted.moves.trans (hys.trans hwait.moves),
        fun _ hcode => nomatch hcode⟩
  | exited pid code =>
    by_cases hchild : r.childPid = some pid
    · refine (onExited_moves h false (Or.inl rfl) hchild).bind ?_
      intro xs r' hmoves
      exact ⟨by simpa [RunnerCall.mayCancel] using hmoves, fun _ hcode => nomatch hcode⟩
    · have hstale : Move false r [(.called (.exited pid code) : Event α)] r := by
        apply Move.plain rfl
        rintro _ _ ⟨⟩
        exact hchild
      simp only [call, onExited, if_neg hchild]
      exact ⟨hstale.moves, fun _ hcode => nomatch hcode⟩
  | suspend =>
    have hnoted : Move false r [(.called .suspend : Event α)] r := .plain rfl (by rintro _ _ ⟨⟩)
    refine (suspend_moves false r).bind ?_
    rintro xs ⟨r', outcome⟩ ⟨hmoves, -⟩
    refine ⟨by simpa [RunnerCall.mayCancel] using hnoted.moves.trans hmoves, ?_⟩
    intro code hcode
    cases outcome <;> cases hcode
  | resume =>
    have hnoted : Move false r [(.called .resume : Event α)] r := .plain rfl (by rintro _ _ ⟨⟩)
    refine (resume_moves false r).bind ?_
    rintro xs ⟨r', outcome⟩ ⟨hmoves, -⟩
    refine ⟨by simpa [RunnerCall.mayCancel] using hnoted.moves.trans hmoves, ?_⟩
    intro code hcode
    cases outcome <;> cases hcode
  | terminate =>
    have hnoted : Move true r [(.called .terminate : Event α)] r := .plain rfl (by rintro _ _ ⟨⟩)
    refine (terminate_ensures rfl r).bind ?_
    rintro xs r' ⟨hmoves, -⟩
    exact ⟨by simpa [RunnerCall.mayCancel] using hnoted.moves.trans hmoves,
      fun _ hcode => nomatch hcode⟩

/-! ## Histories -/

/-- What is recorded of calls on a runner that are carried out on a platform. -/
def record (p : Platform α σ) : Runner → List RunnerCall → σ → List (Event α)
  | _, [], _ => []
  | r, c :: rest, s =>
    let out := (r.call c).run p s
    .called c :: out.exchanges.map .asked ++ record p out.result.1 rest out.state

/-- The record of calls has their exchanges. -/
theorem record_exchanges (p : Platform α σ) (r : Runner) (cs : List RunnerCall) (s : σ) :
    Event.exchanges (record p r cs s) = ((r.calls cs).run p s).exchanges := by
  induction cs generalizing r s with
  | nil => rfl
  | cons c rest ih =>
    unfold record calls
    rw [run_bind]
    simp [ih]

/-- The record of calls tells of the attempt that they start. -/
theorem record_firstPlan (p : Platform α σ) (r : Runner) (cs : List RunnerCall) (s : σ) :
    Event.firstPlan (record p r cs s) = RunnerCall.firstPlan cs := by
  induction cs generalizing r s with
  | nil => rfl
  | cons c rest ih =>
    unfold record RunnerCall.firstPlan
    rw [List.findSome?_cons]
    cases hplan : c.plan? with
    | none => simp [hplan, ih, RunnerCall.firstPlan]
    | some plan => simp [hplan]

/-- The record of calls on a stable runner is a run of happenings. -/
theorem record_moves {start : Option InstallPlan} {r : Runner} (h : Stable start r)
    {mayCancel : Bool} {cs : List RunnerCall}
    (hmay : ∀ c ∈ cs, c.mayCancel = true → mayCancel = true) (p : Platform α σ) (s : σ) :
    Moves mayCancel r (record p r cs s) ((r.calls cs).run p s).result := by
  induction cs generalizing start r s with
  | nil => exact .nil r
  | cons c rest ih =>
    unfold record calls
    rw [run_bind]
    obtain ⟨⟨hmoves, -⟩, -⟩ := (call_ensures h c).run p s
    have hrest : ∀ c' ∈ rest, c'.mayCancel = true → mayCancel = true := fun c' hmem =>
      hmay c' (List.mem_cons_of_mem _ hmem)
    exact (hmoves.mono (hmay c List.mem_cons_self)).trans (ih (hmoves.stable h) hrest _)

/-- The exchange that unmaps the partitions of an attempt, if it was begun and has some. -/
def Unmaps (r : Runner) (xs : List (Exchange α)) : Prop :=
  xs.map (·.request) =
    if r.stage ≠ .idle ∧ r.plan.partitions ≠ [] then [Request.unmapAll] else []

omit [ProgressNumber α] in
/-- Unmapping the partitions is one exchange at most. -/
theorem Unmaps.eq {r : Runner} {xs : List (Exchange α)} (h : Unmaps r xs) :
    xs = [] ∨ ∃ reply, xs = [⟨.unmapAll, reply⟩] := by
  unfold Unmaps at h
  split at h
  · obtain ⟨⟨request, reply⟩, rfl, hrequest⟩ := List.map_eq_singleton_iff.mp h
    obtain rfl : request = .unmapAll := hrequest
    exact Or.inr ⟨reply, rfl⟩
  · exact Or.inl (List.map_eq_nil_iff.mp h)

/-- Abandoning an attempt is a run of happenings, after which none goes on. -/
theorem abandon_ensures (r : Runner) :
    (r.abandon : Action α Runner).Ensures fun xs r' =>
      Moves true r (xs.map .asked) r' ∧ (r'.stage = .idle ∨ r'.result.isSome = true) := by
  unfold abandon
  split
  · rw [ensures_bind, ensures_tell]
    refine (terminate_ensures rfl r).mono ?_
    rintro xs r' ⟨hmoves, hrests⟩
    refine ⟨by simpa using hmoves, hrests.imp_left ?_⟩
    rintro ⟨rfl, hidle⟩
    exact hidle
  · rename_i hrests
    refine ⟨.nil r, ?_⟩
    by_cases hidle : r.stage = .idle
    · exact Or.inl hidle
    · have hover : ¬r.result = none := by simpa [hidle] using hrests
      exact Or.inr (Option.isSome_iff_ne_none.mpr hover)

omit [ProgressNumber α] in
/-- Partitions are unmapped by one request, or not at all. -/
theorem unmapPartitions_ensures (r : Runner) :
    (r.unmapPartitions : Action α Unit).Ensures fun xs _ => Unmaps r xs := by
  unfold unmapPartitions Unmaps
  split
  · rw [ensures_bind, ensures_request]
    intro reply
    cases reply with
    | error e => rfl
    | ok u => rfl
  · rfl

/-- Giving a stable runner up cancels the attempt that goes on, if any, and unmaps partitions. -/
theorem shutDown_ensures {start : Option InstallPlan} {r : Runner} (h : Stable start r) :
    (r.shutDown : Action α Runner).Ensures fun xs r' => ∃ ys us, xs = ys ++ us ∧
      Moves true r (ys.map .asked) r' ∧ Unmaps r' us ∧
        (r'.stage = .idle ∨ r'.result.isSome = true) := by
  unfold shutDown
  refine (abandon_ensures r).bind ?_
  rintro ys r₁ ⟨hmoves, hrests⟩
  -- Nothing is left to end or to release.
  obtain ⟨hchild, hmount, hreleased⟩ := (hmoves.stable_asked h).released hrests
  refine (killChild_ensures r₁).bind ?_
  intro ks killed hkills
  have hkilled : ks = [] ∧ killed = r₁ := by
    cases hkills with
    | nothing => exact ⟨rfl, rfl⟩
    | going c _ hc => rw [hchild] at hc; cases hc
    | resumed c _ hc => rw [hchild] at hc; cases hc
    | stuck c _ _ hc => rw [hchild] at hc; cases hc
  obtain ⟨rfl, rfl⟩ := hkilled
  refine (cleanUp_ensures killed).bind ?_
  rintro vs _ ⟨hvs, rfl⟩
  have hnone : vs = [] := by
    unfold Unmounts at hvs
    rw [hmount] at hvs
    simpa using hvs
  rw [hnone, hreleased]
  refine (unmapPartitions_ensures killed).bind ?_
  intro us _ hus
  exact ⟨ys, us, by simp, hmoves, hus, hrests⟩

/-! ## New runners -/

/-- What carrying out calls on a new runner gives. -/
def afterCalls (config : PostinstallConfig) (cs : List RunnerCall) (p : Platform α σ) (s : σ) :
    Outcome α σ Runner := ((new config).calls cs).run p s

/-- What carrying out one more call gives. -/
def afterNext (config : PostinstallConfig) (cs : List RunnerCall) (c : RunnerCall)
    (p : Platform α σ) (s : σ) : Outcome α σ (Runner × CallAnswer) :=
  ((afterCalls config cs p s).result.call c).run p (afterCalls config cs p s).state

/-- What carrying out calls on a new runner and giving it up gives. -/
def afterLifetime (config : PostinstallConfig) (cs : List RunnerCall) (p : Platform α σ) (s : σ) :
    Outcome α σ Runner := (lifetime config cs).run p s

/-- The record of calls on a new runner is a run of happenings. -/
theorem afterCalls_moves (config : PostinstallConfig) (cs : List RunnerCall) (p : Platform α σ)
    (s : σ) :
    Moves true (new config) (record p (new config) cs s) (afterCalls config cs p s).result :=
  record_moves (stable_new config) (fun _ _ _ => rfl) p s

/-- After any calls a new runner is stable. -/
theorem afterCalls_stable (config : PostinstallConfig) (cs : List RunnerCall) (p : Platform α σ)
    (s : σ) : Stable (RunnerCall.firstPlan cs) (afterCalls config cs p s).result := by
  have hstable := (afterCalls_moves config cs p s).stable (stable_new config)
  rwa [record_firstPlan] at hstable

/-- One more call is a run of happenings, and a whole attempt returns its result. -/
theorem afterNext_moves (config : PostinstallConfig) (cs : List RunnerCall) (c : RunnerCall)
    (p : Platform α σ) (s : σ) :
    Moves c.mayCancel (afterCalls config cs p s).result
        (.called c :: (afterNext config cs c p s).exchanges.map .asked)
        (afterNext config cs c p s).result.1 ∧
      ∀ code, (afterNext config cs c p s).result.2 = .finished code →
        (afterNext config cs c p s).result.1.result = some code :=
  ((call_ensures (afterCalls_stable config cs p s) c).run p _).1

/-- What is recorded of a whole lifetime: of the calls, and of giving the runner up. -/
def lifetimeRecord (config : PostinstallConfig) (cs : List RunnerCall) (p : Platform α σ) (s : σ) :
    List (Event α) :=
  let before := afterCalls config cs p s
  record p (new config) cs s ++ (before.result.shutDown.run p before.state).exchanges.map .asked

/-- The record of a lifetime has its exchanges. -/
theorem lifetimeRecord_exchanges (config : PostinstallConfig) (cs : List RunnerCall)
    (p : Platform α σ) (s : σ) :
    Event.exchanges (lifetimeRecord config cs p s) = (afterLifetime config cs p s).exchanges := by
  unfold lifetimeRecord afterLifetime lifetime
  rw [Event.exchanges_append, record_exchanges, Event.exchanges_map_asked, run_bind]
  rfl

/-- What is recorded when a runner is given up after calls: happenings, and the wish to unmap. -/
theorem afterLifetime_moves (config : PostinstallConfig) (cs : List RunnerCall) (p : Platform α σ)
    (s : σ) : ∃ ys us,
    lifetimeRecord config cs p s = record p (new config) cs s ++ (ys ++ us).map .asked ∧
      Moves true (afterCalls config cs p s).result (ys.map .asked)
        (afterLifetime config cs p s).result ∧
      Unmaps (afterLifetime config cs p s).result us ∧
      ((afterLifetime config cs p s).result.stage = .idle ∨
        (afterLifetime config cs p s).result.result.isSome = true) := by
  have hshutDown := shutDown_ensures (α := α) (afterCalls_stable config cs p s)
  obtain ⟨⟨ys, us, hxs, hmoves, hus, hrests⟩, -⟩ := hshutDown.run p (afterCalls config cs p s).state
  unfold lifetimeRecord afterLifetime lifetime
  rw [run_bind]
  refine ⟨ys, us, ?_, hmoves, hus, hrests⟩
  rw [← hxs]

/-- After any lifetime a new runner is stable. -/
theorem afterLifetime_stable (config : PostinstallConfig) (cs : List RunnerCall)
    (p : Platform α σ) (s : σ) :
    Stable (RunnerCall.firstPlan cs) (afterLifetime config cs p s).result := by
  obtain ⟨_, _, -, hmoves, -⟩ := afterLifetime_moves config cs p s
  exact hmoves.stable_asked (afterCalls_stable config cs p s)

/-- An attempt that was started has a result after the lifetime. -/
theorem afterLifetime_result (config : PostinstallConfig) (cs : List RunnerCall)
    (p : Platform α σ) (s : σ) (hsome : (RunnerCall.firstPlan cs).isSome = true) :
    ∃ code, (afterLifetime config cs p s).result.result = some code := by
  obtain ⟨_, _, -, -, -, hrests⟩ := afterLifetime_moves config cs p s
  rcases hrests with hidle | hover
  · rw [((afterLifetime_stable config cs p s).isIdle hidle).1] at hsome
    cases hsome
  · exact Option.isSome_iff_exists.mp hover

/-- After a lifetime no program is waited for. -/
theorem afterLifetime_child (config : PostinstallConfig) (cs : List RunnerCall)
    (p : Platform α σ) (s : σ) : (afterLifetime config cs p s).result.child = none := by
  obtain ⟨_, _, -, -, -, hrests⟩ := afterLifetime_moves config cs p s
  exact ((afterLifetime_stable config cs p s).released hrests).1

end Runner

end SlotUpdate
