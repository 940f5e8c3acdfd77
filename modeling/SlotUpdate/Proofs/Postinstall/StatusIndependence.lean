import SlotUpdate.Proofs.Action.Matches
import SlotUpdate.Proofs.Postinstall.Refinement
import SlotUpdate.Proofs.Postinstall.Topics

/-!
# What programs write to their status pipes settles nothing

Two histories of runners have the same calls apart from reads of status pipes, on platforms whose
outcomes are the same apart from what those reads give. Then they ask for the same, apart from reads
and reports of progress, and what can be asked of the runner is the same after each common call.

The proof carries a relation between the runners of the two histories, `Runner.Alike`: they are the
same, or a program runs and they differ in what they know of its status only. Each call is an action
on each side, and the actions match apart from status (`call_matches`). Most of them match because
they begin with the release of what they differ in, and read nothing afterwards (`Unread`); a read
on one side matches nothing on the other (`onReadable_matches_left`, `onReadable_matches_right`).
-/

namespace SlotUpdate

open SlotUpdate.Action

variable {α σ τ : Type}

/-- Whether a request reads the status of a program, or tells of it. -/
def Request.isStatus : Request α → Bool
  | .readStatus _ _ | .progress _ => true
  | _ => false

/-- Whether a request reads the status of a program. -/
@[simp]
def Request.reads : Request α → Bool
  | .readStatus _ _ => true
  | _ => false

namespace RunnerCall

/-- Whether a call tells the runner of an event, or gives an order. The others wait for events. -/
def isEvent : RunnerCall → Bool
  | run _ _ | poll => false
  | _ => true

/-- Calls apart from reads of the status pipe. -/
def withoutReads (cs : List RunnerCall) : List RunnerCall := cs.filter (· != .readable)

/-- A read is left out. -/
@[simp]
theorem withoutReads_readable (cs : List RunnerCall) :
    withoutReads (.readable :: cs) = withoutReads cs := rfl

/-- Where another call is next apart from reads, there are reads in front of it. -/
theorem withoutReads_eq_cons {c : RunnerCall} {cs ds : List RunnerCall}
    (h : withoutReads ds = c :: cs) : ∃ ds₁ ds₂, ds = ds₁ ++ c :: ds₂ ∧
      (∀ d ∈ ds₁, d = .readable) ∧ withoutReads ds₂ = cs := by
  obtain ⟨ds₁, ds₂, rfl, hreads, -, hrest⟩ := List.filter_eq_cons_iff.mp h
  exact ⟨ds₁, ds₂, rfl, fun d hd => by simpa using hreads d hd, hrest⟩

/-- Where no call is left apart from reads, there are only reads. -/
theorem withoutReads_eq_nil {ds : List RunnerCall} (h : withoutReads ds = []) :
    ∀ d ∈ ds, d = .readable := by
  intro d hd
  simpa using List.filter_eq_nil_iff.mp h d hd

end RunnerCall

/-! ## Exchanges that read nothing -/

/-- No status is read in exchanges. -/
def Unread (xs : List (Exchange α)) : Prop := ∀ x ∈ xs, x.request.reads = false

namespace Unread

/-- Nothing is read where nothing is asked. -/
@[simp]
theorem nil : Unread ([] : List (Exchange α)) := fun _ hx => nomatch hx

/-- The first of several exchanges reads nothing, nor do the others. -/
@[simp]
theorem cons_iff (x : Exchange α) (xs : List (Exchange α)) :
    Unread (x :: xs) ↔ x.request.reads = false ∧ Unread xs := by
  unfold Unread
  exact List.forall_mem_cons

/-- Exchanges after exchanges read nothing if both do not. -/
@[simp]
theorem append_iff (xs ys : List (Exchange α)) : Unread (xs ++ ys) ↔ Unread xs ∧ Unread ys := by
  unfold Unread
  exact List.forall_mem_append

/-- Exchanges that are not about programs read nothing. -/
theorem of_about {topics : List Topic} {xs : List (Exchange α)} (h : About topics xs)
    (hother : .programs ∉ topics) : Unread xs := by
  intro x hx
  have htopic := h x hx
  obtain ⟨request, reply⟩ := x
  cases request with
  | readStatus => exact absurd htopic hother
  | _ => rfl

/-- Reports of progress are all of status that is left, and nothing is learnt from them. -/
theorem learnsNothing {xs : List (Exchange α)} (h : Unread xs) :
    LearnsNothing Request.isStatus xs := by
  intro x hx hstatus
  have hreads := h x hx
  obtain ⟨request, reply⟩ := x
  cases request with
  | readStatus => cases hreads
  | progress => exact inferInstanceAs (Subsingleton Unit)
  | _ => cases hstatus

end Unread

namespace Runner

/-- The end of an attempt reads nothing. -/
theorem Ends.unread {r r' : Runner} {code : ErrorCode} {xs : List (Exchange α)}
    (h : Ends r code xs r') : Unread xs := by
  cases h with
  | intro hus hss hps => exact .of_about (about_of_ends hus hss hps) (by decide)

/-- Mounting reads nothing. -/
theorem Mounts.unread {r : Runner} {p : Partition} {ms : List (Exchange α)}
    {outcome : Except MountError ScopedMount} (h : Mounts r p ms outcome) : Unread ms := by
  cases h with
  | intro hacquires => exact .of_about (hacquires.about_cons p.name) (by decide)

/-- Looking for build properties reads no status. -/
theorem Inspects.unread {r : Runner} {is : List (Exchange α)} (h : Inspects r is) :
    Unread is := by
  have hfiles : About [.files] is := About.of_requests h (by simp)
  exact .of_about hfiles (by decide)

/-- Unmounting reads nothing. -/
theorem Unmounts.unread {held : Option ScopedMount} {us : List (Exchange α)}
    (h : Unmounts held us) : Unread us := .of_about h.about (by decide)

/-- Starting a program reads nothing. -/
theorem Launches.unread {r : Runner} {program : Path} {ls : List (Exchange α)} {out : Runner × Bool}
    (h : Launches r program ls out) : Unread ls := by
  cases h with
  | refused => simp
  | invalid => simp
  | runs => simp

/-- Ending a program reads nothing. -/
theorem Kills.unread {r killed : Runner} {ks : List (Exchange α)} (h : Kills r ks killed) :
    Unread ks := by
  cases h with
  | nothing => simp
  | going => simp
  | resumed => simp
  | stuck => simp

section

variable [ProgressNumber α]

/-- Leaving a partition reads nothing. -/
theorem Leaves.unread {r : Runner} {p : Partition} {code : Int} {ls : List (Exchange α)}
    {out : Runner × Bool} (h : Leaves r p code ls out) : Unread ls := by
  cases h with
  | goesOn _ hus => simp [hus.unread, reported]
  | ends _ _ hus hends => simp [hus.unread, hends.unread]

/-- Entering a partition reads nothing. -/
theorem Enters.unread {r : Runner} {p : Partition} {xs : List (Exchange α)} {out : Runner × Bool}
    (h : Enters r p xs out) : Unread xs := by
  cases h with
  | skips => simp
  | probes _ _ hms his => simp [hms.unread, his.unread]
  | sticks _ _ _ hms his hleaves => simp [hms.unread, his.unread, hleaves.unread]
  | misplaced _ _ hends => exact hends.unread
  | unmountable _ _ hms hends => simp [hms.unread, hends.unread]
  | starts _ _ hms his hls => simp [hms.unread, his.unread, hls.unread]
  | fails _ _ hms his hls hleaves => simp [hms.unread, his.unread, hls.unread, hleaves.unread]

/-- Going through the partitions reads nothing. -/
theorem Proceeds.unread {r r' : Runner} {xs : List (Exchange α)} (h : Proceeds r xs r') :
    Unread xs := by
  induction h with
  | sourceless _ hends => exact hends.unread
  | finishes _ _ hends => exact hends.unread
  | passes _ _ henters _ ih => simp [henters.unread, ih]
  | stops _ _ henters => exact henters.unread

/-- The way on from the end of a partition reads nothing. -/
theorem GoesOn.unread {out : Runner × Bool} {xs : List (Exchange α)} {r' : Runner}
    (h : GoesOn out xs r') : Unread xs := by
  obtain ⟨r, goesOn⟩ := out
  cases goesOn with
  | true => exact Proceeds.unread h
  | false => simp [h.1]

/-- Beginning an attempt reads nothing. -/
theorem Begins.unread {r r' : Runner} {xs : List (Exchange α)} (h : Begins r xs r') :
    Unread xs := by
  have hmaps : ∀ {ms : List (Exchange α)} {outcome : Except BootError Unit},
      Maps r ms outcome → Unread ms := fun h => .of_about h.about (by decide)
  cases h with
  | unmapped hms hends => simp [hmaps hms, hends.unread]
  | unscheduled e hms _ hends => simp [hmaps hms, hends.unread]
  | plain hms _ hproceeds => simp [hmaps hms, hproceeds.unread, reported]
  | scheduled hms _ hproceeds => simp [hmaps hms, hproceeds.unread, reported]

end

/-! ## Runners that are alike -/

/-- What can be asked of a runner. -/
structure Face where
  /-- What it is doing. -/
  stage : Stage
  /-- The place of its current partition. -/
  cursor : Nat
  /-- Whether its program is stopped. -/
  suspended : Bool
  /-- The number of its program. -/
  childPid : Option Pid
  /-- Its result. -/
  result : Option ErrorCode
  deriving Repr, DecidableEq

/-- What can be asked of this runner. -/
def face (r : Runner) : Face := ⟨r.stage, r.cursor, r.suspended, r.childPid, r.result⟩

/-- The runner if its program had written something else: with another beginning of a line, and its
pipe watched or not. -/
def heard (r : Runner) (lines : LineBuffer) (watched : Bool) : Runner :=
  { r with lines := lines, child := r.child.map fun c => { c with watched := watched } }

/-- What was heard of a program does not change which one it is. -/
theorem heard_child {r : Runner} {c : RunningChild} (hc : r.child = some c) (lines : LineBuffer)
    (watched : Bool) : (r.heard lines watched).child = some { c with watched := watched } := by
  unfold heard
  rw [hc]
  rfl

/-- What is heard last counts. -/
theorem heard_heard (r : Runner) (lines lines' : LineBuffer) (watched watched' : Bool) :
    (r.heard lines watched).heard lines' watched' = r.heard lines' watched' := by
  unfold heard
  rw [Option.map_map]
  rfl

/-- Every runner with a program has heard something of it. -/
theorem heard_self {r : Runner} {c : RunningChild} (hc : r.child = some c) :
    r.heard r.lines c.watched = r := by
  unfold heard
  rw [hc]
  show { r with child := some c } = r
  rw [← hc]

/-- Two runners are alike: they are the same, or they differ in what they know of the status of
their program. -/
inductive Alike (r : Runner) : Runner → Prop where
  /-- They are the same. -/
  | same : Alike r r
  /-- A program runs that was read differently. -/
  | heard {c : RunningChild} (child : r.child = some c) (lines : LineBuffer) (watched : Bool) :
    Alike r (r.heard lines watched)

namespace Alike

variable {r r' : Runner}

/-- Runners that are alike are the same if no program runs, or else wait for the same program. -/
theorem child (h : Alike r r') : (r.child = none ∧ r' = r) ∨
    ∃ c c', r.child = some c ∧ r'.child = some c' ∧ c'.pid = c.pid := by
  cases h with
  | same =>
    cases hc : r.child with
    | none => exact Or.inl ⟨rfl, rfl⟩
    | some c => exact Or.inr ⟨c, c, rfl, rfl, rfl⟩
  | heard hc lines watched => exact Or.inr ⟨_, _, hc, heard_child hc lines watched, rfl⟩

/-- Runners that are alike wait for the same program. -/
theorem childPid_eq (h : Alike r r') : r'.childPid = r.childPid := by
  rcases h.child with ⟨-, rfl⟩ | ⟨c, c', hc, hc', hpid⟩
  · rfl
  · rw [Runner.childPid_eq hc, Runner.childPid_eq hc', hpid]

/-- Runners that are alike show the same. -/
theorem face_eq (h : Alike r r') : r'.face = r.face := by
  unfold face
  rw [h.childPid_eq]
  cases h with
  | same => rfl
  | heard => rfl

/-- Runners that are alike stay so when their programs are stopped or go on. -/
theorem setSuspended (h : Alike r r') (suspended : Bool) :
    Alike { r with suspended := suspended } { r' with suspended := suspended } := by
  cases h with
  | same => exact .same
  | heard hc lines watched => exact .heard (r := { r with suspended := suspended }) hc lines watched

/-- Whatever the first runner hears, the two are alike. -/
theorem heard_left (h : Alike r r') {c : RunningChild} (hc : r.child = some c)
    (lines : LineBuffer) (watched : Bool) : Alike (r.heard lines watched) r' := by
  have hc' := heard_child hc lines watched
  cases h with
  | same =>
    have halike := Alike.heard hc' r.lines c.watched
    rwa [heard_heard, heard_self hc] at halike
  | heard _ lines' watched' =>
    have halike := Alike.heard hc' lines' watched'
    rwa [heard_heard] at halike

/-- Whatever the second runner hears, the two are alike. -/
theorem heard_right (h : Alike r r') {c : RunningChild} (hc : r'.child = some c)
    (lines : LineBuffer) (watched : Bool) : Alike r (r'.heard lines watched) := by
  cases h with
  | same => exact .heard hc lines watched
  | heard hd lines' watched' =>
    rw [heard_heard]
    exact .heard hd lines watched

end Alike

/-! ## Calls match -/

/-- Two runners with answers are alike, and the answers are the same. -/
def AlikeWith {γ : Type} (x y : Runner × γ) : Prop := Alike x.1 y.1 ∧ x.2 = y.2

/-- Actions of runners match apart from status. -/
abbrev Match {β γ : Type} (S : β → γ → Prop) (a : Action α β) (b : Action α γ) : Prop :=
  Matches Request.isStatus S a b

/-- An action that reads nothing matches itself. -/
theorem match_of_unread {β : Type} {a : Action α β} (h : a.Ensures fun xs _ => Unread xs) :
    Match (· = ·) a a := by
  apply Matches.refl
  exact h.mono fun _ _ hxs => hxs.learnsNothing

variable {r r' : Runner}

/-- Programs that are waited for on both sides are stopped on both sides. -/
theorem suspend_matches (h : Alike r r') :
    Match AlikeWith (r.suspend : Action α _) r'.suspend := by
  unfold suspend
  rcases h.child with ⟨hc, rfl⟩ | ⟨c, c', hc, hc', hpid⟩
  · rw [hc]
    exact .done ⟨.same, rfl⟩
  · rw [hc, hc']
    dsimp only
    rw [hpid]
    refine .ask rfl fun reply => ?_
    cases reply with
    | error e => exact .done ⟨h, rfl⟩
    | ok u =>
      have hstopped := h.setSuspended true
      rw [hc, hc'] at hstopped
      exact .done ⟨hstopped, rfl⟩

/-- Programs that are waited for on both sides go on on both sides. -/
theorem resume_matches (h : Alike r r') :
    Match AlikeWith (r.resume : Action α _) r'.resume := by
  have hsuspended : r'.suspended = r.suspended := congrArg Face.suspended h.face_eq
  unfold resume
  rcases h.child with ⟨hc, rfl⟩ | ⟨c, c', hc, hc', hpid⟩
  · rw [hc]
    exact .done ⟨.same, rfl⟩
  · rw [hc, hc']
    dsimp only
    rw [hpid, hsuspended]
    split
    · exact .done ⟨h, rfl⟩
    · refine .ask rfl fun reply => ?_
      cases reply with
      | error e => exact .done ⟨h, rfl⟩
      | ok u =>
        have hresumed := h.setSuspended false
        rw [hc, hc'] at hresumed
        exact .done ⟨hresumed, rfl⟩

/-- The programs of both sides go on before they are made to end. -/
theorem resumeForKill_matches (h : Alike r r') :
    Match Alike (r.resumeForKill : Action α _) r'.resumeForKill := by
  have hsuspended : r'.suspended = r.suspended := congrArg Face.suspended h.face_eq
  unfold resumeForKill
  rw [hsuspended]
  split
  · refine (resume_matches h).bind ?_
    rintro ⟨r₁, outcome⟩ ⟨r₁', _⟩ ⟨halike, rfl⟩
    cases outcome with
    | error e => exact .noteLeft (.noteRight (.done halike))
    | ok u => exact .done halike
  · exact .done h

/-- The programs of both sides are made to end. -/
theorem killChild_matches (h : Alike r r') :
    Match Alike (r.killChild : Action α _) r'.killChild := by
  unfold killChild
  rcases h.child with ⟨hc, rfl⟩ | ⟨c, c', hc, hc', hpid⟩
  · rw [hc]
    exact .done .same
  · rw [hc, hc']
    dsimp only
    rw [hpid]
    refine (resumeForKill_matches h).bind fun r₁ r₁' halike => ?_
    have hends : Match (· = ·) (endProgram c.pid : Action α Unit) (endProgram c.pid) := by
      apply match_of_unread
      refine (endProgram_ensures c.pid).mono ?_
      rintro _ _ ⟨reply, rfl⟩
      simp
    exact hends.bind fun _ _ _ => .done halike

/-- What is released does not depend on what was heard. -/
theorem cleanUp_matches (h : Alike r r') :
    Match (· = ·) (r.cleanUp : Action α Runner) r'.cleanUp := by
  have hsame : (r'.cleanUp : Action α Runner) = r.cleanUp := by
    cases h with
    | same => rfl
    | heard => rfl
  rw [hsame]
  apply match_of_unread
  exact (cleanUp_ensures r).mono fun _ _ hus => hus.1.unread

/-- The end of an attempt matches itself. -/
theorem completeAttempt_matches (r : Runner) (code : ErrorCode) :
    Match (· = ·) (r.completeAttempt code : Action α Runner) (r.completeAttempt code) := by
  cases hresult : r.result with
  | none =>
    apply match_of_unread
    exact (completeAttempt_ensures hresult code).mono fun _ _ hends => hends.unread
  | some c =>
    unfold completeAttempt
    rw [hresult]
    exact .done rfl

/-- Attempts are cancelled on both sides. -/
theorem terminate_matches (h : Alike r r') :
    Match Alike (r.terminate : Action α Runner) r'.terminate := by
  have hstage : r'.stage = r.stage := congrArg Face.stage h.face_eq
  have hresult : r'.result = r.result := congrArg Face.result h.face_eq
  unfold terminate
  rw [hstage, hresult]
  split
  · exact .done h
  · refine .noteLeft (.noteRight ?_)
    refine (killChild_matches h).bind fun r₁ r₁' halike => ?_
    refine (cleanUp_matches halike).bind ?_
    rintro r₂ _ rfl
    refine (completeAttempt_matches r₂ .userCanceled).mono ?_
    rintro r₃ _ rfl
    exact .same

/-- Runners are given up on both sides. -/
theorem shutDown_matches (h : Alike r r') :
    Match (· = ·) (r.shutDown : Action α Runner) r'.shutDown := by
  have habandon : Match Alike (r.abandon : Action α Runner) r'.abandon := by
    have hstage : r'.stage = r.stage := congrArg Face.stage h.face_eq
    have hresult : r'.result = r.result := congrArg Face.result h.face_eq
    unfold abandon
    rw [hstage, hresult]
    split
    · exact .noteLeft (.noteRight (terminate_matches h))
    · exact .done h
  unfold shutDown
  refine habandon.bind fun r₁ r₁' halike => ?_
  refine (killChild_matches halike).bind fun r₂ r₂' halike => ?_
  refine (cleanUp_matches halike).bind ?_
  rintro r₃ _ rfl
  have hunmaps : Match (· = ·) (r₃.unmapPartitions : Action α Unit) r₃.unmapPartitions := by
    apply match_of_unread
    refine (unmapPartitions_ensures r₃).mono fun us _ hus => ?_
    rcases hus.eq with rfl | ⟨reply, rfl⟩
    · simp
    · simp
  exact hunmaps.bind fun _ _ _ => .done rfl

variable [ProgressNumber α]

/-- A read is a matter of status, and the runner has heard something at most. -/
theorem onReadable_hears (r : Runner) :
    (r.onReadable : Action α Runner).Ensures fun xs r' =>
      AllHidden Request.isStatus xs ∧
        (r' = r ∨ ∃ c lines watched, r.child = some c ∧ r' = r.heard lines watched) := by
  unfold onReadable
  cases hc : r.child with
  | none => exact ⟨fun _ hx => absurd hx List.not_mem_nil, Or.inl rfl⟩
  | some c =>
    dsimp only
    split
    · unfold readChild
      rw [ensures_bind, ensures_request]
      intro reads
      rw [ensures_bind, ensures_tellAll]
      refine (reportLines_ensures _ _).bind ?_
      rintro _ _ rfl
      refine ⟨?_, Or.inr ⟨c, (drain (!c.nonblocking) r.lines reads).buffer,
        !(drain (!c.nonblocking) r.lines reads).stops, rfl, ?_⟩⟩
      · intro x hx
        rcases List.mem_cons.mp hx with rfl | hx
        · rfl
        · have hreport : x ∈ reports (r.afterReads c reads)
              (drain (!c.nonblocking) r.lines reads).lines := by simpa [afterReads] using hx
          unfold reports at hreport
          obtain ⟨line, -, hline⟩ := List.mem_filterMap.mp hreport
          obtain ⟨literal, -, rfl⟩ := Option.map_eq_some_iff.mp hline
          rfl
      · unfold heard
        rw [hc]
        rfl
    · exact ⟨fun _ hx => absurd hx List.not_mem_nil, Or.inl rfl⟩

/-- A read on the first side matches nothing on the second. -/
theorem onReadable_matches_left (h : Alike r r') :
    Match (fun r₁ _ => Alike r₁ r') (r.onReadable : Action α Runner) (pure ()) := by
  refine Matches.left_of_ensures (P := fun r₁ => Alike r₁ r') () ?_
  refine (onReadable_hears r).mono ?_
  rintro xs r₁ ⟨hxs, rfl | ⟨c, lines, watched, hc, rfl⟩⟩
  · exact ⟨hxs, h⟩
  · exact ⟨hxs, h.heard_left hc lines watched⟩

/-- A read on the second side matches nothing on the first. -/
theorem onReadable_matches_right (h : Alike r r') :
    Match (fun _ r₁ => Alike r r₁) (pure ()) (r'.onReadable : Action α Runner) := by
  refine Matches.right_of_ensures (P := fun r₁ => Alike r r₁) () ?_
  refine (onReadable_hears r').mono ?_
  rintro xs r₁ ⟨hxs, rfl | ⟨c, lines, watched, hc, rfl⟩⟩
  · exact ⟨hxs, h⟩
  · exact ⟨hxs, h.heard_right hc lines watched⟩

/-- A runner with a program stands at a partition. -/
theorem Stable.exists_current {start : Option InstallPlan} (hr : Stable start r) {pid : Pid}
    (hpid : r.childPid = some pid) : ∃ p, r.partition? = some p := by
  obtain ⟨c, hc, -⟩ := Option.map_eq_some_iff.mp hpid
  obtain ⟨plan, -, hrunning⟩ := hr.isRunning hc
  obtain ⟨q, hq, -⟩ := hrunning.current
  refine ⟨effective plan q, ?_⟩
  unfold partition?
  rw [hrunning.works, withoutSkipped_getElem?, hq]
  rfl

/-- Whatever was heard of a program, the attempt goes on from its exit in the same way. -/
theorem onExited_matches {start : Option InstallPlan} (hr : Stable start r) (h : Alike r r')
    (pid : Pid) (code : Int) :
    Match Alike (r.onExited pid code : Action α Runner) (r'.onExited pid code) := by
  by_cases hpid : r.childPid = some pid
  · have hunread : (r.onExited pid code : Action α Runner).Ensures fun xs _ => Unread xs := by
      refine (onExited_ensures hr hpid code).mono ?_
      rintro _ _ ⟨p, ls, ys, out, rfl, -, hleaves, hgoesOn⟩
      simp [hleaves.unread, hgoesOn.unread]
    have hsame : (r'.onExited pid code : Action α Runner) = r.onExited pid code := by
      -- What was heard is released before anything else.
      obtain ⟨p, hcurrent⟩ := hr.exists_current hpid
      have hcurrent' : r'.partition? = some p := by
        cases h with
        | same => exact hcurrent
        | heard => exact hcurrent
      unfold onExited
      rw [h.childPid_eq, hcurrent, hcurrent', if_pos hpid, if_pos hpid]
      cases h with
      | same => rfl
      | heard => rfl
    rw [hsame]
    refine (match_of_unread hunread).mono ?_
    rintro r₁ _ rfl
    exact .same
  · unfold onExited
    rw [h.childPid_eq, if_neg hpid, if_neg hpid]
    exact .noteLeft (.noteRight (.done h))

/-- Attempts begin on both sides, or are refused on both. -/
theorem perform_matches {start : Option InstallPlan} (hr : Stable start r) (h : Alike r r')
    (plan : InstallPlan) :
    Match (· = ·) (r.perform plan : Action α _) (r'.perform plan) := by
  by_cases hidle : r.stage = .idle
  · obtain ⟨-, hidle'⟩ := hr.isIdle hidle
    have hsame : r' = r := by
      rcases h.child with ⟨-, hsame⟩ | ⟨c, _, hc, -⟩
      · exact hsame
      · rw [hidle'.child] at hc
        cases hc
    rw [hsame]
    apply match_of_unread
    refine (perform_ensures hr plan).mono ?_
    rintro xs _ (⟨-, rfl, -⟩ | ⟨-, r₁, -, hbegins⟩)
    · simp
    · exact hbegins.unread
  · have hstage : r'.stage = r.stage := congrArg Face.stage h.face_eq
    unfold perform
    rw [hstage, if_pos hidle, if_pos hidle]
    exact .done rfl

/-- Calls that are common to both sides match. -/
theorem call_matches {start : Option InstallPlan} (hr : Stable start r) (h : Alike r r')
    {c : RunnerCall} (hevent : c.isEvent = true) (hcommon : c ≠ .readable) :
    Match AlikeWith (r.call c : Action α _) (r'.call c) := by
  cases c with
  | perform plan =>
    refine (perform_matches hr h plan).bind ?_
    rintro outcome _ rfl
    cases outcome with
    | error e => exact .done ⟨h, rfl⟩
    | ok r₁ => exact .done ⟨.same, rfl⟩
  | run => cases hevent
  | readable => exact absurd rfl hcommon
  | poll => cases hevent
  | exited pid code => exact (onExited_matches hr h pid code).bind fun _ _ h' => .done ⟨h', rfl⟩
  | suspend =>
    refine (suspend_matches h).bind ?_
    rintro ⟨r₁, outcome⟩ ⟨r₁', _⟩ ⟨halike, rfl⟩
    exact .done ⟨halike, rfl⟩
  | resume =>
    refine (resume_matches h).bind ?_
    rintro ⟨r₁, outcome⟩ ⟨r₁', _⟩ ⟨halike, rfl⟩
    exact .done ⟨halike, rfl⟩
  | terminate => exact (terminate_matches h).bind fun _ _ h' => .done ⟨h', rfl⟩

/-! ## Histories match -/

/-- After a call a runner is stable. -/
theorem call_stable {start : Option InstallPlan} (hr : Stable start r) (c : RunnerCall) :
    (r.call c : Action α _).Ensures fun _ out => ∃ start', Stable start' out.1 :=
  (call_ensures hr c).mono fun _ _ h => ⟨_, h.1.stable hr⟩

/-- Reads on the second side change nothing, wherever they come. -/
theorem match_after_reads {β : Type} {S : β → Runner → Prop} {a : Action α β}
    {cs ds : List RunnerCall} (hreads : ∀ d ∈ ds, d = .readable)
    (hgoesOn : ∀ r₁, Alike r r₁ → Match S a (r₁.calls cs)) (h : Alike r r') :
    Match S a (r'.calls (ds ++ cs)) := by
  induction ds generalizing r' with
  | nil => exact hgoesOn r' h
  | cons d ds ih =>
    obtain rfl := hreads d List.mem_cons_self
    have hrest : ∀ d ∈ ds, d = .readable := fun d hd => hreads d (List.mem_cons_of_mem _ hd)
    have hread : Match (fun _ x => Alike r x.1) (pure ()) (r'.call .readable : Action α _) :=
      (onReadable_matches_right h).bind fun _ _ halike => .done halike
    exact hread.bind (f := fun _ => a) fun _ x halike => ih hrest halike

/-- Calls that are the same apart from reads match. -/
theorem calls_match {start : Option InstallPlan} (hr : Stable start r) (h : Alike r r')
    {cs ds : List RunnerCall} (hevents : ∀ c ∈ cs, c.isEvent = true)
    (hsame : RunnerCall.withoutReads ds = RunnerCall.withoutReads cs) :
    Match Alike (r.calls cs : Action α Runner) (r'.calls ds) := by
  induction cs generalizing start r r' ds with
  | nil =>
    have hreads := RunnerCall.withoutReads_eq_nil hsame
    have hmatch : Match Alike (pure r : Action α Runner) (r'.calls (ds ++ [])) :=
      match_after_reads hreads (fun r₁ h₁ => .done h₁) h
    rwa [List.append_nil] at hmatch
  | cons c cs ih =>
    have hcall := hevents c List.mem_cons_self
    have hrest : ∀ c ∈ cs, c.isEvent = true := fun c hc => hevents c (List.mem_cons_of_mem _ hc)
    have hstable := call_stable (α := α) hr c
    by_cases hread : c = .readable
    · subst hread
      have hmatch : Match (fun x _ => Alike x.1 r') (r.call .readable : Action α _) (pure ()) :=
        (onReadable_matches_left h).bind fun _ _ halike => .done halike
      refine (hmatch.and_left hstable).bind (g := fun _ => r'.calls ds) ?_
      rintro ⟨r₁, answer⟩ _ ⟨⟨start', hr₁⟩, halike⟩
      exact ih hr₁ halike hrest hsame
    · have hcommon : RunnerCall.withoutReads (c :: cs) = c :: RunnerCall.withoutReads cs :=
        List.filter_cons_of_pos (by simpa using hread)
      rw [hcommon] at hsame
      obtain ⟨ds₁, ds₂, rfl, hreads, hsame'⟩ := RunnerCall.withoutReads_eq_cons hsame
      refine match_after_reads hreads (fun r₁ h₁ => ?_) h
      refine ((call_matches hr h₁ hcall hread).and_left hstable).bind ?_
      rintro ⟨r₂, answer⟩ ⟨r₂', _⟩ ⟨⟨start', hr₂⟩, halike, rfl⟩
      exact ih hr₂ halike hrest hsame'

/-- After the same calls apart from reads, on platforms with the same outcomes, new runners are
alike and have asked for the same, apart from status. -/
theorem afterCalls_alike {R : σ → τ → Prop} {p : Platform α σ} {q : Platform α τ}
    (hagree : p.AgreeApart Request.isStatus R q) {s : σ} {t : τ} (hst : R s t)
    (config : PostinstallConfig) {cs ds : List RunnerCall} (hevents : ∀ c ∈ cs, c.isEvent = true)
    (hsame : RunnerCall.withoutReads ds = RunnerCall.withoutReads cs) :
    Alike (afterCalls config cs p s).result (afterCalls config ds q t).result ∧
      R (afterCalls config cs p s).state (afterCalls config ds q t).state ∧
      shown Request.isStatus (afterCalls config cs p s).exchanges =
        shown Request.isStatus (afterCalls config ds q t).exchanges :=
  (calls_match (stable_new config) .same hevents hsame).run hagree hst

/-- What programs write to their status pipes, and when it is read, settles nothing: runners with
the same calls apart from reads, on platforms with the same outcomes, ask for the same apart from
status, over their whole lifetimes and up to every place that both reach. There they show the same,
and give the same answer to the next call that both get. -/
theorem status_settles_nothing {R : σ → τ → Prop} {p : Platform α σ} {q : Platform α τ}
    (hagree : p.AgreeApart Request.isStatus R q) {s : σ} {t : τ} (hst : R s t)
    (config : PostinstallConfig) {cs ds : List RunnerCall} (hevents : ∀ c ∈ cs, c.isEvent = true)
    (hsame : RunnerCall.withoutReads ds = RunnerCall.withoutReads cs) :
    shown Request.isStatus (afterLifetime config cs p s).exchanges =
        shown Request.isStatus (afterLifetime config ds q t).exchanges ∧
      ∀ cs₁ ds₁, cs₁ <+: cs → ds₁ <+: ds →
        RunnerCall.withoutReads ds₁ = RunnerCall.withoutReads cs₁ →
        shown Request.isStatus (afterCalls config cs₁ p s).exchanges =
            shown Request.isStatus (afterCalls config ds₁ q t).exchanges ∧
          (afterCalls config cs₁ p s).result.face = (afterCalls config ds₁ q t).result.face ∧
          ∀ c, cs₁ ++ [c] <+: cs → ds₁ ++ [c] <+: ds → c ≠ .readable →
            (afterNext config cs₁ c p s).result.2 = (afterNext config ds₁ c q t).result.2 := by
  constructor
  · have hcalls := calls_match (α := α) (stable_new config) .same hevents hsame
    have hlifetime : Match (· = ·) (lifetime config cs : Action α Runner) (lifetime config ds) :=
      hcalls.bind fun _ _ halike => shutDown_matches halike
    obtain ⟨-, -, hxs⟩ := hlifetime.run hagree hst
    exact hxs
  · intro cs₁ ds₁ hcs₁ hds₁ hsame₁
    have hevents₁ : ∀ c ∈ cs₁, c.isEvent = true := fun c hc => hevents c (hcs₁.subset hc)
    obtain ⟨halike, hstates, hxs⟩ := afterCalls_alike hagree hst config hevents₁ hsame₁
    refine ⟨hxs, halike.face_eq.symm, fun c hc _ hcommon => ?_⟩
    have hevent : c.isEvent = true := hevents c (hc.subset (by simp))
    have hmatch := call_matches (α := α) (afterCalls_stable config cs₁ p s) halike hevent hcommon
    obtain ⟨⟨-, hanswer⟩, -, -⟩ := hmatch.run hagree hstates
    exact hanswer

/-! ### Two programs that say different things -/

/-- A platform whose programs say the given things when they are read. It replies to everything else
as a fresh one in memory does. -/
def speaking (reads : List StatusRead) : Platform α Unit where
  reply
    | .readStatus _ _, _ => ⟨(reads, ()), []⟩
    | request, _ => ⟨((Memory.platform.reply request (.initial .empty)).value.1, ()), []⟩

omit [ProgressNumber α] in
/-- Whatever programs say, the outcomes of an assignment are the same apart from it. -/
theorem speaking_agree (o : Outcomes) (reads reads' : List StatusRead) :
    (o.platform (speaking reads : Platform α Unit)).AgreeApart Request.isStatus (· = ·)
      (o.platform (speaking reads')) where
  reply request s t hshown hst := by
    subst hst
    cases request <;> first | rfl | cases hshown
  state request s t hshown hst := by
    subst hst
    rfl
  left request s t hhidden hst := by
    subst hst
    cases request <;> first | rfl | cases hhidden
  right request s t hhidden hst := by
    subst hst
    cases request <;> first | rfl | cases hhidden

/-- Calls that carry the rehearsed update out, with other reads. -/
def rehearsedReads : List RunnerCall :=
  [.perform rehearsedPlan, .readable, .suspend, .exited 7 3, .readable, .readable, .exited 7 5,
    .exited 8 3]

/-- A program that claims to be done, and closes its pipe, gets as far as one that says nothing. -/
theorem claims_settle_nothing :
    let p : Platform Float (Spot × Unit) := rehearsedOutcomes.platform (speaking [])
    let q : Platform Float (Spot × Unit) := rehearsedOutcomes.platform
      (speaking [.data "global_progress 1\n".toUTF8.toList, .closed])
    let s := (Spot.start .default rehearsedPlan, ())
    shown Request.isStatus (afterLifetime .default rehearsedCalls p s).exchanges =
        shown Request.isStatus (afterLifetime .default rehearsedReads q s).exchanges ∧
      (afterCalls .default rehearsedCalls p s).result.face =
        (afterCalls .default rehearsedReads q s).result.face := by
  intro p q s
  have hagree : p.AgreeApart Request.isStatus (· = ·) q := speaking_agree rehearsedOutcomes _ _
  have hevents : ∀ c ∈ rehearsedCalls, c.isEvent = true := by decide
  have hsame : RunnerCall.withoutReads rehearsedReads = RunnerCall.withoutReads rehearsedCalls :=
    rfl
  obtain ⟨hxs, hprefixes⟩ := status_settles_nothing hagree (Eq.refl s) .default hevents hsame
  obtain ⟨-, hface, -⟩ := hprefixes _ _ List.prefix_rfl List.prefix_rfl hsame
  exact ⟨hxs, hface⟩

end Runner

end SlotUpdate
