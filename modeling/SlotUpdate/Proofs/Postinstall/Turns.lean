import SlotUpdate.Proofs.Action.Ways
import SlotUpdate.Proofs.Postinstall.Calls

/-!
# The turns of a whole attempt

A whole attempt takes up one thing after the other: a control message, or what waiting for the
program gives (`Turn`). Most of them stand for a direct call on the runner (`Turn.call?`), and
`Taken.Holds` says that a turn led to what that call does, and to nothing if there is no such call.
Only a wait that fails has no counterpart among the calls: the attempt gives up (`Runner.giveUp`).

`Served` is a chain of turns. That a whole attempt is one is followed from a control message
(`handle_served`) and a wait (`pollOnce_served`) to a round and to all of them (`rounds_served`).
`InRounds` keeps the order: in each round come the messages that have arrived, and then the waits.
-/

namespace SlotUpdate

open SlotUpdate.Action

variable {α σ : Type}

/-- The direct call that a control message stands for. -/
def Control.call : Control → RunnerCall
  | .suspend => .suspend
  | .resume => .resume
  | .cancel => .terminate

/-- What a whole attempt takes up. -/
inductive Turn where
  /-- A control message. -/
  | told (control : Control)
  /-- What waiting for the status pipe gave. -/
  | awaited (pid : Pid) (reply : Except SystemError Bool)
  /-- A pause. -/
  | paused
  /-- The answer whether the program has exited. -/
  | waited (pid : Pid) (reply : Except SystemError (Option Int))
  deriving Repr

namespace Turn

/-- The direct call that a turn stands for. -/
def call? : Turn → Option RunnerCall
  | told control => some control.call
  | awaited _ (.ok true) => some .readable
  | waited pid (.ok (some code)) => some (.exited pid code)
  | _ => none

/-- Why a wait failed. -/
def failure? : Turn → Option SystemError
  | awaited _ (.error e) | waited _ (.error e) => some e
  | _ => none

/-- Whether a turn is a control message. -/
def isTold : Turn → Bool
  | told _ => true
  | _ => false

/-- What is asked of the platform to take a turn, before anything is done about it. -/
def asked : Turn → List (Exchange α)
  | told _ => []
  | awaited pid reply => [⟨.awaitStatus pid, reply⟩]
  | paused => [⟨.pause, ()⟩]
  | waited pid reply => [⟨.tryWait pid, reply⟩]

/-- Only the program that runs is waited for. -/
def Fits (r : Runner) : Turn → Prop
  | told _ => True
  | awaited pid _ | waited pid _ => r.childPid = some pid
  | paused => r.child.isSome = true

/-- A turn that starts an attempt is none. -/
theorem plan?_of_call? {t : Turn} {c : RunnerCall} (h : t.call? = some c) : c.plan? = none := by
  unfold call? at h
  split at h
  · rename_i control
    obtain rfl := Option.some.inj h
    cases control <;> rfl
  · obtain rfl := Option.some.inj h
    rfl
  · obtain rfl := Option.some.inj h
    rfl
  · cases h

/-- A wait that fails stands for no call. -/
theorem call?_of_failure? {t : Turn} {e : SystemError} (h : t.failure? = some e) :
    t.call? = none := by
  unfold failure? at h
  split at h
  · rfl
  · rfl
  · cases h

/-- A wait that fails is no control message. -/
theorem isTold_of_failure? {t : Turn} {e : SystemError} (h : t.failure? = some e) :
    t.isTold = false := by
  unfold failure? at h
  split at h
  · rfl
  · rfl
  · cases h

/-- A control message stands for a call, and nothing is asked to take it. -/
theorem call?_of_isTold {t : Turn} (h : t.isTold = true) :
    (∃ c, t.call? = some c) ∧ (t.asked : List (Exchange α)) = [] := by
  cases t with
  | told control => exact ⟨⟨control.call, rfl⟩, rfl⟩
  | awaited | paused | waited => cases h

/-- Waiting for a program needs one. -/
theorem Fits.exists_child {t : Turn} {r : Runner} (h : t.Fits r) (hwaits : t.isTold = false) :
    ∃ c, r.child = some c := by
  cases t with
  | told => cases hwaits
  | awaited =>
    obtain ⟨c, hc, -⟩ := Option.map_eq_some_iff.mp h
    exact ⟨c, hc⟩
  | paused => exact Option.isSome_iff_exists.mp h
  | waited =>
    obtain ⟨c, hc, -⟩ := Option.map_eq_some_iff.mp h
    exact ⟨c, hc⟩

end Turn

/-- A turn that was taken, and what it led to. -/
structure Taken (α : Type) where
  /-- The turn. -/
  turn : Turn
  /-- The runner before. -/
  before : Runner
  /-- What was asked of the platform about it. -/
  exchanges : List (Exchange α)
  /-- The runner afterwards. -/
  after : Runner
  /-- The answer of the call that it stands for. -/
  answer : CallAnswer

/-- What turns asked of the platform. -/
def Taken.record (ks : List (Taken α)) : List (Exchange α) :=
  ks.flatMap fun k => k.turn.asked ++ k.exchanges

namespace Runner

variable [ProgressNumber α]

/-- End the program and the attempt, after a wait that failed. -/
def giveUp (r : Runner) : Action α Runner := do
  let r ← r.killChild
  r.completeAttempt .postinstallRunnerError

end Runner

variable [ProgressNumber α]

/-- What a turn has to lead to. -/
structure Taken.Holds (k : Taken α) : Prop where
  /-- Only the program that runs is waited for. -/
  fits : k.turn.Fits k.before
  /-- If it stands for a call, it leads to what the call does. -/
  calls : ∀ c, k.turn.call? = some c →
    (k.before.call c).Leads k.exchanges (k.after, k.answer)
  /-- If it does not, it leads to nothing. -/
  idles : k.turn.call? = none → k.turn.failure? = none → k.exchanges = [] ∧ k.after = k.before
  /-- If waiting failed, the attempt is given up. -/
  fails : ∀ e, k.turn.failure? = some e → k.before.giveUp.Leads k.exchanges k.after

/-- A chain of turns leads from one runner to another. -/
inductive Served : Runner → List (Taken α) → Runner → Prop where
  /-- No turn was taken. -/
  | nil (r : Runner) : Served r [] r
  /-- A turn was taken, and then the others. -/
  | cons {k : Taken α} {ks : List (Taken α)} {r' : Runner} (holds : k.Holds)
    (rest : Served k.after ks r') : Served k.before (k :: ks) r'

/-- Turns are in rounds, given the control messages of each: first come the messages, then the
waits. -/
inductive InRounds : List (List Control) → List Turn → Prop where
  /-- There is no round. -/
  | nil : InRounds [] []
  /-- There is a round, and then the others. -/
  | round {controls : List Control} {rest : List (List Control)} {ws ts : List Turn}
    (waits : ∀ t ∈ ws, t.isTold = false) (rounds : InRounds rest ts) :
    InRounds (controls :: rest) (controls.map .told ++ ws ++ ts)

namespace Taken

omit [ProgressNumber α] in
/-- No turns asked for nothing. -/
@[simp]
theorem record_nil : record ([] : List (Taken α)) = [] := rfl

omit [ProgressNumber α] in
/-- The first turn asked before the others. -/
@[simp]
theorem record_cons (k : Taken α) (ks : List (Taken α)) :
    record (k :: ks) = k.turn.asked ++ k.exchanges ++ record ks := List.flatMap_cons

omit [ProgressNumber α] in
/-- Turns after turns asked after them. -/
@[simp]
theorem record_append (ks ls : List (Taken α)) :
    record (ks ++ ls) = record ks ++ record ls := List.flatMap_append

end Taken

/-- Chains of turns follow each other. -/
theorem Served.append {r r₁ r' : Runner} {ks ls : List (Taken α)} (h : Served r ks r₁)
    (h' : Served r₁ ls r') : Served r (ks ++ ls) r' := by
  induction h with
  | nil => exact h'
  | cons holds _ ih => exact .cons holds (ih h')

/-- One turn is a chain. -/
theorem Taken.Holds.served {k : Taken α} (h : k.Holds) : Served k.before [k] k.after :=
  .cons h (.nil _)

namespace Runner

/-! ## Control messages -/

/-- Carrying a control message out does what its call does. -/
theorem obey_leads {r r' : Runner} {control : Control} {xs : List (Exchange α)}
    {outcome : Except RunnerError Unit} (h : (r.obey control).Leads xs (r', outcome)) :
    ∃ answer, (r.call control.call).Leads xs (r', answer) := by
  cases control with
  | suspend =>
    exact ⟨.ofOutcome outcome,
      (leads_bind _ _ _ _).mpr ⟨xs, [], _, (List.append_nil xs).symm, h, rfl, rfl⟩⟩
  | resume =>
    exact ⟨.ofOutcome outcome,
      (leads_bind _ _ _ _).mpr ⟨xs, [], _, (List.append_nil xs).symm, h, rfl, rfl⟩⟩
  | cancel =>
    obtain ⟨ys, _, _, rfl, hterminate, rfl, ⟨⟩⟩ := (leads_bind _ _ _ _).mp h
    exact ⟨.nothing, (leads_bind _ _ _ _).mpr ⟨ys, [], _, rfl, hterminate, rfl, rfl⟩⟩

/-- A control message is a turn. -/
theorem handle_served {r r' : Runner} {control : Control} {xs : List (Exchange α)}
    (h : (r.handle control).Leads xs r') :
    ∃ answer, (⟨.told control, r, xs, r', answer⟩ : Taken α).Holds := by
  obtain ⟨ys, zs, ⟨r₁, outcome⟩, rfl, hobey, hrest⟩ := (leads_bind _ _ _ _).mp h
  have hlogged : zs = [] ∧ r' = r₁ := by
    cases outcome with
    | error e => exact hrest
    | ok u => exact hrest
  obtain ⟨rfl, rfl⟩ := hlogged
  obtain ⟨answer, hcall⟩ := obey_leads hobey
  refine ⟨answer, trivial, ?_, nofun, nofun⟩
  rintro _ ⟨⟩
  rwa [List.append_nil]

/-- Control messages are turns, in order. -/
theorem handleAll_served {r r' : Runner} {controls : List Control} {xs : List (Exchange α)}
    (h : (r.handleAll controls).Leads xs r') :
    ∃ ks, Served r ks r' ∧ ks.map (·.turn) = controls.map .told ∧ xs = Taken.record ks := by
  induction controls generalizing r xs with
  | nil =>
    obtain ⟨rfl, rfl⟩ := h
    exact ⟨[], .nil r', rfl, rfl⟩
  | cons control rest ih =>
    obtain ⟨ys, zs, r₁, rfl, hhandle, hrest⟩ := (leads_bind _ _ _ _).mp h
    obtain ⟨answer, hholds⟩ := handle_served hhandle
    obtain ⟨ks, hserved, hturns, rfl⟩ := ih hrest
    refine ⟨⟨.told control, r, ys, r₁, answer⟩ :: ks, .cons hholds hserved, ?_, ?_⟩
    · rw [List.map_cons, List.map_cons, hturns]
    · rw [Taken.record_cons]
      rfl

/-! ## Waiting -/

/-- What waiting once gives: turns that wait, and then, if waiting failed, one more that did. -/
inductive Polled (r : Runner) : List (Exchange α) → Runner × Except SystemError Unit → Prop where
  /-- Waiting did not fail. -/
  | waited {ks : List (Taken α)} {r' : Runner} (served : Served r ks r')
    (waits : ∀ k ∈ ks, k.turn.isTold = false) : Polled r (Taken.record ks) (r', .ok ())
  /-- Waiting failed, and this is not dealt with yet. -/
  | failed {ks : List (Taken α)} {r' : Runner} {t : Turn} {e : SystemError}
    (served : Served r ks r') (waits : ∀ k ∈ ks, k.turn.isTold = false)
    (failure : t.failure? = some e) (last : t.isTold = false) (fits : t.Fits r') :
    Polled r (Taken.record ks ++ t.asked) (r', .error e)

/-- Turns that wait can come first. -/
theorem Polled.after {r r₁ : Runner} {ks : List (Taken α)} {xs : List (Exchange α)}
    {out : Runner × Except SystemError Unit} (h : Polled r₁ xs out) (hserved : Served r ks r₁)
    (hwaits : ∀ k ∈ ks, k.turn.isTold = false) : Polled r (Taken.record ks ++ xs) out := by
  cases h with
  | waited hserved' hwaits' =>
    rw [← Taken.record_append]
    exact .waited (hserved.append hserved') (List.forall_mem_append.mpr ⟨hwaits, hwaits'⟩)
  | failed hserved' hwaits' hfailure hlast hfits =>
    rw [← List.append_assoc, ← Taken.record_append]
    exact .failed (hserved.append hserved') (List.forall_mem_append.mpr ⟨hwaits, hwaits'⟩) hfailure
      hlast hfits

/-- A turn that waits is a wait. -/
theorem polled_of_holds {k : Taken α} (h : k.Holds) (hwaits : k.turn.isTold = false) :
    Polled k.before (k.turn.asked ++ k.exchanges) (k.after, .ok ()) := by
  have hpolled := Polled.waited h.served (List.forall_mem_singleton.mpr hwaits)
  rwa [Taken.record_cons, Taken.record_nil, List.append_nil] at hpolled

/-- Without a wait nothing fails. -/
theorem polled_nil (r : Runner) : Polled (α := α) r [] (r, .ok ()) := by
  have hnone : ∀ k ∈ ([] : List (Taken α)), k.turn.isTold = false := List.forall_mem_nil _
  have hpolled := Polled.waited (.nil r) hnone
  rwa [Taken.record_nil] at hpolled

/-- A wait that stands for nothing leads to nothing. -/
theorem polled_of_idle {r : Runner} {t : Turn} (hcall : t.call? = none)
    (hfailure : t.failure? = none) (hwaits : t.isTold = false) (hfits : t.Fits r) :
    Polled (α := α) r t.asked (r, .ok ()) := by
  have hholds : (⟨t, r, [], r, .nothing⟩ : Taken α).Holds := by
    refine ⟨hfits, fun c hc => ?_, fun _ _ => ⟨rfl, rfl⟩, fun e he => ?_⟩
    · rw [hcall] at hc
      cases hc
    · rw [hfailure] at he
      cases he
  have hpolled := polled_of_holds hholds hwaits
  rwa [List.append_nil] at hpolled

/-- A wait that fails is not dealt with yet. -/
theorem polled_of_failure {r : Runner} {t : Turn} {e : SystemError} (hfailure : t.failure? = some e)
    (hwaits : t.isTold = false) (hfits : t.Fits r) : Polled (α := α) r t.asked (r, .error e) := by
  have hnone : ∀ k ∈ ([] : List (Taken α)), k.turn.isTold = false := List.forall_mem_nil _
  have hpolled := Polled.failed (.nil r) hnone hfailure hwaits hfits
  rwa [Taken.record_nil, List.nil_append] at hpolled

/-- A wait that stands for a call leads to what the call does. -/
theorem polled_of_call {r r' : Runner} {t : Turn} {c : RunnerCall} {answer : CallAnswer}
    {xs : List (Exchange α)} (hcall : t.call? = some c) (hwaits : t.isTold = false)
    (hfits : t.Fits r) (h : (r.call c).Leads xs (r', answer)) :
    Polled r (t.asked ++ xs) (r', .ok ()) := by
  have hholds : (⟨t, r, xs, r', answer⟩ : Taken α).Holds := by
    refine ⟨hfits, fun c' hc' => ?_, fun hnone => ?_, fun e he => ?_⟩
    · obtain rfl := Option.some.inj (hcall.symm.trans hc')
      exact h
    · rw [hcall] at hnone
      cases hnone
    · rw [Turn.call?_of_failure? he] at hcall
      cases hcall
  exact polled_of_holds hholds hwaits

/-- The wait for the status pipe is a turn. The program stays the same. -/
theorem pollStatus_polled {r : Runner} {c : RunningChild} (hc : r.child = some c)
    {xs : List (Exchange α)} {out : Runner × Except SystemError Unit}
    (h : (r.pollStatus c).Leads xs out) : Polled r xs out ∧ out.1.childPid = some c.pid := by
  have hpid := childPid_eq hc
  unfold pollStatus at h
  split at h
  · obtain ⟨_, zs, reply, rfl, hasks, hrest⟩ := (leads_bind _ _ _ _).mp h
    obtain rfl := (leads_request _ _ _).mp hasks
    match reply, hrest with
    | .error e, hrest =>
      obtain ⟨rfl, rfl⟩ := hrest
      exact ⟨polled_of_failure (t := .awaited c.pid (.error e)) rfl rfl hpid, hpid⟩
    | .ok false, hrest =>
      obtain ⟨rfl, rfl⟩ := hrest
      exact ⟨polled_of_idle (t := .awaited c.pid (.ok false)) rfl rfl rfl hpid, hpid⟩
    | .ok true, hrest =>
      obtain ⟨ys, _, r', rfl, hreads, rfl, rfl⟩ := (leads_bind _ _ _ _).mp hrest
      have hcall : (r.call .readable).Leads ys (r', .nothing) :=
        (leads_bind _ _ _ _).mpr ⟨ys, [], r', (List.append_nil ys).symm, hreads, rfl, rfl⟩
      have hsame := ((onReadable_ensures true r).of_leads hreads).2
      rw [List.append_nil]
      exact ⟨polled_of_call (t := .awaited c.pid (.ok true)) rfl rfl hpid hcall,
        hsame.trans hpid⟩
  · obtain ⟨_, zs, reply, rfl, hasks, rfl, rfl⟩ := (leads_bind _ _ _ _).mp h
    obtain rfl := (leads_request _ _ _).mp hasks
    have hsome : r.child.isSome = true := by rw [hc]; rfl
    exact ⟨polled_of_idle (t := .paused) rfl rfl rfl hsome, hpid⟩

/-- The question whether the program has exited is a turn. -/
theorem pollExit_polled {r : Runner} {pid : Pid} (hpid : r.childPid = some pid)
    {xs : List (Exchange α)} {out : Runner × Except SystemError Unit}
    (h : (r.pollExit pid).Leads xs out) : Polled r xs out := by
  unfold pollExit at h
  obtain ⟨_, zs, reply, rfl, hasks, hrest⟩ := (leads_bind _ _ _ _).mp h
  obtain rfl := (leads_request _ _ _).mp hasks
  match reply, hrest with
  | .error e, hrest =>
    obtain ⟨rfl, rfl⟩ := hrest
    exact polled_of_failure (t := .waited pid (.error e)) rfl rfl hpid
  | .ok none, hrest =>
    obtain ⟨rfl, rfl⟩ := hrest
    exact polled_of_idle (t := .waited pid (.ok none)) rfl rfl rfl hpid
  | .ok (some code), hrest =>
    obtain ⟨ys, _, r', rfl, hexits, rfl, rfl⟩ := (leads_bind _ _ _ _).mp hrest
    have hcall : (r.call (.exited pid code)).Leads ys (r', .nothing) :=
      (leads_bind _ _ _ _).mpr ⟨ys, [], r', (List.append_nil ys).symm, hexits, rfl, rfl⟩
    rw [List.append_nil]
    exact polled_of_call (t := .waited pid (.ok (some code))) rfl rfl hpid hcall

/-- Waiting once is turns that wait. -/
theorem pollOnce_polled {r : Runner} {xs : List (Exchange α)}
    {out : Runner × Except SystemError Unit} (h : (r.pollOnce).Leads xs out) : Polled r xs out := by
  unfold pollOnce at h
  split at h
  · obtain ⟨rfl, rfl⟩ := h
    exact polled_nil r
  · rename_i c hc
    obtain ⟨ys, zs, ⟨r₁, polled⟩, rfl, hstatus, hrest⟩ := (leads_bind _ _ _ _).mp h
    obtain ⟨hpolled, hpid⟩ := pollStatus_polled hc hstatus
    cases polled with
    | error e =>
      obtain ⟨rfl, rfl⟩ := hrest
      rwa [List.append_nil]
    | ok u =>
      cases hpolled with
      | waited hserved hwaits => exact (pollExit_polled hpid hrest).after hserved hwaits

/-! ## Rounds -/

/-- Waiting once is turns that wait, also if it fails. -/
theorem monitor_served {r r' : Runner} {xs : List (Exchange α)} (h : (r.monitor).Leads xs r') :
    ∃ ks, Served r ks r' ∧ (∀ k ∈ ks, k.turn.isTold = false) ∧ xs = Taken.record ks := by
  obtain ⟨ys, zs, ⟨r₁, polled⟩, rfl, hpoll, hrest⟩ := (leads_bind _ _ _ _).mp h
  have hpolled := pollOnce_polled hpoll
  cases hpolled with
  | waited hserved hwaits =>
    obtain ⟨rfl, rfl⟩ := hrest
    exact ⟨_, hserved, hwaits, List.append_nil _⟩
  | @failed ks _ t e hserved hwaits hfailure hlast hfits =>
    have hholds : (⟨t, r₁, zs, r', .nothing⟩ : Taken α).Holds := by
      refine ⟨hfits, fun c hc => ?_, fun _ hnone => ?_, fun _ _ => hrest⟩
      · rw [Turn.call?_of_failure? hfailure] at hc
        cases hc
      · rw [hfailure] at hnone
        cases hnone
    refine ⟨ks ++ [⟨t, r₁, zs, r', .nothing⟩], hserved.append hholds.served, ?_, by simp⟩
    exact List.forall_mem_append.mpr ⟨hwaits, List.forall_mem_singleton.mpr hlast⟩

/-- A round is turns: first the messages, then the waits. -/
theorem round_served {r r' : Runner} {controls : List Control} {xs : List (Exchange α)}
    (h : (r.round controls).Leads xs r') :
    ∃ ks ws, Served r ks r' ∧ ks.map (·.turn) = controls.map .told ++ ws ∧
      (∀ t ∈ ws, t.isTold = false) ∧ xs = Taken.record ks := by
  obtain ⟨ys, zs, r₁, rfl, hcontrols, hrest⟩ := (leads_bind _ _ _ _).mp h
  obtain ⟨ks, hserved, hturns, rfl⟩ := handleAll_served hcontrols
  split at hrest
  · obtain ⟨rfl, rfl⟩ := hrest
    exact ⟨ks, [], hserved, by rw [hturns, List.append_nil], List.forall_mem_nil _,
      List.append_nil _⟩
  · obtain ⟨ls, hserved', hwaits, rfl⟩ := monitor_served hrest
    refine ⟨ks ++ ls, ls.map (·.turn), hserved.append hserved', ?_, ?_,
      (Taken.record_append ks ls).symm⟩
    · rw [List.map_append, hturns]
    · intro t ht
      obtain ⟨k, hk, rfl⟩ := List.mem_map.mp ht
      exact hwaits k hk

/-- Rounds are turns, up to the result or to the last round. -/
theorem rounds_served {r r' : Runner} {controls : List (List Control)} {xs : List (Exchange α)}
    (h : (r.rounds controls).Leads xs r') :
    ∃ ks taken, Served r ks r' ∧ xs = Taken.record ks ∧ taken <+: controls ∧
      InRounds taken (ks.map (·.turn)) ∧ (r'.result = none → taken = controls) := by
  induction controls generalizing r xs with
  | nil =>
    obtain ⟨rfl, rfl⟩ := h
    exact ⟨[], [], .nil r', rfl, List.prefix_rfl, .nil, fun _ => rfl⟩
  | cons first rest ih =>
    unfold rounds at h
    split at h
    · rename_i hover
      obtain ⟨rfl, rfl⟩ := h
      refine ⟨[], [], .nil r', rfl, List.nil_prefix, .nil, fun hnone => ?_⟩
      rw [hnone] at hover
      cases hover
    · obtain ⟨ys, zs, r₁, rfl, hround, hrest⟩ := (leads_bind _ _ _ _).mp h
      obtain ⟨ks, ws, hserved, hturns, hwaits, rfl⟩ := round_served hround
      obtain ⟨ls, taken, hserved', rfl, hprefix, hrounds, hall⟩ := ih hrest
      refine ⟨ks ++ ls, first :: taken, hserved.append hserved',
        (Taken.record_append ks ls).symm, List.cons_prefix_cons.mpr ⟨rfl, hprefix⟩, ?_, ?_⟩
      · rw [List.map_append, hturns]
        exact .round hwaits hrounds
      · exact fun hnone => congrArg _ (hall hnone)

/-- A whole attempt starts as by a call, and goes on with turns. -/
theorem run_served {r r' : Runner} {plan : InstallPlan} {controls : List (List Control)}
    {xs : List (Exchange α)} (h : (r.run plan controls).Leads xs (.ok r')) :
    ∃ os r₁ ks taken, xs = os ++ Taken.record ks ∧ (r.perform plan).Leads os (.ok r₁) ∧
      Served r₁ ks r' ∧ taken <+: controls ∧ InRounds taken (ks.map (·.turn)) ∧
      (r'.result = none → taken = controls) := by
  obtain ⟨os, zs, started, rfl, hperform, hrest⟩ := (leads_bind _ _ _ _).mp h
  cases started with
  | error e =>
    obtain ⟨-, hsame⟩ := hrest
    cases hsame
  | ok r₁ =>
    obtain ⟨ys, _, _, rfl, hrounds, rfl, ⟨⟩⟩ := (leads_bind _ _ _ _).mp hrest
    obtain ⟨ks, taken, hserved, rfl, hprefix, hinRounds, hall⟩ := rounds_served hrounds
    refine ⟨os, r₁, ks, taken, ?_, hperform, hserved, hprefix, hinRounds, hall⟩
    rw [List.append_nil]

end Runner

end SlotUpdate
