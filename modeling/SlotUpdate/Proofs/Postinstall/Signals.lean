import Mathlib.Data.List.Induction
import SlotUpdate.Proofs.List.Places
import SlotUpdate.Proofs.Postinstall.Programs
import SlotUpdate.Proofs.Postinstall.Refinement

/-!
# Signals are disciplined

Signals are sent only to the program that is alive. A program is told to go on only if it is
stopped, and told to end only once, after it was told to go on if it was stopped. Right after that
it is released, and nothing else is. All of this is for launchers that give every program a number
of its own, whatever else they and the other replies are. `DisciplinesSignals` says it of a record.

`Ledger.Sound` is what holds of the ledger at each point. Every change keeps it
(`Ledger.Changes.sound`), and where it holds, the signals of a step are allowed by what happened
before (`Step.signalLaw`).
-/

namespace SlotUpdate

variable {α σ : Type}

/-! ## Stopped programs -/

/-- In a record a program was stopped with success, and since then not told to go on with
success. -/
def StoppedIn (pid : Pid) (es : List (Event α)) : Prop :=
  ∃ before after, es = before ++ .asked ⟨.signal pid .stop, .ok ()⟩ :: after ∧
    .asked ⟨.signal pid .resume, .ok ()⟩ ∉ after

namespace Ledger

/-- The events that change whether a program is stopped. -/
theorem mem_stopped_event (l : Ledger) (pid : Pid) (e : Event α) :
    pid ∈ (l.event e).stopped ↔ e = .asked ⟨.signal pid .stop, .ok ()⟩ ∨
      pid ∈ l.stopped ∧ e ≠ .asked ⟨.signal pid .resume, .ok ()⟩ := by
  have hentry := l.entry e
  generalize l.event e = l' at hentry ⊢
  have hkeeps : e.suspends = false → l'.stopped = l.stopped →
      (pid ∈ l'.stopped ↔ e = .asked ⟨.signal pid .stop, .ok ()⟩ ∨
        pid ∈ l.stopped ∧ e ≠ .asked ⟨.signal pid .resume, .ok ()⟩) := by
    intro hother hsame
    have hstop : e ≠ .asked ⟨.signal pid .stop, .ok ()⟩ := by
      rintro rfl
      cases hother
    have hresume : e ≠ .asked ⟨.signal pid .resume, .ok ()⟩ := by
      rintro rfl
      cases hother
    rw [hsame]
    exact ⟨fun h => Or.inr ⟨h, hresume⟩, fun h => (h.resolve_left hstop).1⟩
  cases hentry with
  | nothing hother => exact hkeeps hother rfl
  | launch _ _ q => exact hkeeps rfl (launch_stopped l q)
  | exit q hother => exact hkeeps hother (exit_stopped l q)
  | terminate q hother => exact hkeeps hother rfl
  | release q hother => exact hkeeps hother rfl
  | stop q =>
    have hmem : pid ∈ (l.stop q).stopped ↔ pid ∈ l.stopped ∨ pid = q := by
      simp [Ledger.stop]
    refine hmem.trans ⟨?_, ?_⟩
    · rintro (hmem | rfl)
      · exact Or.inr ⟨hmem, nofun⟩
      · exact Or.inl rfl
    · rintro (heq | ⟨hmem, -⟩)
      · cases heq
        exact Or.inr rfl
      · exact Or.inl hmem
  | resume q =>
    have hmem : pid ∈ (l.resume q).stopped ↔ pid ∈ l.stopped ∧ pid ≠ q := by
      simp [Ledger.resume]
    refine hmem.trans ⟨?_, ?_⟩
    · rintro ⟨hmem, hne⟩
      refine Or.inr ⟨hmem, ?_⟩
      rintro ⟨⟩
      exact hne rfl
    · rintro (heq | ⟨hmem, hne⟩)
      · cases heq
      · refine ⟨hmem, ?_⟩
        rintro rfl
        exact hne rfl

/-- The ledger has the programs that are stopped in the record. -/
theorem mem_stopped_iff (pid : Pid) (es : List (Event α)) :
    pid ∈ (ofRecord es).stopped ↔ StoppedIn pid es := by
  induction es using List.reverseRecOn with
  | nil =>
    constructor
    · exact fun hmem => absurd hmem List.not_mem_nil
    · rintro ⟨before, after, heq, -⟩
      simp at heq
  | append_singleton es e ih =>
    rw [ofRecord_append, events_cons, events_nil, mem_stopped_event, ih]
    constructor
    · rintro (rfl | ⟨⟨before, after, rfl, hnone⟩, hne⟩)
      · exact ⟨es, [], rfl, List.not_mem_nil⟩
      · refine ⟨before, after ++ [e], by simp, ?_⟩
        intro hmem
        rcases List.mem_append.mp hmem with hmem | hmem
        · exact hnone hmem
        · exact hne (List.mem_singleton.mp hmem).symm
    · rintro ⟨before, after, heq, hnone⟩
      rcases List.eq_nil_or_concat after with rfl | ⟨rest, f, hafter⟩
      · obtain ⟨-, hlast⟩ := List.append_inj' heq rfl
        exact Or.inl (List.singleton_inj.mp hlast)
      · rw [List.concat_eq_append] at hafter
        subst hafter
        have hconcat : es ++ [e] =
            (before ++ .asked ⟨.signal pid .stop, .ok ()⟩ :: rest) ++ [f] := heq.trans (by simp)
        obtain ⟨rfl, hlast⟩ := List.append_inj' hconcat rfl
        obtain rfl := List.singleton_inj.mp hlast
        refine Or.inr ⟨⟨before, rest, rfl, fun hmem => hnone (List.mem_append_left _ hmem)⟩, ?_⟩
        rintro rfl
        exact hnone (List.mem_append_right _ (List.mem_singleton_self _))

/-- A program has ended once: its exit was handled, or it was told to end and released. -/
def EndedOnce (l : Ledger) (pid : Pid) : Prop :=
  (l.exited.count pid = 1 ∧ l.terminated.count pid = 0 ∧ l.released.count pid = 0) ∨
    (l.exited.count pid = 0 ∧ l.terminated.count pid = 1 ∧ l.released.count pid = 1)

/-- What holds of the ledger at a point where the given program runs. -/
structure Sound (l : Ledger) (program : Option (Pid × Bool)) : Prop where
  /-- The program is the one that is alive. -/
  alive : l.alive = (program.map (·.1)).toList
  /-- Nothing happened to programs that were not launched. -/
  unknown : ∀ pid, pid ∉ l.launched → pid ∉ l.stopped ∧ pid ∉ l.exited ∧ pid ∉ l.terminated
  /-- The programs that are not alive have ended once. -/
  ended : ∀ pid ∈ l.launched, pid ∉ l.alive → l.EndedOnce pid
  /-- The program was launched, has not ended, and is stopped exactly if it is said to be. -/
  running : ∀ pid stopped, program = some (pid, stopped) → pid ∈ l.launched ∧
    pid ∉ l.exited ∧ pid ∉ l.terminated ∧ (pid ∈ l.stopped ↔ stopped = true)
  /-- The programs that were told to end were released. -/
  released : l.released = l.terminated

/-- Where nothing was launched, the ledger is sound. -/
theorem sound_empty : Sound empty none where
  alive := rfl
  unknown := fun _ _ => ⟨List.not_mem_nil, List.not_mem_nil, List.not_mem_nil⟩
  ended := fun _ h => nomatch h
  running := fun _ _ h => nomatch h
  released := rfl

/-- A program that was not in a list is in it once after it was added. -/
theorem count_concat_self {pid : Pid} {pids : List Pid} (h : pid ∉ pids) :
    (pids ++ [pid]).count pid = 1 := by
  rw [List.count_append, List.count_eq_zero.mpr h, List.count_singleton_self]

/-- Adding a program does not change how often others are in a list. -/
theorem count_concat_of_ne {pid q : Pid} (h : q ≠ pid) (pids : List Pid) :
    (pids ++ [pid]).count q = pids.count q := by
  have hnone : [pid].count q = 0 :=
    List.count_eq_zero.mpr fun hmem => h (List.mem_singleton.mp hmem)
  rw [List.count_append, hnone, Nat.add_zero]

variable {l l' : Ledger} {pid : Pid} {stopped : Bool}

/-- A program that is launched with a number of its own runs. -/
theorem Sound.launch (h : l.Sound none) (hpos : 0 < pid) (hnew : pid ∉ l.launched) :
    (l.launch pid).Sound (some (pid, false)) := by
  obtain ⟨hstopped, hexited, hterminated⟩ := h.unknown pid hnew
  unfold Ledger.launch
  rw [if_pos hpos]
  constructor
  case alive => simp [h.alive]
  case unknown =>
    intro q hq
    exact h.unknown q fun hmem => hq (List.mem_append_left _ hmem)
  case ended =>
    intro q hq hdead
    have hne : q ∉ [pid] := fun hmem => hdead (List.mem_append_right _ hmem)
    exact h.ended q ((List.mem_append.mp hq).resolve_right hne)
      fun hmem => hdead (List.mem_append_left _ hmem)
  case running =>
    rintro _ _ ⟨⟩
    exact ⟨List.mem_append_right _ (List.mem_singleton_self _), hexited, hterminated,
      fun hmem => absurd hmem hstopped, fun hfalse => nomatch hfalse⟩
  case released => exact h.released

/-- The program that runs can be stopped. -/
theorem Sound.stop (h : l.Sound (some (pid, stopped))) : (l.stop pid).Sound (some (pid, true)) := by
  obtain ⟨hlaunched, hexited, hterminated, -⟩ := h.running pid stopped rfl
  unfold Ledger.stop
  constructor
  case alive => exact h.alive
  case unknown =>
    intro q hq
    obtain ⟨hstopped, hrest⟩ := h.unknown q hq
    have hne : q ∉ [pid] := fun hmem => hq (List.mem_singleton.mp hmem ▸ hlaunched)
    exact ⟨fun hmem => (List.mem_append.mp hmem).elim hstopped hne, hrest⟩
  case ended => exact h.ended
  case running =>
    rintro _ _ ⟨⟩
    exact ⟨hlaunched, hexited, hterminated,
      fun _ => rfl, fun _ => List.mem_append_right _ (List.mem_singleton_self _)⟩
  case released => exact h.released

/-- The program that runs can go on. -/
theorem Sound.resume (h : l.Sound (some (pid, stopped))) :
    (l.resume pid).Sound (some (pid, false)) := by
  obtain ⟨hlaunched, hexited, hterminated, -⟩ := h.running pid stopped rfl
  unfold Ledger.resume
  constructor
  case alive => exact h.alive
  case unknown =>
    intro q hq
    obtain ⟨hstopped, hrest⟩ := h.unknown q hq
    exact ⟨fun hmem => hstopped (List.mem_filter.mp hmem).1, hrest⟩
  case ended => exact h.ended
  case running =>
    rintro _ _ ⟨⟩
    exact ⟨hlaunched, hexited, hterminated, by simp⟩
  case released => exact h.released

/-- The program that runs can exit. -/
theorem Sound.exit (h : l.Sound (some (pid, stopped))) : (l.exit pid).Sound none := by
  obtain ⟨hlaunched, hexited, hterminated, -⟩ := h.running pid stopped rfl
  have halive : l.alive = [pid] := h.alive
  unfold Ledger.exit
  rw [if_pos (by simp [halive])]
  constructor
  case alive => simp [halive]
  case unknown =>
    intro q hq
    obtain ⟨hstopped, hexited', hrest⟩ := h.unknown q hq
    have hne : q ∉ [pid] := fun hmem => hq (List.mem_singleton.mp hmem ▸ hlaunched)
    exact ⟨hstopped, fun hmem => (List.mem_append.mp hmem).elim hexited' hne, hrest⟩
  case ended =>
    intro q hq _
    by_cases hsame : q = pid
    · subst hsame
      refine Or.inl ⟨count_concat_self hexited, List.count_eq_zero.mpr hterminated, ?_⟩
      rw [h.released]
      exact List.count_eq_zero.mpr hterminated
    · have hended := h.ended q hq (by simpa [halive] using hsame)
      unfold EndedOnce at hended ⊢
      rwa [count_concat_of_ne hsame]
  case running => exact fun _ _ hnone => nomatch hnone
  case released => exact h.released

/-- The program that runs can be told to end, and released. -/
theorem Sound.terminate (h : l.Sound (some (pid, stopped))) :
    ((l.terminate pid).release pid).Sound none := by
  obtain ⟨hlaunched, hexited, hterminated, -⟩ := h.running pid stopped rfl
  have halive : l.alive = [pid] := h.alive
  unfold Ledger.terminate Ledger.release
  constructor
  case alive => simp [halive]
  case unknown =>
    intro q hq
    obtain ⟨hstopped, hexited', hterminated'⟩ := h.unknown q hq
    have hne : q ∉ [pid] := fun hmem => hq (List.mem_singleton.mp hmem ▸ hlaunched)
    exact ⟨hstopped, hexited', fun hmem => (List.mem_append.mp hmem).elim hterminated' hne⟩
  case ended =>
    intro q hq _
    by_cases hsame : q = pid
    · subst hsame
      refine Or.inr ⟨List.count_eq_zero.mpr hexited, count_concat_self hterminated, ?_⟩
      rw [h.released]
      exact count_concat_self hterminated
    · have hended := h.ended q hq (by simpa [halive] using hsame)
      unfold EndedOnce at hended ⊢
      rwa [count_concat_of_ne hsame, count_concat_of_ne hsame]
  case running => exact fun _ _ hnone => nomatch hnone
  case released => simp [h.released]

/-- Every change keeps the ledger sound, as long as programs have numbers of their own. -/
theorem Changes.sound {program program' : Option (Pid × Bool)} (h : l.Changes program l' program')
    (hl : l.Sound program) (hfresh : l'.launched.Nodup) : l'.Sound program' := by
  cases h with
  | nothing => exact hl
  | launches hpositive =>
    unfold Ledger.launch at hfresh
    rw [if_pos hpositive] at hfresh
    have hnew := (List.nodup_append.mp hfresh).2.2
    exact hl.launch hpositive fun hmem => hnew _ hmem _ (List.mem_singleton_self _) rfl
  | stops => exact hl.stop
  | resumes => exact hl.resume
  | exits => exact hl.exit
  | ends => exact hl.terminate
  | resumesAndEnds => exact hl.resume.terminate

end Ledger

/-! ## The law of signals -/

/-- Whether an event sends a signal to a program, or releases it. -/
def Event.isSignal : Event α → Bool
  | .asked ⟨.signal _ _, _⟩ | .asked ⟨.release _, _⟩ => true
  | _ => false

/-- Nothing in a record sends a signal to a program, or releases it. -/
def NoSignals (es : List (Event α)) : Prop := ∀ e ∈ es, e.isSignal = false

/-- Exchanges that are not about programs send no signals. -/
theorem About.noSignals (topics : List Topic) {xs : List (Exchange α)} (h : About topics xs)
    (hother : .programs ∉ topics) : NoSignals (xs.map .asked) := by
  intro e he
  obtain ⟨⟨request, reply⟩, hx, rfl⟩ := List.mem_map.mp he
  have htopic := h _ hx
  cases request with
  | signal => exact absurd htopic hother
  | release => exact absurd htopic hother
  | _ => rfl

/-- Looking after a program sends no signals. -/
theorem noSignals_of_attends {pid : Pid} {xs : List (Exchange α)} (h : ∀ x ∈ xs, x.Attends pid) :
    NoSignals (xs.map .asked) := by
  intro e he
  obtain ⟨x, hx, rfl⟩ := List.mem_map.mp he
  refine (h x hx).elim ?_ ?_ ?_ ?_ ?_ ?_ <;> intros <;> rfl

/-- Where nothing was asked for, no signals were sent. -/
theorem noSignals_of_silent {es : List (Event α)} (h : Event.exchanges es = []) : NoSignals es := by
  intro e he
  cases e with
  | called c => rfl
  | asked x => exact absurd he (Event.not_mem_of_silent h x)

/-- A program that is told to end is told to go on right before that if it is stopped then, and is
not if it is not. -/
def GoesOnFirst (pid : Pid) (past : List (Event α)) : Prop :=
  (∃ earlier reply, past = earlier ++ [.asked ⟨.signal pid .resume, reply⟩] ∧
      StoppedIn pid earlier) ∨
    (∀ earlier reply, past ≠ earlier ++ [.asked ⟨.signal pid .resume, reply⟩]) ∧
      ¬StoppedIn pid past

/-- What has to have happened before a signal is sent, or a program released. -/
def signalLaw (past : List (Event α)) : Event α → Prop
  | .asked ⟨.signal pid signal, _⟩ =>
    ((Ledger.ofRecord past).alive = [pid] ∧ pid ∉ (Ledger.ofRecord past).exited ∧
      pid ∉ (Ledger.ofRecord past).terminated) ∧
      (signal = .resume → StoppedIn pid past) ∧ (signal = .terminate → GoesOnFirst pid past)
  | .asked ⟨.release pid, _⟩ =>
    ∃ earlier reply, past = earlier ++ [.asked ⟨.signal pid .terminate, reply⟩]
  | _ => True

/-- Events that send no signals keep the law. -/
theorem NoSignals.keeps {es past : List (Event α)} (h : NoSignals es) :
    Keeps signalLaw past es := by
  apply Keeps.of_forall
  intro e he past
  have hnone := h e he
  cases e with
  | called c => trivial
  | asked x =>
    obtain ⟨request, reply⟩ := x
    cases request with
    | signal => cases hnone
    | release => cases hnone
    | _ => trivial

/-- Every program that is told to end is released right after that. -/
def ReleasesAtOnce (es : List (Event α)) : Prop :=
  ∀ before pid reply after, es = before ++ .asked ⟨.signal pid .terminate, reply⟩ :: after →
    ∃ rest, after = .asked ⟨.release pid, ()⟩ :: rest

/-- Events that send no signals tell no program to end. -/
theorem NoSignals.releasesAtOnce {es : List (Event α)} (h : NoSignals es) : ReleasesAtOnce es := by
  rintro before pid reply after rfl
  cases h _ (List.mem_append_right _ List.mem_cons_self)

/-- An event that tells no program to end needs no release. -/
theorem ReleasesAtOnce.cons {e : Event α} {es : List (Event α)} (h : ReleasesAtOnce es)
    (he : ∀ pid reply, e ≠ .asked ⟨.signal pid .terminate, reply⟩) : ReleasesAtOnce (e :: es) := by
  intro before pid reply after heq
  cases before with
  | nil => exact absurd (List.cons.inj heq).1 (he pid reply)
  | cons f before => exact h before pid reply after (List.cons.inj heq).2

/-- In a record every program is released at once if it is in both parts. -/
theorem ReleasesAtOnce.append {es fs : List (Event α)} (h : ReleasesAtOnce es)
    (h' : ReleasesAtOnce fs) : ReleasesAtOnce (es ++ fs) := by
  intro before pid reply after heq
  rcases List.append_eq_append_iff.mp heq with ⟨m, -, hm⟩ | ⟨m, hes, hm⟩
  · exact h' m pid reply after hm
  · cases m with
    | nil => exact h' [] pid reply after hm.symm
    | cons e m =>
      obtain ⟨rfl, rfl⟩ := List.cons.inj hm
      obtain ⟨rest, rfl⟩ := h before pid reply m hes
      exact ⟨rest ++ fs, rfl⟩

namespace Runner

/-- The signals of a step, given the program that runs before it. -/
inductive Sends : Option (Pid × Bool) → List (Event α) → Prop where
  /-- There are none. -/
  | nothing {program : Option (Pid × Bool)} {es : List (Event α)} (none_sent : NoSignals es) :
    Sends program es
  /-- The program is stopped, or told to go on if it is stopped. -/
  | signal {pid : Pid} {stopped : Bool} {signal : ChildSignal} (reply : Except SystemError Unit)
    (kind : signal = .stop ∨ signal = .resume ∧ stopped = true) :
    Sends (some (pid, stopped)) [.asked ⟨.signal pid signal, reply⟩]
  /-- The program is told to end. -/
  | ends {pid : Pid} {stopped : Bool} {es : List (Event α)} {ks : List (Exchange α)}
    (none_sent : NoSignals es) (same : ∀ l : Ledger, l.events es = l)
    (kills : EndsProgram pid stopped ks) : Sends (some (pid, stopped)) (es ++ ks.map .asked)

/-- Every step sends signals in one of the ways. -/
theorem Step.sends {config : PostinstallConfig} {plan : InstallPlan} {scheduled : Bool}
    {pt pt' : Point} {es : List (Event α)} (h : Step config plan scheduled pt es pt') :
    Sends pt.program? es := by
  have hnone : ∀ {program : Option (Pid × Bool)} {fs : List (Event α)},
      (fs.all fun e => !e.isSignal) = true → Sends program fs := by
    intro program fs hfs
    refine .nothing fun e he => ?_
    have he' := List.all_eq_true.mp hfs e he
    rwa [Bool.not_eq_true'] at he'
  cases h with
  | noted => exact hnone rfl
  | sourceless => exact hnone rfl
  | finishes => exact hnone rfl
  | skips => exact hnone rfl
  | misplaced => exact hnone rfl
  | unmountable _ _ hacquires =>
    exact .nothing (About.noSignals _ (hacquires.about_cons _) (by decide))
  | mounts _ _ hacquires hinspects =>
    exact .nothing (About.noSignals _ (hacquires.about_inspected _ hinspects) (by decide))
  | probed => exact hnone rfl
  | sticks => exact hnone rfl
  | starts => exact hnone rfl
  | fails => exact hnone rfl
  | attends hattends => exact .nothing (noSignals_of_attends hattends)
  | suspends => exact .signal _ (Or.inl rfl)
  | resumes => exact .signal _ (Or.inr ⟨rfl, rfl⟩)
  | balks e hkind => exact .signal _ hkind
  | exits hreports =>
    rcases hreports with rfl | rfl
    · exact hnone rfl
    · exact hnone rfl
  | passes share _ _ hus =>
    exact .nothing (About.noSignals _ (hus.about_passed share) (by decide))
  | givesUp => exact hnone rfl
  | @aborts _ _ _ x _ hfails hkills =>
    have hx : NoSignals [.asked x] ∧ ∀ l : Ledger, l.events [.asked x] = l := by
      obtain ⟨e, rfl | rfl⟩ := hfails
      · exact ⟨by simp [NoSignals, Event.isSignal], fun _ => rfl⟩
      · exact ⟨by simp [NoSignals, Event.isSignal], fun _ => rfl⟩
    exact .ends hx.1 hx.2 hkills
  | cancels hkills =>
    have hempty : NoSignals ([] : List (Event α)) := fun _ he => nomatch he
    exact .ends hempty (fun _ => rfl) hkills
  | ends hus hss hps =>
    exact .nothing (About.noSignals Topic.ending (about_of_ends hus hss hps) (by decide))
  | unmaps => exact hnone rfl

/-- Where the ledger is sound, the program that runs can be sent signals. -/
theorem sound_reached {past : List (Event α)} {pid : Pid} {stopped : Bool}
    (h : (Ledger.ofRecord past).Sound (some (pid, stopped))) :
    ((Ledger.ofRecord past).alive = [pid] ∧ pid ∉ (Ledger.ofRecord past).exited ∧
      pid ∉ (Ledger.ofRecord past).terminated) ∧ (StoppedIn pid past ↔ stopped = true) := by
  obtain ⟨-, hexited, hterminated, hstopped⟩ := h.running pid stopped rfl
  rw [Ledger.mem_stopped_iff] at hstopped
  exact ⟨⟨h.alive, hexited, hterminated⟩, hstopped⟩

/-- A program that is not stopped can be told to end. -/
theorem goesOnFirst_of_not_stopped {past : List (Event α)} {pid : Pid}
    (hpast : Keeps signalLaw [] past) (h : ¬StoppedIn pid past) : GoesOnFirst pid past := by
  by_cases hresumed : ∃ earlier reply, past = earlier ++ [.asked ⟨.signal pid .resume, reply⟩]
  · -- It was told to go on just now, so it was stopped before.
    obtain ⟨earlier, reply, heq⟩ := hresumed
    obtain ⟨-, hstopped, -⟩ := hpast.of_split heq
    exact Or.inl ⟨earlier, reply, heq, hstopped rfl⟩
  · exact Or.inr ⟨fun earlier reply heq => hresumed ⟨earlier, reply, heq⟩, h⟩

/-- The end of a program keeps the law. -/
theorem EndsProgram.keeps_signalLaw {pid : Pid} {stopped : Bool} {ks : List (Exchange α)}
    (h : EndsProgram pid stopped ks) {past : List (Event α)}
    (hsound : (Ledger.ofRecord past).Sound (some (pid, stopped)))
    (hpast : Keeps signalLaw [] past) :
    Keeps signalLaw past (ks.map .asked) := by
  obtain ⟨hreached, hstopped⟩ := sound_reached hsound
  obtain ⟨resumed, ended, rfl⟩ := h
  cases stopped with
  | false =>
    have hends : GoesOnFirst pid past := by
      apply goesOnFirst_of_not_stopped hpast
      rw [hstopped]
      exact Bool.false_ne_true
    exact ⟨⟨hreached, nofun, fun _ => hends⟩, ⟨past, ended, rfl⟩, trivial⟩
  | true =>
    have hgoesOn : StoppedIn pid past := hstopped.mpr rfl
    have hreached' : ((Ledger.ofRecord (past ++ [.asked ⟨.signal pid .resume, resumed⟩])).alive =
        [pid] ∧ pid ∉ (Ledger.ofRecord (past ++ [.asked ⟨.signal pid .resume, resumed⟩])).exited ∧
        pid ∉ (Ledger.ofRecord (past ++ [.asked ⟨.signal pid .resume, resumed⟩])).terminated) := by
      rw [Ledger.ofRecord_append]
      cases resumed with
      | ok u => exact hreached
      | error e => exact hreached
    exact ⟨⟨hreached, fun _ => hgoesOn, nofun⟩,
      ⟨hreached', nofun, fun _ => Or.inl ⟨past, resumed, rfl, hgoesOn⟩⟩, ⟨_, ended, rfl⟩, trivial⟩

/-- The signals of a step keep the law where the ledger is sound. -/
theorem Sends.keeps_signalLaw {program : Option (Pid × Bool)} {past es : List (Event α)}
    (h : Sends program es) (hsound : (Ledger.ofRecord past).Sound program)
    (hpast : Keeps signalLaw [] past) : Keeps signalLaw past es := by
  cases h with
  | nothing hnone => exact hnone.keeps
  | signal reply hkind =>
    obtain ⟨hreached, hstopped⟩ := sound_reached hsound
    rcases hkind with rfl | ⟨rfl, htrue⟩
    · exact ⟨⟨hreached, nofun, nofun⟩, trivial⟩
    · exact ⟨⟨hreached, fun _ => hstopped.mpr htrue, nofun⟩, trivial⟩
  | ends hnone hsame hkills =>
    rw [keeps_append]
    refine ⟨hnone.keeps, hkills.keeps_signalLaw ?_ ?_⟩
    · rwa [Ledger.ofRecord_append, hsame]
    · rw [keeps_append]
      exact ⟨hpast, hnone.keeps⟩

/-- A step releases the program that it tells to end at once. -/
theorem Sends.releasesAtOnce {program : Option (Pid × Bool)} {es : List (Event α)}
    (h : Sends program es) : ReleasesAtOnce es := by
  have hnil : ReleasesAtOnce ([] : List (Event α)) :=
    NoSignals.releasesAtOnce fun _ he => nomatch he
  cases h with
  | nothing hnone => exact hnone.releasesAtOnce
  | signal reply hkind =>
    refine hnil.cons ?_
    rcases hkind with rfl | ⟨rfl, -⟩
    · exact nofun
    · exact nofun
  | @ends pid stopped _ _ hnone _ hkills =>
    obtain ⟨resumed, ended, rfl⟩ := hkills
    have hend : ReleasesAtOnce
        [(.asked ⟨.signal pid .terminate, ended⟩ : Event α), .asked ⟨.release pid, ()⟩] := by
      intro before pid' reply after heq
      cases before with
      | nil =>
        obtain ⟨hfirst, rfl⟩ := List.cons.inj heq
        cases hfirst
        exact ⟨[], rfl⟩
      | cons f before =>
        have hrelease : ReleasesAtOnce [(.asked ⟨.release pid, ()⟩ : Event α)] :=
          hnil.cons fun _ _ heq => by cases heq
        exact hrelease before pid' reply after (List.cons.inj heq).2
    refine hnone.releasesAtOnce.append ?_
    cases stopped with
    | false => exact hend
    | true => exact hend.cons fun _ _ heq => by cases heq

/-- In the record of an attempt whose programs have numbers of their own, the ledger is sound, and
signals are sent as they have to be. -/
theorem Course.signals {config : PostinstallConfig} {plan : InstallPlan} {scheduled : Bool}
    {es : List (Event α)} {pt : Point} (h : Course config plan scheduled es pt)
    (hfresh : (Ledger.ofRecord es).launched.Nodup) :
    (Ledger.ofRecord es).Sound pt.program? ∧ Keeps signalLaw [] es ∧ ReleasesAtOnce es := by
  induction h with
  | @opens before c _ xs _ hsilent hstarts _ _ hopens =>
    obtain ⟨hempty, hnone⟩ := hopens.ofRecord_eq hsilent hstarts
    have hquiet : NoSignals (before ++ .called c :: xs.map .asked) := by
      unfold NoSignals
      rw [List.forall_mem_append, List.forall_mem_cons]
      exact ⟨noSignals_of_silent hsilent, rfl, About.noSignals _ hopens.about (by decide)⟩
    refine ⟨?_, hquiet.keeps, hquiet.releasesAtOnce⟩
    rw [hempty, hnone]
    exact Ledger.sound_empty
  | @step es fs pt pt' hcourse hstep ih =>
    rw [Ledger.ofRecord_append] at hfresh ⊢
    have hpast := hfresh.sublist (Ledger.events_prefix _ fs).1.sublist
    obtain ⟨hsound, hlaw, hreleases⟩ := ih hpast
    have hchanges := hstep.changes hcourse.alive
    refine ⟨hchanges.sound hsound hfresh, ?_, hreleases.append hstep.sends.releasesAtOnce⟩
    rw [keeps_append]
    exact ⟨hlaw, hstep.sends.keeps_signalLaw hsound hlaw⟩

/-! ## Histories -/

/-- That signals are disciplined in the record of a runner. -/
structure DisciplinesSignals (es : List (Event α)) (r : Runner) : Prop where
  /-- At most one program is alive, and it is the one that the runner waits for. -/
  child : (Ledger.ofRecord es).alive = r.childPid.toList
  /-- The runner takes it for stopped exactly if it is. -/
  suspended : r.suspended = true ↔ ∃ pid, r.childPid = some pid ∧ StoppedIn pid es
  /-- A signal is sent only to the program that is alive. Its exit was not handled, and it was not
  told to end. -/
  sent : ∀ before pid signal reply after,
    es = before ++ .asked ⟨.signal pid signal, reply⟩ :: after →
      (Ledger.ofRecord before).alive = [pid] ∧ pid ∉ (Ledger.ofRecord before).exited ∧
        pid ∉ (Ledger.ofRecord before).terminated
  /-- A program is told to go on only if it is stopped. -/
  continued : ∀ before pid reply after,
    es = before ++ .asked ⟨.signal pid .resume, reply⟩ :: after → StoppedIn pid before
  /-- A program that is told to end is told to go on right before that if it is stopped, and only
  then. It is released right after that, once, and no signal is sent to it any more. -/
  terminated : ∀ before pid reply after,
    es = before ++ .asked ⟨.signal pid .terminate, reply⟩ :: after →
      GoesOnFirst pid before ∧ (∀ signal reply', .asked ⟨.signal pid signal, reply'⟩ ∉ after) ∧
        ∃ rest, after = .asked ⟨.release pid, ()⟩ :: rest ∧ .asked ⟨.release pid, ()⟩ ∉ rest
  /-- Only a program that was told to end right before is released. -/
  released : ∀ before pid after, es = before ++ .asked ⟨.release pid, ()⟩ :: after →
    ∃ earlier reply, before = earlier ++ [.asked ⟨.signal pid .terminate, reply⟩]
  /-- A program that was launched and is not alive has ended once: its exit was handled, or it was
  told to end and released, and not both. -/
  ended : ∀ pid ∈ (Ledger.ofRecord es).launched, pid ∉ (Ledger.ofRecord es).alive →
    (Ledger.ofRecord es).EndedOnce pid

/-- After a program was told to end no signal is sent to it, where the law is kept. -/
theorem not_mem_of_terminated {es before after : List (Event α)} {pid : Pid}
    {reply : Except SystemError Unit} (hlaw : Keeps signalLaw [] es)
    (hes : es = before ++ .asked ⟨.signal pid .terminate, reply⟩ :: after) (signal : ChildSignal)
    (reply' : Except SystemError Unit) : .asked ⟨.signal pid signal, reply'⟩ ∉ after := by
  intro hmem
  obtain ⟨between, rest, rfl⟩ := List.append_of_mem hmem
  rw [← List.cons_append, ← List.append_assoc] at hes
  obtain ⟨⟨-, -, hnone⟩, -⟩ := hlaw.of_split hes
  rw [Ledger.ofRecord_append, Ledger.events_cons] at hnone
  have hterminated : pid ∈ ((Ledger.ofRecord before).event
      (.asked ⟨.signal pid .terminate, reply⟩ : Event α)).terminated :=
    List.mem_append_right _ (List.mem_singleton_self pid)
  exact hnone ((Ledger.events_prefix _ between).2.subset hterminated)

/-- A record that keeps the law, and where programs are released at once, disciplines signals. -/
theorem disciplinesSignals_of_law {es : List (Event α)} {r : Runner}
    (hlaw : Keeps signalLaw [] es) (hreleases : ReleasesAtOnce es)
    (hchild : (Ledger.ofRecord es).alive = r.childPid.toList)
    (hsuspended : r.suspended = true ↔ ∃ pid, r.childPid = some pid ∧ StoppedIn pid es)
    (hended : ∀ pid ∈ (Ledger.ofRecord es).launched, pid ∉ (Ledger.ofRecord es).alive →
      (Ledger.ofRecord es).EndedOnce pid) : DisciplinesSignals es r := by
  constructor
  case child => exact hchild
  case suspended => exact hsuspended
  case sent =>
    intro before pid signal reply after hes
    exact (hlaw.of_split hes).1
  case continued =>
    intro before pid reply after hes
    exact (hlaw.of_split hes).2.1 rfl
  case terminated =>
    intro before pid reply after hes
    refine ⟨(hlaw.of_split hes).2.2 rfl, not_mem_of_terminated hlaw hes, ?_⟩
    obtain ⟨rest, rfl⟩ := hreleases before pid reply after hes
    refine ⟨rest, rfl, ?_⟩
    -- A second release needs a second signal to end right before it.
    intro hmem
    obtain ⟨between, later, rfl⟩ := List.append_of_mem hmem
    have hsplit : es = (before ++ [.asked ⟨.signal pid .terminate, reply⟩] ++
        .asked ⟨.release pid, ()⟩ :: between) ++ .asked ⟨.release pid, ()⟩ :: later := by
      simpa using hes
    obtain ⟨earlier, reply', hbefore⟩ := hlaw.of_split hsplit
    have hlast := mem_of_append_eq_concat hbefore (List.cons_ne_nil _ between)
    refine not_mem_of_terminated hlaw hes .terminate reply' ?_
    rw [← List.cons_append]
    exact List.mem_append_left _ hlast
  case released =>
    intro before pid after hes
    exact hlaw.of_split hes
  case ended => exact hended

/-- A runner without a program takes none for stopped. -/
theorem Stable.not_suspended {start : Option InstallPlan} {r : Runner} (h : Stable start r)
    (hchild : r.child = none) : ¬r.suspended = true := by
  intro hsuspended
  have hsome := h.suspended hsuspended
  rw [hchild] at hsome
  cases hsome

/-- Signals are disciplined in every record on the map, where programs have numbers of their own. -/
theorem Charted.disciplinesSignals {config : PostinstallConfig} {start : Option InstallPlan}
    {es : List (Event α)} {r : Runner} (h : Charted config start es r) (hr : Stable start r)
    (hfresh : (Ledger.ofRecord es).launched.Nodup) : DisciplinesSignals es r := by
  have hresting : r.child = none →
      (r.suspended = true ↔ ∃ pid, r.childPid = some pid ∧ StoppedIn pid es) := by
    intro hchild
    rw [childPid_eq_none hchild]
    exact ⟨fun hsuspended => absurd hsuspended (hr.not_suspended hchild),
      fun ⟨pid, hpid, _⟩ => nomatch hpid⟩
  cases h with
  | idle _ hsilent =>
    have hchild : r.child = none := by
      cases hc : r.child with
      | none => rfl
      | some c =>
        obtain ⟨_, hstart, -⟩ := hr.isRunning hc
        cases hstart
    have hquiet := noSignals_of_silent hsilent
    have hempty := Ledger.ofRecord_of_silent hsilent
    refine disciplinesSignals_of_law hquiet.keeps hquiet.releasesAtOnce ?_ (hresting hchild) ?_
    · rw [hempty, childPid_eq_none hchild]
      rfl
    · rw [hempty]
      exact fun _ hmem => nomatch hmem
  | begun harrives =>
    obtain ⟨pt, hcourse, hrests⟩ := harrives
    obtain ⟨hsound, hlaw, hreleases⟩ := hcourse.signals hfresh
    refine disciplinesSignals_of_law hlaw hreleases ?_ ?_ hsound.ended
    · rw [hcourse.alive, hrests.child?_eq]
    · cases hrests with
      | running _ _ child =>
        obtain ⟨-, hstopped⟩ := sound_reached hsound
        rw [child, ← hstopped]
        constructor
        · exact fun hstopped => ⟨_, rfl, hstopped⟩
        · rintro ⟨_, ⟨⟩, hstopped⟩
          exact hstopped
      | done child => exact hresting child

variable [ProgressNumber α]

/-- Signals are disciplined on every platform that gives every program a number of its own, and for
all calls, before a runner is given up and when it is. At the end of a lifetime every program that
was launched has ended once. -/
theorem disciplines_signals (config : PostinstallConfig) (cs : List RunnerCall) (p : Platform α σ)
    (s : σ) (hfresh : (Ledger.ofRecord (lifetimeRecord config cs p s)).launched.Nodup) :
    DisciplinesSignals (record p (new config) cs s) (afterCalls config cs p s).result ∧
      DisciplinesSignals (lifetimeRecord config cs p s) (afterLifetime config cs p s).result ∧
      ∀ pid ∈ (Ledger.ofRecord (lifetimeRecord config cs p s)).launched,
        (Ledger.ofRecord (lifetimeRecord config cs p s)).EndedOnce pid := by
  have hcalls : (Ledger.ofRecord (record p (new config) cs s)).launched.Nodup := by
    unfold lifetimeRecord at hfresh
    rw [Ledger.ofRecord_append] at hfresh
    exact hfresh.sublist (Ledger.events_prefix _ _).1.sublist
  have hlifetime := (lifetime_charted config cs p s).disciplinesSignals
    (afterLifetime_stable config cs p s) hfresh
  refine ⟨(afterCalls_charted config cs p s).disciplinesSignals (afterCalls_stable config cs p s)
    hcalls, hlifetime, ?_⟩
  intro pid hpid
  apply hlifetime.ended pid hpid
  rw [hlifetime.child, childPid_eq_none (afterLifetime_child config cs p s)]
  exact List.not_mem_nil

/-- The record of an attempt that is given up: the first program has exited, and the second one is
stopped. -/
def stoppedRecord : List (Event Float) :=
  lifetimeRecord .default [.perform rehearsedPlan, .exited 1000 0, .suspend]
    (Memory.platform : Platform Float (Memory Float)) (.initial .empty)

/-- Both programs of that attempt have ended once: the first one exited, and the second one was told
to go on and to end. -/
theorem stopped_program_ended :
    (Ledger.ofRecord stoppedRecord).launched = [1000, 1001] ∧
      (Ledger.ofRecord stoppedRecord).exited = [1000] ∧
      (Ledger.ofRecord stoppedRecord).EndedOnce 1001 := by
  have hledger : ((Ledger.ofRecord stoppedRecord).launched,
      (Ledger.ofRecord stoppedRecord).exited) = ([1000, 1001], [1000]) := by decide +kernel
  obtain ⟨hlaunched, hexited⟩ := Prod.mk.inj hledger
  have hfresh : (Ledger.ofRecord stoppedRecord).launched.Nodup := by
    rw [hlaunched]
    decide
  obtain ⟨-, -, hended⟩ := disciplines_signals .default
    [.perform rehearsedPlan, .exited 1000 0, .suspend]
    (Memory.platform : Platform Float (Memory Float))
    (.initial .empty) hfresh
  refine ⟨hlaunched, hexited, hended 1001 ?_⟩
  have hmem : (1001 : Pid) ∈ (Ledger.ofRecord stoppedRecord).launched := by
    rw [hlaunched]
    decide
  exact hmem

end Runner

end SlotUpdate
