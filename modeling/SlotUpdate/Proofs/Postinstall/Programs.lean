import SlotUpdate.Proofs.Postinstall.Topics

/-!
# The programs of a record

`Ledger` keeps account of the programs in a record: which ones were launched, which of them are
alive, stopped, or have ended, and how. It is computed from the record alone, one event after the
other. `Ledger.Entry` says what an event can enter into it, `Ledger.Changes` what a step of an
attempt can do to it, and `Step.changes` that every step does one of these. So the program that is
alive is the one that runs at the point to which the record leads (`Course.alive`).
-/

namespace SlotUpdate

variable {α : Type}

/-- What a record tells of programs. Each list is in the order of the record. -/
structure Ledger where
  /-- The programs that were launched, with a number that stands for a single program. -/
  launched : List Pid
  /-- Those of them whose exit was not handled, and that were not told to end. -/
  alive : List Pid
  /-- The programs that were stopped with success, and since then not told to go on with success. -/
  stopped : List Pid
  /-- The programs whose exit was handled: it was reported while they were alive. -/
  exited : List Pid
  /-- The programs that were told to end. -/
  terminated : List Pid
  /-- The programs that were released. -/
  released : List Pid
  deriving Repr, DecidableEq

/-- Whether an event stops a program or lets it go on, with success. -/
def Event.suspends : Event α → Bool
  | .asked ⟨.signal _ .stop, .ok ()⟩ | .asked ⟨.signal _ .resume, .ok ()⟩ => true
  | _ => false

namespace Ledger

/-- Nothing was launched. -/
def empty : Ledger := ⟨[], [], [], [], [], []⟩

/-- A program is launched. -/
def launch (l : Ledger) (pid : Pid) : Ledger :=
  if 0 < pid then { l with launched := l.launched ++ [pid], alive := l.alive ++ [pid] } else l

/-- A program is said to have exited. -/
def exit (l : Ledger) (pid : Pid) : Ledger :=
  if pid ∈ l.alive then { l with alive := l.alive.erase pid, exited := l.exited ++ [pid] } else l

/-- A program is stopped. -/
def stop (l : Ledger) (pid : Pid) : Ledger := { l with stopped := l.stopped ++ [pid] }

/-- A program goes on. -/
def resume (l : Ledger) (pid : Pid) : Ledger := { l with stopped := l.stopped.filter (· != pid) }

/-- A program is told to end. -/
def terminate (l : Ledger) (pid : Pid) : Ledger :=
  { l with alive := l.alive.erase pid, terminated := l.terminated ++ [pid] }

/-- A program is released. -/
def release (l : Ledger) (pid : Pid) : Ledger := { l with released := l.released ++ [pid] }

/-- Launching a program stops none. -/
@[simp]
theorem launch_stopped (l : Ledger) (pid : Pid) : (l.launch pid).stopped = l.stopped := by
  unfold launch
  split <;> rfl

/-- Launching a program tells none to end. -/
@[simp]
theorem launch_terminated (l : Ledger) (pid : Pid) :
    (l.launch pid).terminated = l.terminated := by
  unfold launch
  split <;> rfl

/-- The exit of a program launches none. -/
@[simp]
theorem exit_launched (l : Ledger) (pid : Pid) : (l.exit pid).launched = l.launched := by
  unfold exit
  split <;> rfl

/-- The exit of a program tells none to end. -/
@[simp]
theorem exit_terminated (l : Ledger) (pid : Pid) : (l.exit pid).terminated = l.terminated := by
  unfold exit
  split <;> rfl

/-- The exit of a program leaves it as it is which ones were stopped. -/
@[simp]
theorem exit_stopped (l : Ledger) (pid : Pid) : (l.exit pid).stopped = l.stopped := by
  unfold exit
  split <;> rfl

/-- The ledger after an exchange. -/
def exchange (l : Ledger) : Exchange α → Ledger
  | ⟨.spawn _ _, .ok pid⟩ => l.launch pid
  | ⟨.tryWait pid, .ok (some _)⟩ => l.exit pid
  | ⟨.signal pid .stop, .ok ()⟩ => l.stop pid
  | ⟨.signal pid .resume, .ok ()⟩ => l.resume pid
  | ⟨.signal pid .terminate, _⟩ => l.terminate pid
  | ⟨.release pid, _⟩ => l.release pid
  | _ => l

/-- The ledger after an event. -/
def event (l : Ledger) : Event α → Ledger
  | .called (.exited pid _) => l.exit pid
  | .called _ => l
  | .asked x => l.exchange x

/-- The ledger after events. -/
def events (l : Ledger) (es : List (Event α)) : Ledger := es.foldl event l

/-- The ledger of a record. -/
def ofRecord (es : List (Event α)) : Ledger := empty.events es

/-- No event leaves the ledger as it is. -/
@[simp]
theorem events_nil (l : Ledger) : l.events ([] : List (Event α)) = l := rfl

/-- The first event is entered before the others. -/
@[simp]
theorem events_cons (l : Ledger) (e : Event α) (es : List (Event α)) :
    l.events (e :: es) = (l.event e).events es := rfl

/-- Events after events are entered after them. -/
@[simp]
theorem events_append (l : Ledger) (es fs : List (Event α)) :
    l.events (es ++ fs) = (l.events es).events fs := List.foldl_append

/-- What happens after a record is entered into its ledger. -/
theorem ofRecord_append (es fs : List (Event α)) :
    ofRecord (es ++ fs) = (ofRecord es).events fs := events_append empty es fs

/-- Events that leave every ledger as it is do so together. -/
theorem events_eq_self {es : List (Event α)} (h : ∀ e ∈ es, ∀ l : Ledger, l.event e = l)
    (l : Ledger) : l.events es = l := by
  induction es with
  | nil => rfl
  | cons e es ih =>
    rw [events_cons, h e List.mem_cons_self, ih fun f hf => h f (List.mem_cons_of_mem e hf)]

/-- An exchange that is not about programs leaves the ledger as it is. -/
theorem exchange_eq_self (l : Ledger) {x : Exchange α} (h : x.request.topic ≠ .programs) :
    l.exchange x = l := by
  obtain ⟨request, reply⟩ := x
  cases request <;> first | rfl | exact absurd rfl h

/-- Exchanges that are not about programs leave the ledger as it is. -/
theorem events_of_about {topics : List Topic} {xs : List (Exchange α)} (h : About topics xs)
    (hother : .programs ∉ topics) (l : Ledger) : l.events (xs.map .asked) = l := by
  apply events_eq_self
  intro e he l
  obtain ⟨x, hx, rfl⟩ := List.mem_map.mp he
  apply exchange_eq_self
  intro heq
  exact hother (heq ▸ h x hx)

/-- Looking after a program leaves the ledger as it is. -/
theorem events_of_attends {pid : Pid} {xs : List (Exchange α)} (h : ∀ x ∈ xs, x.Attends pid)
    (l : Ledger) : l.events (xs.map .asked) = l := by
  apply events_eq_self
  intro e he l
  obtain ⟨x, hx, rfl⟩ := List.mem_map.mp he
  refine (h x hx).elim ?_ ?_ ?_ ?_ ?_ ?_ <;> intros <;> rfl

/-- What an event can enter into the ledger. Only the events that do so stop programs or let them go
on. -/
inductive Entry (l : Ledger) : Event α → Ledger → Prop where
  /-- Nothing changes. -/
  | nothing {e : Event α} (other : e.suspends = false) : Entry l e l
  /-- A program was launched. -/
  | launch (argv : List String) (statusFd : Int) (pid : Pid) :
    Entry l (.asked ⟨.spawn argv statusFd, .ok pid⟩) (l.launch pid)
  /-- A program is said to have exited. -/
  | exit {e : Event α} (pid : Pid) (other : e.suspends = false) : Entry l e (l.exit pid)
  /-- A program was stopped. -/
  | stop (pid : Pid) : Entry l (.asked ⟨.signal pid .stop, .ok ()⟩) (l.stop pid)
  /-- A program goes on. -/
  | resume (pid : Pid) : Entry l (.asked ⟨.signal pid .resume, .ok ()⟩) (l.resume pid)
  /-- A program was told to end. -/
  | terminate {e : Event α} (pid : Pid) (other : e.suspends = false) : Entry l e (l.terminate pid)
  /-- A program was released. -/
  | release {e : Event α} (pid : Pid) (other : e.suspends = false) : Entry l e (l.release pid)

/-- Every event enters one of these. -/
theorem entry (l : Ledger) (e : Event α) : l.Entry e (l.event e) := by
  cases e with
  | called c =>
    cases c with
    | exited pid code => exact .exit pid rfl
    | _ => exact .nothing rfl
  | asked x =>
    obtain ⟨request, reply⟩ := x
    cases request with
    | spawn argv statusFd =>
      cases reply with
      | error e => exact .nothing rfl
      | ok pid => exact .launch argv statusFd pid
    | tryWait pid =>
      match reply with
      | .error e => exact .nothing rfl
      | .ok none => exact .nothing rfl
      | .ok (some code) => exact .exit pid rfl
    | signal pid s =>
      match s, reply with
      | .terminate, reply => exact .terminate pid rfl
      | .stop, .error e => exact .nothing rfl
      | .resume, .error e => exact .nothing rfl
      | .stop, .ok () => exact .stop pid
      | .resume, .ok () => exact .resume pid
    | release pid => exact .release pid rfl
    | _ => exact .nothing rfl

/-- Programs that were launched stay so, and so do those that were told to end. -/
theorem event_prefix (l : Ledger) (e : Event α) :
    l.launched <+: (l.event e).launched ∧ l.terminated <+: (l.event e).terminated := by
  have hentry := l.entry e
  generalize l.event e = l' at hentry ⊢
  cases hentry with
  | launch argv statusFd pid =>
    rw [launch_terminated]
    refine ⟨?_, List.prefix_rfl⟩
    unfold launch
    split
    · exact List.prefix_append ..
    · exact List.prefix_rfl
  | exit pid =>
    rw [exit_launched, exit_terminated]
    exact ⟨List.prefix_rfl, List.prefix_rfl⟩
  | terminate => exact ⟨List.prefix_rfl, List.prefix_append ..⟩
  | _ => exact ⟨List.prefix_rfl, List.prefix_rfl⟩

/-- An event that launches no program brings none to life. -/
theorem alive_event_le (l : Ledger) {e : Event α}
    (h : ∀ argv statusFd reply, e ≠ .asked ⟨.spawn argv statusFd, reply⟩) :
    (l.event e).alive.length ≤ l.alive.length := by
  have hentry := l.entry e
  generalize l.event e = l' at hentry ⊢
  cases hentry with
  | launch argv statusFd pid => exact absurd rfl (h argv statusFd (.ok pid))
  | exit pid =>
    unfold exit
    split
    · exact List.erase_sublist.length_le
    · exact Nat.le_refl _
  | terminate => exact List.erase_sublist.length_le
  | _ => exact Nat.le_refl _

/-- Programs that were launched stay so, and so do those that were told to end. -/
theorem events_prefix (l : Ledger) (es : List (Event α)) :
    l.launched <+: (l.events es).launched ∧ l.terminated <+: (l.events es).terminated := by
  induction es generalizing l with
  | nil => exact ⟨List.prefix_rfl, List.prefix_rfl⟩
  | cons e es ih =>
    obtain ⟨hlaunched, hterminated⟩ := l.event_prefix e
    obtain ⟨hlaunched', hterminated'⟩ := ih (l.event e)
    exact ⟨hlaunched.trans hlaunched', hterminated.trans hterminated'⟩

/-- Where nothing was asked for, nothing was launched. -/
theorem ofRecord_of_silent {es : List (Event α)} (h : Event.exchanges es = []) :
    ofRecord es = empty := by
  unfold ofRecord
  induction es with
  | nil => rfl
  | cons e es ih =>
    cases e with
    | called c =>
      have hsame : empty.event (.called c : Event α) = empty := by cases c <;> rfl
      rw [events_cons, hsame]
      exact ih h
    | asked x => cases h

end Ledger

/-- The program that runs at a point, and whether it is stopped. -/
def Point.program? : Point → Option (Pid × Bool)
  | running _ pid stopped => some (pid, stopped)
  | _ => none

/-- The number of the program that runs is that of the program. -/
theorem Point.child?_eq (pt : Point) : pt.child? = pt.program?.map (·.1) := by
  cases pt <;> rfl

/-- What a step can do to the ledger, given the program that runs before and after it. -/
inductive Ledger.Changes (l : Ledger) :
    Option (Pid × Bool) → Ledger → Option (Pid × Bool) → Prop where
  /-- Nothing changes. -/
  | nothing (program : Option (Pid × Bool)) : Changes l program l program
  /-- A program is launched. -/
  | launches {pid : Pid} (positive : 0 < pid) : Changes l none (l.launch pid) (some (pid, false))
  /-- The program is stopped. -/
  | stops (pid : Pid) (stopped : Bool) :
    Changes l (some (pid, stopped)) (l.stop pid) (some (pid, true))
  /-- The program goes on. -/
  | resumes (pid : Pid) : Changes l (some (pid, true)) (l.resume pid) (some (pid, false))
  /-- The program exits. -/
  | exits (pid : Pid) (stopped : Bool) : Changes l (some (pid, stopped)) (l.exit pid) none
  /-- The program is told to end, and released. -/
  | ends (pid : Pid) (stopped : Bool) :
    Changes l (some (pid, stopped)) ((l.terminate pid).release pid) none
  /-- The program goes on, is told to end, and released. -/
  | resumesAndEnds (pid : Pid) :
    Changes l (some (pid, true)) (((l.resume pid).terminate pid).release pid) none

/-- Whatever a step does, the one program that is alive is the one that runs. -/
theorem Ledger.Changes.alive {l l' : Ledger} {program program' : Option (Pid × Bool)}
    (h : l.Changes program l' program') (hl : l.alive = (program.map (·.1)).toList) :
    l'.alive = (program'.map (·.1)).toList := by
  cases h with
  | nothing => exact hl
  | launches positive => simp [Ledger.launch, positive, hl]
  | stops => exact hl
  | resumes => exact hl
  | exits => simp [Ledger.exit, hl]
  | ends => simp [Ledger.terminate, Ledger.release, hl]
  | resumesAndEnds => simp [Ledger.resume, Ledger.terminate, Ledger.release, hl]

namespace Runner

/-- The end of a program is entered as such. -/
theorem EndsProgram.changes {pid : Pid} {stopped : Bool} {ks : List (Exchange α)}
    (h : EndsProgram pid stopped ks) (l : Ledger) :
    l.Changes (some (pid, stopped)) (l.events (ks.map .asked)) none := by
  obtain ⟨resumed, ended, rfl⟩ := h
  cases stopped with
  | false => exact .ends pid false
  | true =>
    cases resumed with
    | ok u => exact .resumesAndEnds pid
    | error e => exact .ends pid true

/-- Every step changes the ledger in one of the ways. -/
theorem Step.changes {config : PostinstallConfig} {plan : InstallPlan} {scheduled : Bool}
    {pt pt' : Point} {es : List (Event α)} (h : Step config plan scheduled pt es pt') {l : Ledger}
    (halive : l.alive = pt.child?.toList) : l.Changes pt.program? (l.events es) pt'.program? := by
  have hother : ∀ (topics : List Topic) {xs : List (Exchange α)}, About topics xs →
      .programs ∉ topics → l.Changes none (l.events (xs.map .asked)) none := by
    intro topics xs hxs hnone
    rw [Ledger.events_of_about hxs hnone]
    exact .nothing none
  cases h with
  | noted c hexits =>
    cases c with
    | exited pid code =>
      -- The program that is said to have exited is not the one that runs.
      have hstale : pid ∉ l.alive := by
        rw [halive, Option.mem_toList]
        exact hexits pid code rfl
      have hsame : l.events [(.called (.exited pid code) : Event α)] = l := if_neg hstale
      rw [hsame]
      exact .nothing _
    | _ => exact .nothing _
  | sourceless => exact .nothing _
  | finishes => exact .nothing _
  | skips => exact .nothing _
  | misplaced => exact .nothing _
  | unmountable _ _ hacquires => exact hother _ (hacquires.about_cons _) (by decide)
  | mounts _ _ hacquires hinspects =>
    exact hother _ (hacquires.about_inspected _ hinspects) (by decide)
  | probed => exact .nothing _
  | sticks => exact .nothing _
  | starts _ _ _ _ _ hpositive => exact .launches hpositive
  | fails _ reply _ _ _ hinvalid =>
    cases reply with
    | error e => exact .nothing _
    | ok pid =>
      have hsame : l.launch pid = l := if_neg (hinvalid pid rfl)
      have hchanges : l.Changes none (l.launch pid) none := by
        rw [hsame]
        exact .nothing none
      exact hchanges
  | attends hattends =>
    rw [Ledger.events_of_attends hattends]
    exact .nothing _
  | suspends => exact .stops _ _
  | resumes => exact .resumes _
  | balks e hkind =>
    rcases hkind with rfl | ⟨rfl, -⟩
    · exact .nothing _
    · exact .nothing _
  | exits hreports =>
    rcases hreports with rfl | rfl
    · exact .exits _ _
    · exact .exits _ _
  | passes share _ _ hus => exact hother _ (hus.about_passed share) (by decide)
  | givesUp => exact .nothing _
  | aborts hfails hkills =>
    obtain ⟨e, rfl | rfl⟩ := hfails
    · exact hkills.changes l
    · exact hkills.changes l
  | cancels hkills => exact hkills.changes l
  | ends hus hss hps => exact hother Topic.ending (about_of_ends hus hss hps) (by decide)
  | unmaps => exact .nothing _

/-- At the beginning of an attempt nothing was launched. -/
theorem Opens.ofRecord_eq {r : Runner} {before : List (Event α)} {c : RunnerCall}
    {plan : InstallPlan} {xs : List (Exchange α)} {scheduled : Bool} {pt : Point}
    (h : Opens r xs scheduled pt) (hsilent : Event.exchanges before = [])
    (hstarts : c.plan? = some plan) :
    Ledger.ofRecord (before ++ .called c :: xs.map .asked) = .empty ∧ pt.program? = none := by
  have hcall : Ledger.empty.event (.called c : Event α) = .empty := by
    cases c with
    | exited => cases hstarts
    | _ => rfl
  have hnone : pt.program? = none := by
    cases h <;> rfl
  rw [Ledger.ofRecord_append, Ledger.ofRecord_of_silent hsilent, Ledger.events_cons, hcall,
    Ledger.events_of_about h.about (by decide)]
  exact ⟨rfl, hnone⟩

/-- The one program that is alive in the record of an attempt is the one that runs. -/
theorem Course.alive {config : PostinstallConfig} {plan : InstallPlan} {scheduled : Bool}
    {es : List (Event α)} {pt : Point} (h : Course config plan scheduled es pt) :
    (Ledger.ofRecord es).alive = pt.child?.toList := by
  induction h with
  | opens hsilent hstarts _ _ hopens =>
    obtain ⟨hempty, hnone⟩ := hopens.ofRecord_eq hsilent hstarts
    rw [hempty, Point.child?_eq, hnone]
    rfl
  | step _ hstep ih =>
    rw [Ledger.ofRecord_append, Point.child?_eq]
    rw [Point.child?_eq] at ih
    exact (hstep.changes (by rw [ih, Point.child?_eq])).alive ih

end Runner

end SlotUpdate
