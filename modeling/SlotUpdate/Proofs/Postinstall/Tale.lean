import SlotUpdate.Proofs.Postinstall.Outcomes
import SlotUpdate.Proofs.Postinstall.Topics
import SlotUpdate.Proofs.Progress.Lines

/-!
# What records tell of progress

A tale is the record of an attempt, read for its reports of progress. `Post` says where an attempt
stands: before a partition, at one, or listening to the program of one, of which certain bytes were
read. `Tale` says which record leads to which post. It keeps the shares that are reported, and
passes over all exchanges that neither report nor lead to another post (`Aside`).

`Told` says that the record of a runner is a tale that leads to where the runner is, with the count
of progress and the line buffer that belong there. The relations of `Transitions` are told step by
step (`Ends.tale`, `Leaves.tale`, `Enters.tale`, `Proceeds.told`, `Begins.told`), so that every
happening goes on with the tale (`Move.told`), and so does every lifetime (`lifetime_told`).
-/

namespace SlotUpdate

variable {α σ : Type}

/-! ## Events -/

/-- Whether an event ends a program for the runner: its exit is reported, or it is told to end. -/
def Event.ends (pid : Pid) : Event α → Bool
  | .called (.exited other _) => other == pid
  | .asked ⟨.tryWait other, .ok (some _)⟩ => other == pid
  | .asked ⟨.signal other .terminate, _⟩ => other == pid
  | _ => false

/-- The reported exit of a program ends it. -/
theorem Event.Reports.ends {e : Event α} {pid : Pid} {code : Int} (h : e.Reports pid code) :
    e.ends pid = true := by
  rcases h with rfl | rfl
  · exact beq_self_eq_true pid
  · exact beq_self_eq_true pid

/-- Whether a request is about no report and no program, whatever the reply is. -/
@[simp]
def Request.isAside : Request α → Bool
  | .mountOptions _ | .spawn _ _ | .readStatus _ _ | .progress _ | .tryWait _ | .signal _ _
  | .complete _ => false
  | _ => true

/-- Whether an exchange reports, or leads an attempt to another post: it begins a partition, starts
or ends a program, reads its status, or delivers the result. -/
@[simp]
def Exchange.isNews : Exchange α → Bool
  | ⟨.spawn _ _, .ok pid⟩ => decide (0 < pid)
  | ⟨.tryWait _, .ok (some _)⟩ | ⟨.signal _ .terminate, _⟩ => true
  | ⟨.mountOptions _, _⟩ | ⟨.readStatus _ _, _⟩ | ⟨.progress _, _⟩ | ⟨.complete _, _⟩ => true
  | _ => false

/-- Exchanges that are no news. -/
def Aside (xs : List (Exchange α)) : Prop := ∀ x ∈ xs, x.isNews = false

namespace Aside

/-- Where nothing is asked there are no news. -/
@[simp]
theorem nil : Aside ([] : List (Exchange α)) := fun _ hx => nomatch hx

/-- The first of several exchanges is no news, nor are the others. -/
@[simp]
theorem cons_iff (x : Exchange α) (xs : List (Exchange α)) :
    Aside (x :: xs) ↔ x.isNews = false ∧ Aside xs := by
  unfold Aside
  exact List.forall_mem_cons

/-- Exchanges after exchanges are no news if both are not. -/
@[simp]
theorem append_iff (xs ys : List (Exchange α)) : Aside (xs ++ ys) ↔ Aside xs ∧ Aside ys := by
  unfold Aside
  exact List.forall_mem_append

/-- Requests that are aside make no news. -/
theorem of_forall {xs : List (Exchange α)} (h : ∀ x ∈ xs, x.request.isAside = true) :
    Aside xs := by
  intro x hx
  have haside := h x hx
  obtain ⟨request, reply⟩ := x
  cases request <;> first | rfl | cases haside

/-- What holds of every exchange that is no news holds of the events. -/
theorem forall_asked {xs : List (Exchange α)} (h : Aside xs) {P : Event α → Prop}
    (hP : ∀ x : Exchange α, x.isNews = false → P (.asked x)) :
    ∀ e ∈ xs.map Event.asked, P e := by
  intro e he
  obtain ⟨x, hx, rfl⟩ := List.mem_map.mp he
  exact hP x (h x hx)

/-- Whether exchanges are aside depends on the requests only. -/
theorem of_requests {xs : List (Exchange α)} {qs : List (Request α)}
    (h : xs.map (·.request) = qs) (hqs : ∀ q ∈ qs, q.isAside = true) : Aside xs := by
  apply of_forall
  intro x hx
  apply hqs
  rw [← h]
  exact List.mem_map_of_mem hx

/-- Mapping, the powerwash, slots and files are no news. -/
theorem of_about {topics : List Topic} {xs : List (Exchange α)} (h : About topics xs)
    (hother : ∀ topic ∈ topics, topic ∈ [Topic.mapping, .powerwash, .slots, .files]) :
    Aside xs := by
  apply of_forall
  intro x hx
  have htopic := hother _ (h x hx)
  obtain ⟨request, reply⟩ := x
  cases request <;> first | rfl | simp at htopic

end Aside

namespace Runner

/-- Unmounting is no news. -/
theorem Unmounts.aside {held : Option ScopedMount} {us : List (Exchange α)}
    (h : Unmounts held us) : Aside us := by
  apply Aside.of_requests h
  cases held with
  | none => simp
  | some m => simp

/-- Finding out whether a path is free is no news. -/
theorem Clears.aside {mountPoint : Path} {cs : List (Exchange α)} {outcome : Except MountError Unit}
    (h : Clears mountPoint cs outcome) : Aside cs := by
  cases h with
  | free => simp
  | cleared => simp
  | unknown => simp
  | stuck => simp

/-- Mounting is no news, once the options are looked up. -/
theorem Acquires.aside {device mountPoint : Path} {filesystem options : String}
    {xs : List (Exchange α)} {outcome : Except MountError ScopedMount}
    (h : Acquires device mountPoint filesystem options xs outcome) : Aside xs := by
  cases h with
  | noDevice => simp
  | noDirectory => simp
  | blocked hclears => simp [hclears.aside]
  | writable _ hclears => simp [hclears.aside]
  | refused _ hclears => simp [hclears.aside]
  | mounted hclears => simp [hclears.aside]

/-- Looking for build properties is no news. -/
theorem Inspects.aside {r : Runner} {is : List (Exchange α)} (h : Inspects r is) : Aside is := by
  apply Aside.of_requests h
  simp

/-- A wait is no news. -/
theorem Waits.aside {x : Exchange α} {pid : Pid} (h : x.Waits pid) : Aside [x] := by
  rcases h with ⟨_, rfl⟩ | rfl | rfl | ⟨_, rfl | rfl⟩ <;> simp

/-- Unmapping the partitions is no news. -/
theorem Unmaps.aside {r : Runner} {us : List (Exchange α)} (h : Unmaps r us) : Aside us := by
  rcases h.eq with rfl | ⟨reply, rfl⟩
  · simp
  · simp

/-! ## Shares -/

/-- The count of progress at the beginning of an attempt: each program to be run counts one. -/
def countOf (plan : InstallPlan) : Aggregator :=
  .ofWeights (plan.partitions.map fun p => if runsUnder plan p then 1 else 0)

/-- The count of progress at a place in the plan. -/
def countAt (plan : InstallPlan) : (i : Nat) → Aggregator
  | 0 => countOf plan
  | i + 1 => (countAt plan i).advance

/-- An attempt begins to count at the beginning. -/
theorem atFirstPartition_progress (r : Runner) :
    r.atFirstPartition.progress = countAt r.plan 0 := by
  have hweight : ∀ p : Partition,
      (if isSkipped r.plan p then { p with runs := false } else p).runs = runsUnder r.plan p :=
    effective_runs r.plan
  simp only [atFirstPartition, countAt, countOf, withoutSkipped, List.map_map, Function.comp_def,
    hweight]

variable [ProgressNumber α]

/-- The share of an attempt that is done when the partition at a place is done to a fraction. -/
def shareAt (plan : InstallPlan) (i : Nat) (fraction : α) : α :=
  (countAt plan i).progress (clampFraction fraction)

/-- The report that the partition at a place is done to a fraction. -/
def told (plan : InstallPlan) (i : Nat) (fraction : α) : Exchange α :=
  ⟨.progress (shareAt plan i fraction), ()⟩

/-- What holds of every report of a place holds of all reports of it. -/
theorem forall_reports {plan : InstallPlan} {i : Nat} {P : Event α → Prop}
    (hP : ∀ fraction, P (.asked (told plan i fraction))) (numbers : List α) :
    ∀ e ∈ (numbers.map (told plan i)).map Event.asked, P e := by
  intro e he
  obtain ⟨x, hx, rfl⟩ := List.mem_map.mp he
  obtain ⟨number, -, rfl⟩ := List.mem_map.mp hx
  exact hP number

/-- A runner whose count stands at a place reports of that place. -/
theorem reported_eq {plan : InstallPlan} {r : Runner} {i : Nat} (h : r.progress = countAt plan i)
    (fraction : α) : r.reported fraction = told plan i fraction := by
  unfold reported told shareAt
  rw [h]

/-- The numbers that lines report. -/
def numbersOf (lines : List String) : List α :=
  lines.filterMap fun line => (ProgressLine.read? line).map ProgressNumber.ofLiteral

/-- Lines after lines report their numbers after each other. -/
theorem numbersOf_append (lines lines' : List String) :
    (numbersOf (lines ++ lines') : List α) = numbersOf lines ++ numbersOf lines' := by
  unfold numbersOf
  exact List.filterMap_append

/-- A runner whose count stands at a place reports what lines tell of that place. -/
theorem reports_eq {plan : InstallPlan} {r : Runner} {i : Nat} (h : r.progress = countAt plan i)
    (lines : List String) :
    (r.reports lines : List (Exchange α)) = (numbersOf lines).map (told plan i) := by
  unfold reports numbersOf
  simp only [reported_eq h, List.map_filterMap, Option.map_map]
  rfl

end Runner

/-- The bytes that a turn of reads takes from a status pipe: up to the first read that ends the
turn, which is the first with data if there is to be one only. -/
def takenBytes (once : Bool) : List StatusRead → Bytes
  | [] | .wouldBlock :: _ | .closed :: _ | .failed _ :: _ => []
  | .interrupted :: rest => takenBytes once rest
  | .data bytes :: rest => if once then bytes else bytes ++ takenBytes once rest

namespace Runner

/-- A turn of reads pushes the bytes that it takes. -/
theorem drain_eq_push (once : Bool) (heard : Bytes) (reads : List StatusRead) :
    (drain once (LineBuffer.empty.push heard).buffer reads).buffer =
        (LineBuffer.empty.push (heard ++ takenBytes once reads)).buffer ∧
      (LineBuffer.empty.push heard).lines ++
          (drain once (LineBuffer.empty.push heard).buffer reads).lines =
        (LineBuffer.empty.push (heard ++ takenBytes once reads)).lines := by
  induction reads generalizing heard with
  | nil => simp [drain, takenBytes]
  | cons read rest ih =>
    cases read with
    | closed => simp [drain, takenBytes]
    | interrupted => exact ih heard
    | wouldBlock => simp [drain, takenBytes]
    | failed cause => simp [drain, takenBytes]
    | data bytes =>
      have hpush := LineBuffer.empty.push_append heard bytes
      have hbuffer : ((LineBuffer.empty.push heard).buffer.push bytes).buffer =
          (LineBuffer.empty.push (heard ++ bytes)).buffer := by
        rw [hpush]
        rfl
      have hlines : (LineBuffer.empty.push heard).lines ++
          ((LineBuffer.empty.push heard).buffer.push bytes).lines =
          (LineBuffer.empty.push (heard ++ bytes)).lines := by
        rw [hpush]
        rfl
      cases once with
      | true => exact ⟨hbuffer, hlines⟩
      | false =>
        obtain ⟨ihbuffer, ihlines⟩ := ih (heard ++ bytes)
        unfold drain takenBytes
        simp only [Bool.false_eq_true, if_false]
        rw [← List.append_assoc, ← List.append_assoc, hlines, hbuffer]
        exact ⟨ihbuffer, ihlines⟩

end Runner

/-! ## Tales -/

/-- Where an attempt stands. Partitions are told by their places in the plan. -/
inductive Post where
  /-- At its beginning, before anything was reported. -/
  | opening
  /-- Before a partition, or past the last one. -/
  | toward (i : Nat)
  /-- At a partition whose program does not run, not yet or not any more. -/
  | inside (i : Nat)
  /-- At a partition whose program runs, and of which bytes were read. -/
  | hearing (i : Nat) (pid : Pid) (heard : Bytes)
  /-- At its end. -/
  | finished
  deriving Repr, DecidableEq

/-- The program that runs at a post. -/
def Post.child? : Post → Option Pid
  | hearing _ pid _ => some pid
  | _ => none

namespace Runner

variable [ProgressNumber α]

/-- The record of an attempt that has come to a post. -/
inductive Tale (config : PostinstallConfig) (plan : InstallPlan) :
    List (Event α) → Post → Prop where
  /-- The attempt begins. Calls before it had no effect. -/
  | opens {before : List (Event α)} {c : RunnerCall} (silent : Event.exchanges before = [])
    (starts : c.plan? = some plan) : Tale config plan (before ++ [.called c]) .opening
  /-- A call has no effect. -/
  | noted {es : List (Event α)} {post : Post} (tale : Tale config plan es post) (c : RunnerCall)
    (exits : ∀ pid code, c = .exited pid code → post.child? ≠ some pid) :
    Tale config plan (es ++ [.called c]) post
  /-- Something is asked that is no news. -/
  | aside {es : List (Event α)} {post : Post} {xs : List (Exchange α)}
    (tale : Tale config plan es post) (noNews : Aside xs) :
    Tale config plan (es ++ xs.map .asked) post
  /-- The first partition is next. -/
  | sets {es : List (Event α)} (tale : Tale config plan es .opening) :
    Tale config plan (es ++ [.asked (told plan 0 ProgressNumber.zero)]) (.toward 0)
  /-- There is nothing to do at a partition. -/
  | skips {es : List (Event α)} {i : Nat} {p : Partition} (tale : Tale config plan es (.toward i))
    (current : plan.partitions[i]? = some p) (idle : runsUnder plan p = false)
    (noProgram : p.program = "") : Tale config plan es (.toward (i + 1))
  /-- A partition is to be mounted. -/
  | comes {es : List (Event α)} {i : Nat} {p : Partition} (tale : Tale config plan es (.toward i))
    (current : plan.partitions[i]? = some p) (mounted : isMounted config plan p = true)
    (options : String) :
    Tale config plan (es ++ [.asked ⟨.mountOptions p.name, options⟩]) (.inside i)
  /-- A partition whose program does not run is done. -/
  | probed {es : List (Event α)} {i : Nat} {p : Partition} (tale : Tale config plan es (.inside i))
    (current : plan.partitions[i]? = some p) (idle : runsUnder plan p = false) :
    Tale config plan es (.toward (i + 1))
  /-- The program of a partition starts. -/
  | starts {es : List (Event α)} {i : Nat} {p : Partition} {program : Path} {pid : Pid}
    (tale : Tale config plan es (.inside i)) (current : plan.partitions[i]? = some p)
    (runs : runsUnder plan p = true) (path : programPath config.mountDir p.program = .ok program)
    (positive : 0 < pid) :
    Tale config plan
      (es ++ [.asked ⟨.spawn (launchArguments config plan program) config.statusFd, .ok pid⟩])
      (.hearing i pid [])
  /-- The status of the program is read, and what its new lines tell is reported. -/
  | hears {es : List (Event α)} {i : Nat} {pid : Pid} {heard : Bytes} {lines : List String}
    (tale : Tale config plan es (.hearing i pid heard)) (once : Bool) (reads : List StatusRead)
    (new : LineBuffer.keptLines heard ++ lines =
      LineBuffer.keptLines (heard ++ takenBytes once reads)) :
    Tale config plan
      (es ++ ((⟨.readStatus pid once, reads⟩ : Exchange α) ::
        (numbersOf lines).map (told plan i)).map .asked)
      (.hearing i pid (heard ++ takenBytes once reads))
  /-- The program ends. -/
  | ends {es : List (Event α)} {i : Nat} {pid : Pid} {heard : Bytes} {e : Event α}
    (tale : Tale config plan es (.hearing i pid heard)) (ends : e.ends pid = true) :
    Tale config plan (es ++ [e]) (.inside i)
  /-- A partition is left, and the next one is reported. -/
  | leaves {es : List (Event α)} {i : Nat} (tale : Tale config plan es (.inside i)) :
    Tale config plan (es ++ [.asked (told plan (i + 1) ProgressNumber.zero)]) (.toward (i + 1))
  /-- The attempt ends past the last partition, or without a source of the payload. -/
  | finishes {es : List (Event α)} {i : Nat} (tale : Tale config plan es (.toward i))
    (past : plan.partitions[i]? = none ∨ plan.downloadUrl = "") (c : ErrorCode) :
    Tale config plan (es ++ [.asked ⟨.complete c, ()⟩]) .finished
  /-- The attempt fails. -/
  | fails {es : List (Event α)} {post : Post} (tale : Tale config plan es post)
    (alone : post.child? = none) {c : ErrorCode} (failure : c.isSuccess = false) :
    Tale config plan (es ++ [.asked ⟨.complete c, ()⟩]) .finished

/-! ## Runners on a tale -/

/-- A runner works on a plan, and its count of progress stands at its current partition. -/
structure Counts (config : PostinstallConfig) (plan : InstallPlan) (r : Runner) : Prop where
  /-- It has the settings. -/
  settings : r.config = config
  /-- It works on the plan. -/
  works : r.plan = withoutSkipped plan
  /-- Its count stands at its current partition. -/
  counted : r.progress = countAt plan r.cursor

/-- The post at which a runner is between happenings. -/
inductive Listens (config : PostinstallConfig) (plan : InstallPlan) : Post → Runner → Prop where
  /-- The runner waits for a program, and knows the beginning of its next line. -/
  | hearing {r : Runner} {c : RunningChild} {heard : Bytes} (counts : Counts config plan r)
    (child : r.child = some c) (lines : r.lines = (LineBuffer.empty.push heard).buffer) :
    Listens config plan (.hearing r.cursor c.pid heard) r
  /-- The attempt has ended. -/
  | finished {r : Runner} {c : ErrorCode} (child : r.child = none) (result : r.result = some c) :
    Listens config plan .finished r

/-- A record is a tale that leads to the post at which a runner is. -/
def Tells (config : PostinstallConfig) (plan : InstallPlan) (es : List (Event α)) (r : Runner) :
    Prop := ∃ post, Tale config plan es post ∧ Listens config plan post r

/-- A record is a tale that leads past a partition, or to the post at which a runner is. -/
def TellsOn (config : PostinstallConfig) (plan : InstallPlan) (es : List (Event α)) (i : Nat) :
    Runner × Bool → Prop
  | (r, true) => Tale config plan es (.toward (i + 1)) ∧ r.lines = .empty
  | (r, false) => Tells config plan es r

variable {config : PostinstallConfig} {plan : InstallPlan} {es : List (Event α)}

omit [ProgressNumber α] in
/-- One partition further the count still stands at the current partition. -/
theorem Further.counts {r r' : Runner} (h : Further r r') (hr : Counts config plan r) :
    Counts config plan r' where
  settings := h.config.trans hr.settings
  works := h.plan.trans hr.works
  counted := by
    rw [h.progress, h.cursor, hr.counted]
    rfl

omit [ProgressNumber α] in
/-- A failure is settled as a failure. -/
theorem Settles.failure {code c : ErrorCode} {ss : List (Exchange α)} (h : Settles plan code ss c)
    (hcode : code.isSuccess = false) : c.isSuccess = false := by
  have hne : code ≠ .success := by
    rintro rfl
    cases hcode
  unfold Settles at h
  rw [if_neg hne] at h
  rwa [h.2]

/-- A tale goes on with what is no news, and then with an event. -/
theorem Tale.aside_concat {post : Post} {xs : List (Exchange α)} (h : Tale config plan es post)
    (hxs : Aside xs) {x : Exchange α} {post' : Post}
    (hx : ∀ {fs}, Tale config plan fs post → Tale config plan (fs ++ [.asked x]) post') :
    Tale config plan (es ++ (xs ++ [x]).map .asked) post' := by
  have htale := hx (h.aside hxs)
  rwa [List.append_assoc, ← List.map_singleton, ← List.map_append] at htale

/-- The end of an attempt ends its tale. -/
theorem Ends.tells {r r' : Runner} {code : ErrorCode} {xs : List (Exchange α)} {post : Post}
    (h : Ends r code xs r') (hes : Tale config plan es post)
    (hcode : (code.isSuccess = false ∧ post.child? = none) ∨
      ∃ i, post = .toward i ∧ (plan.partitions[i]? = none ∨ plan.downloadUrl = "")) :
    Tells config plan (es ++ xs.map .asked) r' := by
  cases h with
  | @intro us ss ps c hus hss hps =>
    have haside : Aside (us ++ ss ++ ps) := by
      have hss' : Aside ss := .of_about hss.about (by decide)
      have hps' : Aside ps := by
        apply Aside.of_requests hps
        split
        · simp
        · simp
      simp [hus.aside, hss', hps']
    refine ⟨.finished, hes.aside_concat haside ?_, .finished rfl rfl⟩
    intro fs hfs
    rcases hcode with ⟨hfailure, halone⟩ | ⟨i, rfl, hpast⟩
    · exact hfs.fails halone (hss.failure hfailure)
    · exact hfs.finishes hpast c

/-- What is left of a partition after its program goes on with the tale. -/
theorem Leaves.tells {r : Runner} {p : Partition} {code : Int} {xs : List (Exchange α)}
    {out : Runner × Bool} (h : Leaves r p code xs out)
    (hes : Tale config plan es (.inside r.cursor)) (hr : Counts config plan r) :
    TellsOn config plan (es ++ xs.map .asked) r.cursor out := by
  cases h with
  | @goesOn us _ hus =>
    have hcounted : r.passed.progress = countAt plan (r.cursor + 1) := by
      show r.progress.advance = (countAt plan r.cursor).advance
      rw [hr.counted]
    rw [reported_eq hcounted]
    exact ⟨hes.aside_concat hus.aside fun hfs => hfs.leaves, rfl⟩
  | @ends us xs r' _ _ hus hends =>
    have hfailure : (ErrorCode.ofExitCode code).isSuccess = false := by
      unfold ErrorCode.ofExitCode
      split <;> rfl
    have htells := hends.tells (hes.aside hus.aside) (Or.inl ⟨hfailure, rfl⟩)
    rwa [List.append_assoc, ← List.map_append] at htells

/-- Trying to mount a partition leads to it. -/
theorem Mounts.tale {r : Runner} {q : Partition} {ms : List (Exchange α)} {i : Nat}
    {outcome : Except MountError ScopedMount} (h : Mounts r (effective plan q) ms outcome)
    (hes : Tale config plan es (.toward i)) (hcurrent : plan.partitions[i]? = some q)
    (hmounted : isMounted config plan q = true) :
    Tale config plan (es ++ ms.map .asked) (.inside i) := by
  cases h with
  | @intro options xs _ hacquires =>
    have htale := (hes.comes hcurrent hmounted options).aside hacquires.aside
    rw [effective_name]
    rwa [List.append_assoc] at htale

/-- Entering a partition goes on with the tale. -/
theorem Enters.tells {r : Runner} {q : Partition} {xs : List (Exchange α)} {out : Runner × Bool}
    (h : Enters r (effective plan q) xs out) (hes : Tale config plan es (.toward r.cursor))
    (hr : Counts config plan r) (hlines : r.lines = .empty)
    (hcurrent : plan.partitions[r.cursor]? = some q) :
    TellsOn config plan (es ++ xs.map .asked) r.cursor out := by
  have hsettings : r.config = config := hr.settings
  have hidle : (effective plan q).runs = false → (effective plan q).program ≠ "" →
      isMounted config plan q = true := by
    intro hruns hprogram
    rw [effective_runs] at hruns
    rw [effective_program] at hprogram
    unfold isMounted
    rw [hruns]
    simpa using hprogram
  have hpath : ∀ {program}, (effective plan q).runs = true →
      programPath r.config.mountDir (effective plan q).program = .ok program →
      isMounted config plan q = true := by
    intro program hruns hprogram
    rw [effective_runs] at hruns
    rw [effective_program, hsettings] at hprogram
    unfold isMounted
    rw [if_pos hruns, hprogram]
    rfl
  cases h with
  | skips hruns hprogram =>
    rw [effective_runs] at hruns
    rw [effective_program] at hprogram
    rw [List.map_nil, List.append_nil]
    exact ⟨hes.skips hcurrent hruns hprogram, hlines⟩
  | @probes ms is m hruns hprogram hmounts his =>
    have hinside := hmounts.tale hes hcurrent (hidle hruns hprogram)
    rw [effective_runs] at hruns
    have hrest : Aside (is ++ [⟨.unmount r.config.mountDir, .ok ()⟩]) := by simp [his.aside]
    refine ⟨?_, hlines⟩
    have htale := (hinside.aside hrest).probed hcurrent hruns
    simpa using htale
  | @sticks ms is ls m _ e hruns hprogram hmounts his hleaves =>
    have hinside := hmounts.tale hes hcurrent (hidle hruns hprogram)
    have hrest : Aside (is ++ [⟨.unmount r.config.mountDir, .error e⟩]) := by simp [his.aside]
    have htells : TellsOn config plan _ r.cursor out := hleaves.tells (r := r.probed)
      (hinside.aside hrest) ⟨hr.settings, hr.works, hr.counted⟩
    simpa using htells
  | @misplaced e _ _ hruns _ hends =>
    have hfailure : e.errorCode.isSuccess = false := by cases e <;> rfl
    exact hends.tells hes (Or.inl ⟨hfailure, rfl⟩)
  | @unmountable e ms xs r' hprobed hprogram hmounts hends =>
    have hfailure : e.errorCode.isSuccess = false := by cases e <;> rfl
    have hmounted : isMounted config plan q = true := by
      cases hruns : (effective plan q).runs with
      | false => exact hidle hruns (hprobed hruns)
      | true =>
        obtain ⟨program, hok⟩ := hprogram hruns
        exact hpath hruns hok
    have hinside := hmounts.tale hes hcurrent hmounted
    have htells := hends.tells hinside (Or.inl ⟨hfailure, rfl⟩)
    rwa [List.append_assoc, ← List.map_append] at htells
  | @starts program ms is ls m r' hruns hprogram hmounts his hls =>
    have hinside := (hmounts.tale hes hcurrent (hpath hruns hprogram)).aside his.aside
    rw [effective_runs] at hruns
    rw [effective_program, hsettings] at hprogram
    cases hls with
    | runs contents pid reply hpid =>
      have hread : Aside [(⟨.readProgram program, contents⟩ : Exchange α)] := by simp
      have hset : Aside [(⟨.setNonblocking pid, reply⟩ : Exchange α)] := by simp
      have htale := ((hinside.aside hread).starts hcurrent hruns hprogram hpid).aside hset
      have harguments := programArguments_eq (r := r.mounted) hr.settings hr.works program
      have hlistens : Listens config plan (.hearing r.cursor pid [])
          (r.mounted.monitoring ⟨pid, true, reply.isOk⟩) :=
        .hearing (r := r.mounted.monitoring ⟨pid, true, reply.isOk⟩)
          ⟨hr.settings, hr.works, hr.counted⟩ rfl hlines
      refine ⟨_, ?_, hlistens⟩
      have hsame : r.mounted.config = config := hr.settings
      rw [harguments, hsame]
      simpa using htale
  | @fails program ms is ls xs m r' _ hruns hprogram hmounts his hls hleaves =>
    have hinside := (hmounts.tale hes hcurrent (hpath hruns hprogram)).aside his.aside
    have hrest : ∀ {ls : List (Exchange α)}, Aside ls →
        Leaves r.mounted.launching (effective plan q) 1 xs out →
        TellsOn config plan (es ++ (ms ++ is ++ ls ++ xs).map .asked) r.cursor out := by
      intro ls hls hleaves
      have htells : TellsOn config plan _ r.cursor out := hleaves.tells
        (r := r.mounted.launching) (hinside.aside hls) ⟨hr.settings, hr.works, hr.counted⟩
      simpa using htells
    cases hls with
    | refused => exact hrest (by simp) hleaves
    | invalid contents pid hpid => exact hrest (by simpa using hpid) hleaves

/-- Going through the partitions goes on with the tale. -/
theorem Proceeds.tells {r r' : Runner} {xs : List (Exchange α)} (h : Proceeds r xs r')
    (hes : Tale config plan es (.toward r.cursor)) (hr : Counts config plan r)
    (hlines : r.lines = .empty) : Tells config plan (es ++ xs.map .asked) r' := by
  induction h generalizing es with
  | sourceless hsource hends =>
    rw [hr.works] at hsource
    exact hends.tells hes (Or.inr ⟨_, rfl, Or.inr hsource⟩)
  | finishes _ hnone hends =>
    unfold partition? at hnone
    rw [hr.works, withoutSkipped_getElem?, Option.map_eq_none_iff] at hnone
    exact hends.tells hes (Or.inr ⟨_, rfl, Or.inl hnone⟩)
  | passes _ hcurrent henters _ ih =>
    obtain ⟨q, hq, rfl⟩ := partition?_eq_some hr.works hcurrent
    have hfurther := henters.further
    obtain ⟨htale, hlines'⟩ := henters.tells hes hr hlines hq
    rw [← hfurther.cursor] at htale
    have htells := ih htale (hfurther.counts hr) hlines'
    rwa [List.map_append, ← List.append_assoc]
  | stops _ hcurrent henters =>
    obtain ⟨q, hq, rfl⟩ := partition?_eq_some hr.works hcurrent
    exact henters.tells hes hr hlines hq

/-- The beginning of an attempt begins its tale. -/
theorem Begins.tells {r r' : Runner} {xs : List (Exchange α)} (h : Begins (r.planned plan) xs r')
    (hes : Tale config plan es .opening) (hr : IsIdle r) (hsettings : r.config = config) :
    Tells config plan (es ++ xs.map .asked) r' := by
  have hmaps : ∀ {ms : List (Exchange α)} {outcome : Except BootError Unit},
      Maps (r.planned plan) ms outcome → Aside ms := fun h => .of_about h.about (by decide)
  -- Before the first partition nothing but the count differs from the runner at its beginning.
  have hfirst : ∀ {scheduled : Bool} {ms ys : List (Exchange α)}, Aside ms →
      Proceeds { (r.planned plan).atFirstPartition with powerwashScheduled := scheduled } ys r' →
      Tells config plan (es ++ (ms ++ [told plan 0 ProgressNumber.zero] ++ ys).map .asked) r' := by
    intro scheduled ms ys hms hproceeds
    have htale := hes.aside_concat hms fun hfs => hfs.sets
    have hcounted : (r.planned plan).atFirstPartition.progress = countAt plan 0 :=
      atFirstPartition_progress _
    have htells := hproceeds.tells htale ⟨hsettings, rfl, hcounted⟩ hr.lines
    rwa [List.map_append, ← List.append_assoc]
  have hreported : ∀ scheduled : Bool,
      reported { (r.planned plan).atFirstPartition with powerwashScheduled := scheduled }
        (ProgressNumber.zero : α) = told plan 0 ProgressNumber.zero := fun scheduled =>
    reported_eq (atFirstPartition_progress (r.planned plan)) ProgressNumber.zero
  cases h with
  | unmapped hms hends =>
    have htells := hends.tells (hes.aside (hmaps hms)) (Or.inl ⟨rfl, rfl⟩)
    rwa [List.append_assoc, ← List.map_append] at htells
  | unscheduled e hms _ hends =>
    have haside : Aside (_ ++ [(⟨.schedulePowerwash, .error e⟩ : Exchange α)]) :=
      (Aside.append_iff _ _).mpr ⟨hmaps hms, by simp⟩
    have htells := hends.tells (hes.aside haside) (Or.inl ⟨rfl, rfl⟩)
    rwa [List.append_assoc, ← List.map_append] at htells
  | plain hms _ hproceeds =>
    have htells := hfirst (hmaps hms) hproceeds
    rwa [← hreported r.powerwashScheduled] at htells
  | scheduled hms _ hproceeds =>
    have haside : Aside (_ ++ [(⟨.schedulePowerwash, .ok ()⟩ : Exchange α)]) :=
      (Aside.append_iff _ _).mpr ⟨hmaps hms, by simp⟩
    have htells := hfirst haside hproceeds
    rwa [← hreported true] at htells

omit [ProgressNumber α] in
/-- A runner that waits for a program listens to it. -/
theorem Tells.hearing [ProgressNumber α] {r : Runner} {c : RunningChild}
    (h : Tells config plan es r) (hc : r.child = some c) :
    ∃ heard, Tale config plan es (.hearing r.cursor c.pid heard) ∧ Counts config plan r ∧
      r.lines = (LineBuffer.empty.push heard).buffer := by
  obtain ⟨post, htale, hlistens⟩ := h
  cases hlistens with
  | hearing hcounts hchild hlines =>
    obtain rfl := Option.some.inj (hchild.symm.trans hc)
    exact ⟨_, htale, hcounts, hlines⟩
  | finished hchild =>
    rw [hchild] at hc
    cases hc

/-- A program that is made to end ends. -/
theorem Kills.tale {r killed : Runner} {c : RunningChild} {ks : List (Exchange α)} {i : Nat}
    {heard : Bytes} (h : Kills r ks killed) (hc : r.child = some c)
    (hes : Tale config plan es (.hearing i c.pid heard)) :
    Tale config plan (es ++ ks.map .asked) (.inside i) := by
  obtain ⟨resumed, ended, rfl⟩ := h.endsProgram hc
  have hgoesOn : Aside (if r.suspended then [(⟨.signal c.pid .resume, resumed⟩ : Exchange α)]
      else []) := by
    split
    · simp
    · simp
  have hends : (Event.asked (⟨.signal c.pid .terminate, ended⟩ : Exchange α)).ends c.pid = true :=
    beq_self_eq_true c.pid
  have hrelease : Aside [(⟨.release c.pid, ()⟩ : Exchange α)] := by simp
  have htale := ((hes.aside hgoesOn).ends hends).aside hrelease
  simpa using htale

/-- A happening at a runner that has begun goes on with its tale. -/
theorem Move.tells {mayCancel : Bool} {r r' : Runner} {fs : List (Event α)}
    (h : Move mayCancel r fs r') (hes : Tells config plan es r) (hr : Stable (some plan) r) :
    Tells config plan (es ++ fs) r' := by
  have haside : ∀ {xs : List (Exchange α)}, Aside xs →
      Tells config plan (es ++ xs.map .asked) r := by
    intro xs hxs
    obtain ⟨post, htale, hlistens⟩ := hes
    exact ⟨post, htale.aside hxs, hlistens⟩
  cases h with
  | noted c _ hexits =>
    obtain ⟨post, htale, hlistens⟩ := hes
    have hchild : post.child? = r.childPid := by
      cases hlistens with
      | hearing _ child => exact (childPid_eq child).symm
      | finished child => exact (childPid_eq_none child).symm
    rw [← hchild] at hexits
    exact ⟨post, htale.noted c hexits, hlistens⟩
  | begins _ hidle =>
    obtain ⟨hnone, -⟩ := hr.isIdle hidle
    cases hnone
  | waits _ hx => exact haside (Waits.aside hx)
  | @reads c reads hc =>
    obtain ⟨heard, htale, hcounts, hlines⟩ := hes.hearing hc
    obtain ⟨hbuffer, hnew⟩ := drain_eq_push (!c.nonblocking) heard reads
    rw [LineBuffer.lines_push_empty, LineBuffer.lines_push_empty] at hnew
    have hreports : ((r.afterReads c reads).reports
        (drain (!c.nonblocking) r.lines reads).lines : List (Exchange α)) = _ :=
      reports_eq (r := r.afterReads c reads) hcounts.counted _
    rw [hreports, hlines]
    refine ⟨_, htale.hears (!c.nonblocking) reads hnew, ?_⟩
    rw [← hlines] at hbuffer
    let c' : RunningChild := { c with watched := !(drain (!c.nonblocking) r.lines reads).stops }
    exact .hearing (r := r.afterReads c reads) (c := c')
      ⟨hcounts.settings, hcounts.works, hcounts.counted⟩ rfl hbuffer
  | @exits _ e pid code p ls xs out hreports hchild hcurrent hleaves hgoesOn =>
    obtain ⟨c, hc, rfl⟩ := Option.map_eq_some_iff.mp hchild
    obtain ⟨heard, htale, hcounts, -⟩ := hes.hearing hc
    have hon := hleaves.tells (htale.ends hreports.ends) hcounts
    obtain ⟨r₁, goesOn⟩ := out
    cases goesOn with
    | false =>
      obtain ⟨rfl, rfl⟩ := hgoesOn
      simpa [TellsOn] using hon
    | true =>
      have hfurther := hleaves.further
      obtain ⟨htale', hlines'⟩ := hon
      rw [← hfurther.cursor] at htale'
      have htells := Proceeds.tells hgoesOn htale' (hfurther.counts hcounts) hlines'
      simpa using htells
  | @suspends c hc =>
    obtain ⟨heard, htale, hcounts, hlines⟩ := hes.hearing hc
    have hstop : Aside [(⟨.signal c.pid .stop, .ok ()⟩ : Exchange α)] := by simp
    exact ⟨_, htale.aside hstop, .hearing (r := { r with suspended := true })
      ⟨hcounts.settings, hcounts.works, hcounts.counted⟩ hc hlines⟩
  | @resumes c hc =>
    obtain ⟨heard, htale, hcounts, hlines⟩ := hes.hearing hc
    have hgoesOn : Aside [(⟨.signal c.pid .resume, .ok ()⟩ : Exchange α)] := by simp
    exact ⟨_, htale.aside hgoesOn, .hearing (r := { r with suspended := false })
      ⟨hcounts.settings, hcounts.works, hcounts.counted⟩ hc hlines⟩
  | @balks c signal e hc hkind =>
    have hrefused : Aside [(⟨.signal c.pid signal, .error e⟩ : Exchange α)] := by
      rcases hkind with rfl | ⟨rfl, -⟩
      · simp
      · simp
    exact haside hrefused
  | @aborts _ c x xs hc hx _ haborts =>
    obtain ⟨heard, htale, -, -⟩ := hes.hearing hc
    have hwait : Aside [x] := Waits.aside (Or.inr (Or.inr (Or.inr hx)))
    cases haborts with
    | intro hkills hends =>
      have hinside := hkills.tale hc (htale.aside hwait)
      have htells := hends.tells hinside (Or.inl ⟨rfl, rfl⟩)
      simpa using htells
  | cancels _ hbegun hongoing hcancels =>
    obtain ⟨_, -, hrunning⟩ := hr.isRunning_of_result hbegun hongoing
    obtain ⟨c, hc, -⟩ := hrunning.child
    obtain ⟨heard, htale, -, -⟩ := hes.hearing hc
    cases hcancels with
    | intro hkills hus hends =>
      have hinside := (hkills.tale hc htale).aside hus.aside
      have htells := hends.tells hinside (Or.inl ⟨rfl, rfl⟩)
      simpa using htells

/-- The record of a runner is a tale, given the plan of its attempt if one was started. -/
inductive Told (config : PostinstallConfig) :
    Option InstallPlan → List (Event α) → Runner → Prop where
  /-- Nothing was started. -/
  | idle {es : List (Event α)} {r : Runner} (settings : r.config = config)
    (silent : Event.exchanges es = []) : Told config none es r
  /-- The attempt was started. -/
  | begun {plan : InstallPlan} {es : List (Event α)} {r : Runner} (tells : Tells config plan es r) :
    Told config (some plan) es r

/-- Every happening goes on with the tale. -/
theorem Move.told {mayCancel : Bool} {start : Option InstallPlan} {r r' : Runner}
    {fs : List (Event α)} (h : Move mayCancel r fs r') (hes : Told config start es r)
    (hr : Stable start r) : Told config (start.or (Event.firstPlan fs)) (es ++ fs) r' := by
  cases hes with
  | begun htells => exact .begun (h.tells htells hr)
  | idle hsettings hsilent =>
    have hchild : ∀ {c : RunningChild}, r.child ≠ some c := by
      intro c hc
      obtain ⟨_, hnone, -⟩ := hr.isRunning hc
      cases hnone
    cases h with
    | noted c hstarts =>
      rw [hr.or_noted hstarts]
      exact .idle hsettings (by simp [hsilent])
    | begins hstarts hidle hbegins =>
      obtain ⟨-, hidle'⟩ := hr.isIdle hidle
      have htells := hbegins.tells (.opens hsilent hstarts) hidle' hsettings
      rw [List.append_assoc, List.singleton_append] at htells
      simpa [hstarts] using Told.begun htells
    | waits hc => exact absurd hc hchild
    | reads _ hc => exact absurd hc hchild
    | exits _ hpid =>
      obtain ⟨c, hc, -⟩ := Option.map_eq_some_iff.mp hpid
      exact absurd hc hchild
    | suspends hc => exact absurd hc hchild
    | resumes hc => exact absurd hc hchild
    | balks _ hc => exact absurd hc hchild
    | aborts hc => exact absurd hc hchild
    | cancels _ hbegun =>
      have hsome := hr.isSome hbegun
      cases hsome

/-- Every run of happenings goes on with the tale. -/
theorem Moves.told {mayCancel : Bool} {start : Option InstallPlan} {r r' : Runner}
    {fs : List (Event α)} (h : Moves mayCancel r fs r') (hes : Told config start es r)
    (hr : Stable start r) : Told config (start.or (Event.firstPlan fs)) (es ++ fs) r' := by
  induction h generalizing start es with
  | nil r => simpa using hes
  | cons hmove _ ih =>
    have htold := ih (hmove.told hes hr) (hmove.stable hr)
    rwa [Event.firstPlan_append, ← Option.or_assoc, ← List.append_assoc]

/-- The record of any calls on a new runner is a tale. -/
theorem afterCalls_told (config : PostinstallConfig) (cs : List RunnerCall) (p : Platform α σ)
    (s : σ) : Told config (RunnerCall.firstPlan cs) (record p (new config) cs s)
      (afterCalls config cs p s).result := by
  have hnew : Told config none ([] : List (Event α)) (new config) := .idle rfl rfl
  have htold := (afterCalls_moves config cs p s).told hnew (stable_new config)
  rwa [record_firstPlan] at htold

/-- The record of any lifetime is a tale. -/
theorem lifetime_told (config : PostinstallConfig) (cs : List RunnerCall) (p : Platform α σ)
    (s : σ) : Told config (RunnerCall.firstPlan cs) (lifetimeRecord config cs p s)
      (afterLifetime config cs p s).result := by
  obtain ⟨ys, us, hrecord, hmoves, hus, hrests⟩ := afterLifetime_moves config cs p s
  have htold := hmoves.told (afterCalls_told config cs p s) (afterCalls_stable config cs p s)
  rw [Event.firstPlan_map_asked, Option.or_none] at htold
  have hstable := afterLifetime_stable config cs p s
  rw [hrecord, List.map_append, ← List.append_assoc]
  generalize RunnerCall.firstPlan cs = start at htold hstable
  cases htold with
  | idle hsettings hsilent =>
    have hnone : us = [] := by
      unfold Unmaps at hus
      split at hus
      · rename_i hbegun
        cases hstable.isSome hbegun.1
      · exact List.map_eq_nil_iff.mp hus
    rw [hnone, List.map_nil, List.append_nil]
    exact .idle hsettings hsilent
  | begun htells =>
    obtain ⟨post, htale, hlistens⟩ := htells
    exact .begun ⟨post, htale.aside hus.aside, hlistens⟩

end Runner

end SlotUpdate
