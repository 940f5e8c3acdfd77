import SlotUpdate.Proofs.Postinstall.Visits

/-!
# Reports are what each program wrote

Between the launch and the end of a program, what is reported is a function of the bytes that were
read from its own pipe: one share for each line that is kept and tells a number, in order. It does
not matter how the bytes were cut into reads, nor what programs before it had written.

`lifeOf` is the part of a record from a launch to the end of the program, `bytesOf` what was read
from its pipe in there, and `sharesOf` what was reported. `Lives` says of a launch in a tale that
its program has ended, or is the one that is listened to, and that its reports are those of its
bytes so far. It goes on with every step of a tale (`Tale.lives`): a step at another post comes
after the end of the program, and a step of the program itself adds to both sides the same.
-/

namespace SlotUpdate.Runner

variable {α σ : Type}

/-! ## The life of a program -/

/-- The part of what follows the launch of a program in which the program runs. -/
def lifeOf (pid : Pid) (rest : List (Event α)) : List (Event α) := rest.takeWhile (!·.ends pid)

/-- The bytes that are read from the status pipe of a program. -/
def bytesOf (pid : Pid) (es : List (Event α)) : Bytes :=
  es.flatMap fun
    | .asked ⟨.readStatus other once, reads⟩ => if other = pid then takenBytes once reads else []
    | _ => []

/-- The shares that are reported. -/
def sharesOf (es : List (Event α)) : List α :=
  es.filterMap fun
    | .asked ⟨.progress share, _⟩ => some share
    | _ => none

/-- Bytes are read one after the other. -/
@[simp]
theorem bytesOf_append (pid : Pid) (es fs : List (Event α)) :
    bytesOf pid (es ++ fs) = bytesOf pid es ++ bytesOf pid fs := List.flatMap_append

/-- Shares are reported one after the other. -/
@[simp]
theorem sharesOf_append (es fs : List (Event α)) :
    sharesOf (es ++ fs) = sharesOf es ++ sharesOf fs :=
  List.filterMap_append

/-- Once a program has ended its life does not go on. -/
theorem lifeOf_append_of_ended {pid : Pid} {rest : List (Event α)}
    (h : ∃ e ∈ rest, e.ends pid = true) (fs : List (Event α)) :
    lifeOf pid (rest ++ fs) = lifeOf pid rest := by
  obtain ⟨e, he, hends⟩ := h
  unfold lifeOf
  induction rest with
  | nil => cases he
  | cons f rest ih =>
    rw [List.cons_append, List.takeWhile_cons, List.takeWhile_cons]
    cases hf : f.ends pid with
    | true => rfl
    | false =>
      have hmem : e ∈ rest := by
        rcases List.mem_cons.mp he with rfl | hmem
        · rw [hf] at hends
          cases hends
        · exact hmem
      simp [ih hmem]

/-- Until a program ends its life goes on. -/
theorem lifeOf_append {pid : Pid} {rest : List (Event α)} (h : ∀ e ∈ rest, e.ends pid = false)
    (fs : List (Event α)) : lifeOf pid (rest ++ fs) = rest ++ lifeOf pid fs := by
  apply List.takeWhile_append_of_pos
  intro e he
  rw [h e he]
  rfl

/-- A program that has not ended lives to the end of the record. -/
theorem lifeOf_eq_self {pid : Pid} {rest : List (Event α)} (h : ∀ e ∈ rest, e.ends pid = false) :
    lifeOf pid rest = rest := by
  have happend := lifeOf_append h []
  simpa [lifeOf] using happend

/-- The life of a program is what stands before the event that ends it. -/
theorem lifeOf_concat {pid : Pid} {rest : List (Event α)} (h : ∀ e ∈ rest, e.ends pid = false)
    {e : Event α} (he : e.ends pid = true) : lifeOf pid (rest ++ [e]) = rest := by
  rw [lifeOf_append h, lifeOf, List.takeWhile_cons, he]
  exact List.append_nil rest

/-- A program that a record launches: the partition that was visited last is one to be run, and the
program is that of the partition. -/
structure Launched (config : PostinstallConfig) (plan : InstallPlan) (before : List (Event α))
    (argv : List String) (i : Nat) : Prop where
  /-- The partition was visited last. -/
  visited : lastVisited? config plan before = some i
  /-- Its program is to be run, and is what is started. -/
  program : ∃ p program, plan.partitions[i]? = some p ∧ runsUnder plan p = true ∧
    programPath config.mountDir p.program = .ok program ∧
    argv = launchArguments config plan program

variable [ProgressNumber α]

/-- In a part of a record the reports are those of the lines that a program wrote, at a place. -/
def SpeaksLines (plan : InstallPlan) (i : Nat) (pid : Pid) (es : List (Event α)) : Prop :=
  sharesOf es = (numbersOf (LineBuffer.keptLines (bytesOf pid es))).map (shareAt plan i)

/-- For every program that a record launches, the reports from its launch to its end are those of
the lines that it wrote. -/
def ReportsLines (config : PostinstallConfig) (start : Option InstallPlan) (es : List (Event α)) :
    Prop :=
  ∀ before argv statusFd pid rest,
    es = before ++ .asked ⟨.spawn argv statusFd, .ok pid⟩ :: rest → 0 < pid →
    ∃ plan i, start = some plan ∧ Launched config plan before argv i ∧
      SpeaksLines plan i pid (lifeOf pid rest)

/-! ## Along a tale -/

variable {config : PostinstallConfig} {plan : InstallPlan} {es : List (Event α)} {post : Post}

/-- What a post says of a program that was launched, given what was recorded since. -/
inductive Lives (config : PostinstallConfig) (plan : InstallPlan) (before : List (Event α))
    (argv : List String) (pid : Pid) (rest : List (Event α)) : Post → Prop where
  /-- The program has ended. -/
  | ended {post : Post} {i : Nat} (launched : Launched config plan before argv i)
    (dead : ∃ e ∈ rest, e.ends pid = true) (speaks : SpeaksLines plan i pid (lifeOf pid rest)) :
    Lives config plan before argv pid rest post
  /-- The program is listened to. -/
  | running {i : Nat} (launched : Launched config plan before argv i)
    (goesOn : ∀ e ∈ rest, e.ends pid = false) (speaks : SpeaksLines plan i pid rest) :
    Lives config plan before argv pid rest (.hearing i pid (bytesOf pid rest))

namespace Lives

variable {before rest : List (Event α)} {argv : List String} {pid : Pid}

/-- To a program that has ended nothing that follows belongs. -/
theorem of_over {i : Nat} (hlaunched : Launched config plan before argv i)
    (hover : ∃ e ∈ rest, e.ends pid = true) (hspeaks : SpeaksLines plan i pid (lifeOf pid rest))
    (fs : List (Event α)) (post : Post) : Lives config plan before argv pid (rest ++ fs) post := by
  rw [← lifeOf_append_of_ended hover fs] at hspeaks
  obtain ⟨e, he, hends⟩ := hover
  exact .ended hlaunched ⟨e, List.mem_append_left fs he, hends⟩ hspeaks

/-- Where no program is listened to, nothing that follows belongs to one. -/
theorem of_alone (h : Lives config plan before argv pid rest post) (halone : post.child? = none)
    (fs : List (Event α)) (post' : Post) :
    Lives config plan before argv pid (rest ++ fs) post' := by
  cases h with
  | ended hlaunched hover hspeaks => exact of_over hlaunched hover hspeaks fs post'
  | running => cases halone

/-- What neither reads nor reports nor ends the program is passed over. -/
theorem pass (h : Lives config plan before argv pid rest post) {fs : List (Event α)}
    (hends : ∀ pid, post.child? = some pid → ∀ e ∈ fs, e.ends pid = false)
    (hbytes : ∀ pid, bytesOf pid fs = []) (hshares : sharesOf fs = []) :
    Lives config plan before argv pid (rest ++ fs) post := by
  cases h with
  | ended hlaunched hover hspeaks =>
    exact of_over hlaunched hover hspeaks fs post
  | running hlaunched hgoesOn hspeaks =>
    have hsame : bytesOf pid (rest ++ fs) = bytesOf pid rest := by
      rw [bytesOf_append, hbytes, List.append_nil]
    have hgoesOn' : ∀ e ∈ rest ++ fs, e.ends pid = false := by
      intro e he
      rcases List.mem_append.mp he with he | he
      · exact hgoesOn e he
      · exact hends pid rfl e he
    rw [← hsame]
    refine .running hlaunched hgoesOn' ?_
    unfold SpeaksLines at hspeaks ⊢
    rw [sharesOf_append, hshares, List.append_nil, hsame, hspeaks]

end Lives

/-- No program is launched in a part of a record. -/
def Launchless (fs : List (Event α)) : Prop :=
  ∀ argv statusFd pid, 0 < pid → .asked ⟨.spawn argv statusFd, .ok pid⟩ ∉ fs

omit [ProgressNumber α] in
/-- Nothing launches nothing. -/
theorem launchless_nil : Launchless ([] : List (Event α)) := fun _ _ _ _ => List.not_mem_nil

omit [ProgressNumber α] in
/-- An event that is not a launch launches nothing. -/
theorem launchless_singleton {e : Event α}
    (h : ∀ argv statusFd pid, e ≠ .asked ⟨.spawn argv statusFd, .ok pid⟩) : Launchless [e] :=
  fun argv statusFd pid _ hmem => h argv statusFd pid (List.mem_singleton.mp hmem).symm

omit [ProgressNumber α] in
/-- Exchanges that are no news launch nothing, read nothing, report nothing, and end nothing. -/
theorem silent_of_aside {xs : List (Exchange α)} (h : Aside xs) :
    Launchless (xs.map Event.asked) ∧ (∀ pid, bytesOf pid (xs.map Event.asked) = []) ∧
      sharesOf (xs.map Event.asked) = [] ∧
      ∀ pid, ∀ e ∈ xs.map Event.asked, e.ends pid = false := by
  refine ⟨?_, ?_, ?_, ?_⟩
  · intro argv statusFd pid hpositive hmem
    obtain ⟨x, hx, heq⟩ := List.mem_map.mp hmem
    obtain rfl := Event.asked.inj heq
    have hnews := h _ hx
    exact absurd hpositive (of_decide_eq_false hnews)
  · intro pid
    unfold bytesOf
    rw [List.flatMap_eq_nil_iff]
    refine h.forall_asked ?_
    rintro ⟨request, reply⟩ hnews
    cases request with
    | readStatus => cases hnews
    | _ => rfl
  · unfold sharesOf
    rw [List.filterMap_eq_nil_iff]
    refine h.forall_asked ?_
    rintro ⟨request, reply⟩ hnews
    cases request with
    | progress => cases hnews
    | _ => rfl
  · intro pid
    refine h.forall_asked ?_
    rintro ⟨request, reply⟩ hnews
    cases request with
    | tryWait other =>
      rcases reply with e | _ | code
      · rfl
      · rfl
      · cases hnews
    | signal other signal =>
      cases signal with
      | terminate => cases hnews
      | stop => rfl
      | resume => rfl
    | _ => rfl

/-- Reports launch nothing, read nothing, and report their numbers. -/
theorem launchless_reports (plan : InstallPlan) (i : Nat) (numbers : List α) :
    Launchless ((numbers.map (told plan i)).map Event.asked) ∧
      (∀ pid, bytesOf pid ((numbers.map (told plan i)).map Event.asked) = []) ∧
      sharesOf ((numbers.map (told plan i)).map Event.asked) = numbers.map (shareAt plan i) ∧
      ∀ pid, ∀ e ∈ (numbers.map (told plan i)).map Event.asked, e.ends pid = false := by
  refine ⟨?_, ?_, ?_, ?_⟩
  · intro argv statusFd pid _ hmem
    obtain ⟨x, hx, heq⟩ := List.mem_map.mp hmem
    obtain ⟨number, -, rfl⟩ := List.mem_map.mp hx
    cases heq
  · intro pid
    induction numbers with
    | nil => rfl
    | cons number rest ih => exact ih
  · induction numbers with
    | nil => rfl
    | cons number rest ih => exact congrArg (shareAt plan i number :: ·) ih
  · exact fun pid => forall_reports (fun _ => rfl) numbers

/-- What a post says of all programs that a record launches. -/
def AllLive (config : PostinstallConfig) (plan : InstallPlan) (es : List (Event α)) (post : Post) :
    Prop :=
  ∀ before argv statusFd pid rest,
    es = before ++ .asked ⟨.spawn argv statusFd, .ok pid⟩ :: rest → 0 < pid →
    Lives config plan before argv pid rest post

namespace AllLive

variable {fs : List (Event α)}

/-- What launches nothing leaves it to each program what it makes of it. -/
theorem of_launchless (h : AllLive config plan es post) (hfs : Launchless fs) {post' : Post}
    (hgoesOn : ∀ {before argv pid rest}, Lives config plan before argv pid rest post →
      Lives config plan before argv pid (rest ++ fs) post') :
    AllLive config plan (es ++ fs) post' := by
  intro before argv statusFd pid rest heq hpositive
  obtain ⟨rest', rfl, rfl⟩ := split_append_of_not_mem heq (hfs argv statusFd pid hpositive)
  exact hgoesOn (h before argv statusFd pid rest' rfl hpositive)

/-- Where no program is listened to, all of them have ended. -/
theorem of_alone (h : AllLive config plan es post) (halone : post.child? = none)
    (hfs : Launchless fs) (post' : Post) : AllLive config plan (es ++ fs) post' :=
  h.of_launchless hfs fun hlives => hlives.of_alone halone fs post'

/-- A program that is launched where none is listened to is listened to from then on. -/
theorem launch (h : AllLive config plan es post) (halone : post.child? = none)
    {argv : List String} {i : Nat} (hlaunched : Launched config plan es argv i) (statusFd : Int)
    (pid : Pid) :
    AllLive config plan (es ++ [.asked ⟨.spawn argv statusFd, .ok pid⟩]) (.hearing i pid []) := by
  intro before argv' statusFd' pid' rest heq hpositive
  rcases List.eq_nil_or_concat rest with rfl | ⟨rest', e, rfl⟩
  · obtain ⟨rfl, hsame⟩ := List.append_inj' heq rfl
    cases hsame
    exact .running hlaunched (fun _ he => nomatch he) rfl
  · rw [List.concat_eq_append, ← List.cons_append, ← List.append_assoc] at heq
    obtain ⟨rfl, -⟩ := List.append_inj' heq rfl
    rw [List.concat_eq_append]
    exact (h before argv' statusFd' pid' rest' rfl hpositive).of_alone halone _ _

end AllLive

/-- A turn of reads adds its bytes, and the reports of the lines that are new. -/
theorem SpeaksLines.hears {i : Nat} {pid : Pid} {lines : List String}
    (h : SpeaksLines plan i pid es) (once : Bool) (reads : List StatusRead)
    (hnew : LineBuffer.keptLines (bytesOf pid es) ++ lines =
      LineBuffer.keptLines (bytesOf pid es ++ takenBytes once reads)) {fs : List (Event α)}
    (hbytes : bytesOf pid fs = takenBytes once reads)
    (hshares : sharesOf fs = (numbersOf lines).map (shareAt plan i)) :
    SpeaksLines plan i pid (es ++ fs) := by
  unfold SpeaksLines at h ⊢
  calc sharesOf (es ++ fs)
      = (numbersOf (LineBuffer.keptLines (bytesOf pid es))).map (shareAt plan i) ++
          (numbersOf lines).map (shareAt plan i) := by rw [sharesOf_append, h, hshares]
    _ = (numbersOf (LineBuffer.keptLines (bytesOf pid es) ++ lines)).map (shareAt plan i) := by
        rw [numbersOf_append, List.map_append]
    _ = (numbersOf (LineBuffer.keptLines (bytesOf pid (es ++ fs)))).map (shareAt plan i) := by
        rw [hnew, bytesOf_append, hbytes]

/-- Along a tale each program that was launched has ended, or is the one that is listened to, and
its reports are those of the lines that it wrote. -/
theorem Tale.lives (h : Tale config plan es post) : AllLive config plan es post := by
  induction h with
  | @opens before' c hsilent =>
    intro before argv statusFd pid rest heq
    have hmem : .asked ⟨.spawn argv statusFd, .ok pid⟩ ∈ before' ++ [(.called c : Event α)] := by
      rw [heq]
      simp
    rcases List.mem_append.mp hmem with hmem | hmem
    · exact absurd hmem (Event.not_mem_of_silent hsilent _)
    · cases List.mem_singleton.mp hmem
  | noted _ c hexits ih =>
    refine ih.of_launchless (launchless_singleton (by rintro _ _ _ ⟨⟩)) fun hlives => ?_
    refine hlives.pass ?_ (fun _ => rfl) rfl
    intro listened hlistened e he
    obtain rfl := List.mem_singleton.mp he
    cases c with
    | exited pid code =>
      show (pid == listened) = false
      rw [beq_eq_false_iff_ne]
      rintro rfl
      exact hexits pid code rfl hlistened
    | _ => rfl
  | aside _ hxs ih =>
    obtain ⟨hlaunchless, hbytes, hshares, hends⟩ := silent_of_aside hxs
    exact ih.of_launchless hlaunchless fun hlives =>
      hlives.pass (fun pid _ => hends pid) hbytes hshares
  | sets _ ih => exact ih.of_alone rfl (launchless_singleton (by rintro _ _ _ ⟨⟩)) _
  | @skips _ i _ _ _ _ _ ih =>
    have hlives := ih.of_alone rfl launchless_nil (.toward (i + 1))
    rwa [List.append_nil] at hlives
  | comes _ _ _ _ ih => exact ih.of_alone rfl (launchless_singleton (by rintro _ _ _ ⟨⟩)) _
  | @probed _ i _ _ _ _ ih =>
    have hlives := ih.of_alone rfl launchless_nil (.toward (i + 1))
    rwa [List.append_nil] at hlives
  | @starts _ _ p program pid htale hcurrent hruns hpath _ ih =>
    exact ih.launch rfl
      ⟨lastVisited?_eq htale.visits, p, program, hcurrent, hruns, hpath, rfl⟩ _ pid
  | @hears es i listened heard lines _ once reads hnew ih =>
    obtain ⟨hlaunchless, hbytes, hshares, hends⟩ :=
      launchless_reports plan i (numbersOf lines : List α)
    have hfs : Launchless (((⟨.readStatus listened once, reads⟩ : Exchange α) ::
        (numbersOf lines).map (told plan i)).map Event.asked) := by
      intro argv statusFd pid hpositive hmem
      rcases List.mem_cons.mp hmem with hmem | hmem
      · cases hmem
      · exact hlaunchless argv statusFd pid hpositive hmem
    refine ih.of_launchless hfs fun {before argv pid rest} hlives => ?_
    cases hlives with
    | ended hlaunched hover hspeaks =>
      exact .of_over hlaunched hover hspeaks _ _
    | running hlaunched hgoesOn hspeaks =>
      have hbytes' : bytesOf listened (((⟨.readStatus listened once, reads⟩ : Exchange α) ::
          (numbersOf lines).map (told plan i)).map Event.asked) = takenBytes once reads := by
        show (if listened = listened then takenBytes once reads else []) ++ bytesOf listened _ = _
        rw [if_pos rfl, hbytes, List.append_nil]
      have hgoesOn' : ∀ e ∈ rest ++ ((⟨.readStatus listened once, reads⟩ : Exchange α) ::
          (numbersOf lines).map (told plan i)).map Event.asked, e.ends listened = false := by
        intro e he
        rcases List.mem_append.mp he with he | he
        · exact hgoesOn e he
        · rcases List.mem_cons.mp he with rfl | he
          · rfl
          · exact hends listened e he
      have hheard : bytesOf listened (rest ++ _) = bytesOf listened rest ++ takenBytes once reads :=
        (bytesOf_append listened rest _).trans (congrArg _ hbytes')
      rw [← hheard]
      exact .running hlaunched hgoesOn' (hspeaks.hears once reads hnew hbytes' hshares)
  | @ends es i listened heard e _ hends ih =>
    have hlaunch : ∀ argv statusFd pid, e ≠ .asked ⟨.spawn argv statusFd, .ok pid⟩ := by
      rintro argv statusFd pid rfl
      cases hends
    refine ih.of_launchless (launchless_singleton hlaunch) fun {before argv pid rest} hlives => ?_
    cases hlives with
    | ended hlaunched hover hspeaks =>
      exact .of_over hlaunched hover hspeaks _ _
    | running hlaunched hgoesOn hspeaks =>
      refine .ended hlaunched ⟨e, by simp, hends⟩ ?_
      rwa [lifeOf_concat hgoesOn hends]
  | leaves _ ih => exact ih.of_alone rfl (launchless_singleton (by rintro _ _ _ ⟨⟩)) _
  | finishes _ _ _ ih => exact ih.of_alone rfl (launchless_singleton (by rintro _ _ _ ⟨⟩)) _
  | fails _ halone _ ih =>
    exact ih.of_alone halone (launchless_singleton (by rintro _ _ _ ⟨⟩)) _

/-- The record of a runner reports what each program wrote. -/
theorem Told.reportsLines {start : Option InstallPlan} {r : Runner} (h : Told config start es r) :
    ReportsLines config start es := by
  intro before argv statusFd pid rest heq hpositive
  cases h with
  | idle _ hsilent =>
    have hmem : Event.asked ⟨.spawn argv statusFd, .ok pid⟩ ∈ es := by
      rw [heq]
      simp
    exact absurd hmem (Event.not_mem_of_silent hsilent _)
  | @begun plan _ _ htells =>
    obtain ⟨post, htale, -⟩ := htells
    cases htale.lives before argv statusFd pid rest heq hpositive with
    | ended hlaunched _ hspeaks => exact ⟨plan, _, rfl, hlaunched, hspeaks⟩
    | running hlaunched hgoesOn hspeaks =>
      rw [← lifeOf_eq_self hgoesOn] at hspeaks
      exact ⟨plan, _, rfl, hlaunched, hspeaks⟩

/-- In every run the reports between the launch and the end of a program are exactly those of the
lines that it wrote to its pipe, whether or not the runner is given up afterwards. -/
theorem reports_spoken_lines (config : PostinstallConfig) (cs : List RunnerCall)
    (p : Platform α σ) (s : σ) :
    ReportsLines config (RunnerCall.firstPlan cs) (record p (new config) cs s) ∧
      ReportsLines config (RunnerCall.firstPlan cs) (lifetimeRecord config cs p s) :=
  ⟨(afterCalls_told config cs p s).reportsLines, (lifetime_told config cs p s).reportsLines⟩

end SlotUpdate.Runner
