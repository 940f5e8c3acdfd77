import SlotUpdate.Proofs.Postinstall.Transitions

/-!
# Steps follow their transitions

Every step of a runner exchanges with the platform what its relation in `Transitions` says, and ends
in the runner that the relation gives. The proofs go from the single steps up to whole calls: a step
that is put together from others follows because its parts do.
-/

namespace SlotUpdate

open SlotUpdate.Action

variable {α : Type}

namespace Runner

/-! ## Single steps -/

/-- Unmounting asks for one unmount. -/
theorem unmount_ensures (m : ScopedMount) :
    (m.unmount : Action α _).Ensures fun xs outcome =>
      (xs = [⟨.unmount m.mountPoint, .ok ()⟩] ∧ outcome = .ok ()) ∨
        ∃ e, xs = [⟨.unmount m.mountPoint, .error e⟩] ∧
          outcome = .error (.unmount m.mountPoint e) := by
  unfold ScopedMount.unmount
  rw [ensures_bind, ensures_request]
  intro reply
  cases reply with
  | ok u => exact Or.inl ⟨rfl, rfl⟩
  | error e => exact Or.inr ⟨e, rfl, rfl⟩

/-- The clean-up unmounts what is held and releases everything. -/
theorem cleanUp_ensures (r : Runner) :
    (r.cleanUp : Action α Runner).Ensures fun xs r' => Unmounts r.mount xs ∧ r' = r.released := by
  unfold cleanUp unmountHeld
  cases hm : r.mount with
  | none => exact ⟨rfl, rfl⟩
  | some m =>
    rw [ensures_bind, ensures_bind]
    refine (unmount_ensures m).mono ?_
    rintro xs outcome (⟨rfl, rfl⟩ | ⟨e, rfl, rfl⟩)
    · exact ⟨rfl, rfl⟩
    · exact ⟨rfl, rfl⟩

/-- The switch of slots follows `SwitchesSlot`. -/
theorem switchSlot_ensures (r : Runner) :
    (r.switchSlot : Action α ErrorCode).Ensures (SwitchesSlot r.plan) := by
  unfold switchSlot
  rw [ensures_bind, ensures_request]
  intro finished
  cases finished with
  | error e => exact .unfinished e
  | ok u =>
    rw [ensures_bind, ensures_request]
    intro activated
    cases activated with
    | error e => exact .refused e
    | ok u =>
      -- What follows the switch changes nothing about it.
      intro warm reply
      cases reply with
      | error e => exact .switched (.error e)
      | ok u => exact .switched (.ok ())

/-- What an attempt does about the slots follows `Settles`. -/
theorem settle_ensures (r : Runner) (code : ErrorCode) :
    (r.settle code : Action α ErrorCode).Ensures (Settles r.plan code) := by
  unfold settle Settles
  split
  · split
    · exact switchSlot_ensures r
    · exact ⟨rfl, rfl⟩
  · exact ⟨rfl, rfl⟩

/-- The conclusion takes back a powerwash as `TakesBack` says. -/
theorem conclude_ensures (r : Runner) (c : ErrorCode) :
    (r.conclude c : Action α Runner).Ensures fun xs r' =>
      TakesBack r c xs ∧
        r' = { r with
          stage := if c.isSuccess then .allComplete else .aborted
          powerwashScheduled := r.powerwashScheduled && c.isSuccess } := by
  unfold conclude TakesBack
  cases hc : c.isSuccess with
  | true => simp
  | false =>
    simp only [Bool.false_eq_true, if_false, ensures_bind, ensures_tell]
    unfold cancelPowerwash
    cases hp : r.powerwashScheduled with
    | false => simp
    | true =>
      rw [if_pos rfl, ensures_bind, ensures_request]
      intro reply
      cases reply with
      | error e => exact ⟨rfl, rfl⟩
      | ok u => exact ⟨rfl, rfl⟩

/-- An attempt without a result ends as `Ends` says. -/
theorem completeAttempt_ensures {r : Runner} (h : r.result = none) (code : ErrorCode) :
    (r.completeAttempt code : Action α Runner).Ensures (Ends r code) := by
  unfold completeAttempt
  rw [h, if_neg (by decide)]
  refine (cleanUp_ensures r).bind ?_
  rintro us r₁ ⟨hus, rfl⟩
  refine (settle_ensures r.released code).bind ?_
  intro ss c hss
  refine (conclude_ensures r.released c).bind ?_
  rintro ps r₂ ⟨hps, rfl⟩
  intro reply
  have hends := Ends.intro hus hss hps
  rw [List.append_assoc, List.append_assoc] at hends
  exact hends

/-- How an attempt ends does not depend on the stage. -/
theorem Ends.of_stage {r r' : Runner} {stage : Stage} {code : ErrorCode} {xs : List (Exchange α)}
    (h : Ends { r with stage := stage } code xs r') : Ends r code xs r' := by
  cases h with
  | intro hus hss hps => exact .intro hus hss hps

/-- Finding out whether a path is free follows `Clears`. -/
theorem ensureUnmounted_ensures (mountPoint : Path) :
    (ensureUnmounted mountPoint : Action α _).Ensures (Clears mountPoint) := by
  unfold ensureUnmounted
  rw [ensures_bind, ensures_request]
  intro found
  match found with
  | .error e => exact .unknown e
  | .ok false => exact .free
  | .ok true =>
    rw [ensures_bind, ensures_tell, ensures_bind, ensures_request]
    intro reply
    cases reply with
    | error e => exact .stuck e
    | ok u => exact .cleared

/-- Mounting a device follows `Acquires`. -/
theorem acquire_ensures (device mountPoint : Path) (filesystem options : String) :
    (ScopedMount.acquire device mountPoint filesystem options : Action α _).Ensures
      (Acquires device mountPoint filesystem options) := by
  unfold ScopedMount.acquire
  rw [ensures_bind, ensures_request]
  intro found
  cases found with
  | false => exact .noDevice
  | true =>
    rw [ensures_bind, ensures_request]
    intro found
    cases found with
    | false => exact .noDirectory
    | true =>
      refine (ensureUnmounted_ensures mountPoint).bind ?_
      intro cs cleared hcs
      cases cleared with
      | error e =>
        have hblocked : Acquires device mountPoint filesystem options _ _ := .blocked hcs
        simpa using hblocked
      | ok u =>
        unfold ScopedMount.mountReadonly
        rw [ensures_bind, ensures_request]
        intro readonly
        cases readonly with
        | error e => exact .writable e hcs
        | ok u =>
          rw [ensures_bind, ensures_request]
          intro reply
          cases reply with
          | error e => exact .refused e hcs
          | ok u => exact .mounted hcs

/-- Mounting a partition follows `Mounts`, and the runner holds what was mounted. -/
theorem mountPartition_ensures (r : Runner) (p : Partition) :
    (r.mountPartition p : Action α _).Ensures fun xs out =>
      (∃ m, Mounts r p xs (.ok m) ∧ out = (r.mounted, .ok ())) ∨
        ∃ e, Mounts r p xs (.error e) ∧ out = (r.mounting, .error e) := by
  unfold mountPartition
  rw [ensures_bind, ensures_request]
  intro options
  refine (acquire_ensures p.readonlyTarget r.config.mountDir p.filesystem options).bind ?_
  intro xs outcome hxs
  cases outcome with
  | error e =>
    have hmounts : Mounts r p (⟨.mountOptions p.name, options⟩ :: xs) (.error e) := .intro hxs
    exact Or.inr ⟨e, by simpa using hmounts, rfl⟩
  | ok m =>
    have hm : m = ⟨r.config.mountDir⟩ := by
      cases hxs
      rfl
    have hmounts : Mounts r p (⟨.mountOptions p.name, options⟩ :: xs) (.ok m) := .intro hxs
    subst hm
    exact Or.inl ⟨_, by simpa using hmounts, rfl⟩

/-- Looking for build properties asks for one file after the other. -/
theorem logBuildInfo_ensures (r : Runner) (name : String) (files : List Path) :
    (r.logBuildInfo name files : Action α Unit).Ensures fun xs _ =>
      xs.map (·.request) = files.map fun file => .readText (r.config.mountDir.join file) := by
  induction files with
  | nil => rfl
  | cons file rest ih =>
    unfold logBuildInfo
    rw [ensures_bind, ensures_request]
    intro text
    rw [ensures_bind, ensures_tellAll]
    apply ih.mono
    intro xs _ hxs
    simp [hxs]

/-- The start of a program follows `Launches`. -/
theorem launch_ensures (r : Runner) (p : Partition) (program : Path) :
    (r.launch p program : Action α _).Ensures (Launches r program) := by
  unfold launch
  rw [ensures_bind, ensures_request]
  intro contents
  simp only [ensures_bind, ensures_tell]
  rw [ensures_request]
  intro spawned
  cases spawned with
  | error e => exact .refused contents e
  | ok pid =>
    by_cases hpid : 0 < pid
    · simp only [hpid, if_true]
      rw [ensures_bind, ensures_request]
      intro reply
      cases reply with
      | error e => exact .runs contents pid (.error e) hpid
      | ok u => exact .runs contents pid (.ok ()) hpid
    · simp only [hpid, if_false]
      exact .invalid contents pid hpid

/-- Giving up a partition that was mounted asks for one unmount. -/
theorem releaseMount_ensures (r : Runner) :
    (r.mounted.releaseMount : Action α _).Ensures fun xs out =>
      (xs = [⟨.unmount r.config.mountDir, .ok ()⟩] ∧ out = (r.probed, .ok ())) ∨
        ∃ e, xs = [⟨.unmount r.config.mountDir, .error e⟩] ∧
          out = (r.probed, .error (.unmount r.config.mountDir e)) := by
  unfold releaseMount
  refine (unmount_ensures ⟨r.config.mountDir⟩).bind ?_
  rintro xs outcome (⟨rfl, rfl⟩ | ⟨e, rfl, rfl⟩)
  · exact Or.inl ⟨rfl, rfl⟩
  · exact Or.inr ⟨e, rfl, rfl⟩

/-- Mapping partitions follows `Maps`. -/
theorem mapPartitions_ensures (r : Runner) :
    (r.mapPartitions : Action α _).Ensures (Maps r) := by
  unfold mapPartitions
  rw [ensures_bind, ensures_request]
  intro virtual
  cases virtual with
  | false => exact .needless false (fun h => nomatch h)
  | true =>
    by_cases hneeds : r.needsMapping = true
    · simp only [hneeds]
      exact fun outcome => .asks outcome hneeds
    · simp only [hneeds]
      exact .needless true (fun _ => by simpa using hneeds)

/-- A powerwash is asked for exactly if the plan calls for one. -/
theorem schedulePowerwash_ensures (r : Runner) :
    (r.schedulePowerwash : Action α _).Ensures fun xs out =>
      (r.plan.powerwashRequired = false ∧ xs = [] ∧ out = (r, .ok ())) ∨
        r.plan.powerwashRequired = true ∧
          ((xs = [⟨.schedulePowerwash, .ok ()⟩] ∧
              out = (r.scheduled, .ok ())) ∨
            ∃ e, xs = [⟨.schedulePowerwash, .error e⟩] ∧ out = (r, .error e)) := by
  unfold schedulePowerwash
  cases hpowerwash : r.plan.powerwashRequired with
  | false => exact Or.inl ⟨rfl, rfl, rfl⟩
  | true =>
    rw [if_pos rfl, ensures_bind, ensures_request]
    intro reply
    cases reply with
    | error e => exact Or.inr ⟨rfl, Or.inr ⟨e, rfl, rfl⟩⟩
    | ok u => exact Or.inr ⟨rfl, Or.inl ⟨rfl, rfl⟩⟩

/-! ## Signals and the end of a program -/

/-- Stopping a program sends one signal, and the runner remembers a stop that succeeded. -/
theorem suspend_ensures (r : Runner) :
    (r.suspend : Action α _).Ensures fun xs out =>
      (r.child = none ∧ xs = [] ∧ out.1 = r) ∨
        ∃ c, r.child = some c ∧
          ((xs = [⟨.signal c.pid .stop, .ok ()⟩] ∧ out.1 = { r with suspended := true }) ∨
            ∃ e, xs = [⟨.signal c.pid .stop, .error e⟩] ∧ out.1 = r) := by
  unfold suspend
  cases hc : r.child with
  | none => exact Or.inl ⟨rfl, rfl, rfl⟩
  | some c =>
    rw [ensures_bind, ensures_request]
    intro reply
    cases reply with
    | error e => exact Or.inr ⟨c, rfl, Or.inr ⟨e, rfl, rfl⟩⟩
    | ok u => exact Or.inr ⟨c, rfl, Or.inl ⟨rfl, rfl⟩⟩

/-- Letting a program go on sends one signal if it is stopped, and none otherwise. -/
theorem resume_ensures (r : Runner) :
    (r.resume : Action α _).Ensures fun xs out =>
      ((r.child = none ∨ r.suspended = false) ∧ xs = [] ∧ out.1 = r) ∨
        ∃ c, r.child = some c ∧ r.suspended = true ∧
          ((xs = [⟨.signal c.pid .resume, .ok ()⟩] ∧ out.1 = { r with suspended := false }) ∨
            ∃ e, xs = [⟨.signal c.pid .resume, .error e⟩] ∧ out.1 = r) := by
  unfold resume
  cases hc : r.child with
  | none => exact Or.inl ⟨Or.inl rfl, rfl, rfl⟩
  | some c =>
    cases hs : r.suspended with
    | false => exact Or.inl ⟨Or.inr rfl, rfl, rfl⟩
    | true =>
      simp only [Bool.not_true, Bool.false_eq_true, if_false]
      rw [ensures_bind, ensures_request]
      intro reply
      cases reply with
      | error e => exact Or.inr ⟨c, rfl, trivial, Or.inr ⟨e, rfl, rfl⟩⟩
      | ok u => exact Or.inr ⟨c, rfl, trivial, Or.inl ⟨rfl, rfl⟩⟩

/-- A program is sent the signal to end and is forgotten. -/
theorem endProgram_ensures (pid : Pid) :
    (endProgram pid : Action α Unit).Ensures fun xs _ =>
      ∃ reply, xs = [⟨.signal pid .terminate, reply⟩, ⟨.release pid, ()⟩] := by
  unfold endProgram
  rw [ensures_bind, ensures_request]
  intro reply
  cases reply with
  | error e => exact fun _ => ⟨.error e, rfl⟩
  | ok u => exact fun _ => ⟨.ok (), rfl⟩

/-- A stopped program is let go on before it is ended, and no other program is. -/
theorem resumeForKill_ensures {r : Runner} {c : RunningChild} (hc : r.child = some c) :
    (r.resumeForKill : Action α Runner).Ensures fun xs r' =>
      (r.suspended = false ∧ xs = [] ∧ r' = r) ∨
        r.suspended = true ∧
          ((xs = [⟨.signal c.pid .resume, .ok ()⟩] ∧ r' = { r with suspended := false }) ∨
            ∃ e, xs = [⟨.signal c.pid .resume, .error e⟩] ∧ r' = r) := by
  unfold resumeForKill
  cases hs : r.suspended with
  | false => exact Or.inl ⟨rfl, rfl, rfl⟩
  | true =>
    rw [if_pos rfl]
    refine (resume_ensures r).bind ?_
    rintro xs ⟨r₁, outcome⟩ h
    have hxs : (xs = [⟨.signal c.pid .resume, .ok ()⟩] ∧ r₁ = { r with suspended := false }) ∨
        ∃ e, xs = [⟨.signal c.pid .resume, .error e⟩] ∧ r₁ = r := by
      rw [hs] at h
      simpa [hc] using h
    cases outcome with
    | error e =>
      refine Or.inr ⟨rfl, ?_⟩
      simpa using hxs
    | ok u =>
      refine Or.inr ⟨rfl, ?_⟩
      simpa using hxs

/-- The end of a program follows `Kills`. -/
theorem killChild_ensures (r : Runner) : (r.killChild : Action α Runner).Ensures (Kills r) := by
  unfold killChild
  cases hc : r.child with
  | none => exact .nothing hc
  | some c =>
    refine (resumeForKill_ensures hc).bind ?_
    intro xs r₁ hxs
    refine (endProgram_ensures c.pid).bind ?_
    rintro ys _ ⟨reply, rfl⟩
    rcases hxs with ⟨hs, rfl, rfl⟩ | ⟨hs, ⟨rfl, rfl⟩ | ⟨e, rfl, rfl⟩⟩
    · exact .going c reply hc hs
    · exact .resumed c reply hc hs
    · exact .stuck c e reply hc hs

/-! ## Partitions -/

variable [ProgressNumber α]

/-- A report of progress is one exchange. -/
theorem reportProgress_ensures (r : Runner) (fraction : α) :
    (r.reportProgress fraction).Ensures fun xs _ => xs = [r.reported fraction] := by
  unfold reportProgress
  exact fun _ => rfl

/-- The end of a partition follows `Leaves`. -/
theorem leavePartition_ensures {r : Runner} (h : r.result = none) (p : Partition) (code : Int)
    (message : String) :
    (r.leavePartition p code message : Action α _).Ensures (Leaves r p code) := by
  unfold leavePartition
  refine (cleanUp_ensures _).bind ?_
  rintro us r₁ ⟨hus, rfl⟩
  rw [ensures_bind, ensures_tellAll]
  split
  · rename_i hpasses
    have hpasses' : code = 0 ∨ p.optional = true := by simpa using hpasses
    exact fun _ => .goesOn hpasses' hus
  · rename_i hfails
    have hfails' : code ≠ 0 ∧ p.optional = false := by simpa using hfails
    refine (completeAttempt_ensures (r := { r with stage := .partitionComplete }.released) h
      (.ofExitCode code)).bind ?_
    intro xs r' hends
    have hleaves : Leaves r p code (us ++ xs) (r', false) :=
      .ends hfails'.1 hfails'.2 hus hends.of_stage
    simpa using hleaves

/-- A partition whose program does not run follows `Enters`. -/
theorem probePartition_ensures {r : Runner} {p : Partition} (h : r.result = none)
    (hruns : p.runs = false) (hprogram : p.program ≠ "") :
    (r.probePartition p : Action α _).Ensures (Enters r p) := by
  unfold probePartition
  rw [ensures_bind, ensures_tell]
  refine (mountPartition_ensures r p).bind ?_
  rintro ms out (⟨m, hms, rfl⟩ | ⟨e, hms, rfl⟩)
  · refine (logBuildInfo_ensures _ _ _).bind ?_
    intro is _ his
    refine (releaseMount_ensures r).bind ?_
    rintro us out (⟨rfl, rfl⟩ | ⟨e, rfl, rfl⟩)
    · have henters : Enters r p _ _ := .probes hruns hprogram hms his
      simpa using henters
    · refine (leavePartition_ensures (r := r.probed) h p 1 _).mono ?_
      intro ls out hleaves
      have henters : Enters r p _ _ := .sticks e hruns hprogram hms his hleaves
      simpa using henters
  · simp only [ensures_bind, ensures_tell]
    refine (completeAttempt_ensures (r := r.mounting) h e.errorCode).mono ?_
    intro xs r' hends
    have henters : Enters r p _ _ :=
      .unmountable (fun _ => hprogram) (fun hr => by simp [hruns] at hr) hms hends
    simpa using henters

/-- A partition whose program runs follows `Enters`. -/
theorem startPartition_ensures {r : Runner} {p : Partition} (h : r.result = none)
    (hruns : p.runs = true) : (r.startPartition p : Action α _).Ensures (Enters r p) := by
  unfold startPartition
  cases hpath : programPath r.config.mountDir p.program with
  | error e =>
    rw [ensures_bind, ensures_tell]
    refine (completeAttempt_ensures h e.errorCode).bind ?_
    intro xs r' hends
    have henters : Enters r p _ _ := .misplaced hruns hpath hends
    simpa using henters
  | ok program =>
    refine (mountPartition_ensures r p).bind ?_
    rintro ms out (⟨m, hms, rfl⟩ | ⟨e, hms, rfl⟩)
    · refine (logBuildInfo_ensures _ _ _).bind ?_
      intro is _ his
      refine (launch_ensures r.mounted p program).bind ?_
      rintro ls ⟨r₁, runs⟩ hls
      cases runs with
      | true =>
        have henters : Enters r p _ _ := .starts hruns hpath hms his hls
        simpa using henters
      | false =>
        have hresult : r₁.result = none := by
          cases hls with
          | refused => exact h
          | invalid => exact h
        refine (leavePartition_ensures hresult p 1 _).mono ?_
        intro xs out hleaves
        have henters : Enters r p _ _ := .fails hruns hpath hms his hls hleaves
        simpa using henters
    · simp only [ensures_bind, ensures_tell]
      refine (completeAttempt_ensures (r := r.mounting) h e.errorCode).mono ?_
      intro xs r' hends
      have henters : Enters r p _ _ :=
        .unmountable (fun hr => by simp [hruns] at hr) (fun _ => ⟨program, hpath⟩) hms hends
      simpa using henters

/-- Dealing with a partition up to the start of its program follows `Enters`. -/
theorem enterPartition_ensures {r : Runner} (h : r.result = none) (p : Partition) :
    (r.enterPartition p : Action α _).Ensures (Enters r p) := by
  unfold enterPartition
  split
  · rename_i hruns
    exact startPartition_ensures h hruns
  · rename_i hruns
    have hruns' : p.runs = false := by simpa using hruns
    split
    · rename_i hprogram
      exact .skips hruns' hprogram
    · rename_i hprogram
      exact probePartition_ensures h hruns' hprogram

/-- Going through the partitions from the current one on follows `Proceeds`. -/
theorem runPartitions_ensures {r : Runner} (h : r.result = none)
    (source : r.plan.downloadUrl ≠ "") {ps : List Partition}
    (hps : r.plan.partitions.drop r.cursor = ps) :
    (r.runPartitions ps : Action α _).Ensures (Proceeds r) := by
  induction ps generalizing r with
  | nil =>
    have hnone : r.partition? = none := by
      unfold partition?
      rw [← List.head?_drop, hps]
      rfl
    refine (completeAttempt_ensures h .success).mono ?_
    intro xs r' hends
    exact .finishes source hnone hends
  | cons p rest ih =>
    have hcurrent : r.partition? = some p := by
      unfold partition?
      rw [← List.head?_drop, hps]
      rfl
    unfold runPartitions
    refine (enterPartition_ensures h p).bind ?_
    rintro xs ⟨r₁, goesOn⟩ hxs
    cases goesOn with
    | false =>
      have hproceeds : Proceeds r xs r₁ := .stops source hcurrent hxs
      simpa using hproceeds
    | true =>
      -- The list of partitions keeps step with the cursor.
      have hfurther := hxs.further
      have hrest : r₁.plan.partitions.drop r₁.cursor = rest := by
        rw [hfurther.plan, hfurther.cursor, ← List.tail_drop, hps]
        rfl
      refine (ih (hfurther.result.trans h) (hfurther.plan ▸ source) hrest).mono ?_
      intro ys r' hys
      exact .passes source hcurrent hxs hys

/-- The way through the partitions that are left follows `Proceeds`. -/
theorem proceed_ensures {r : Runner} (h : r.result = none) :
    (r.proceed : Action α _).Ensures (Proceeds r) := by
  unfold proceed
  split
  · rename_i source
    rw [ensures_bind, ensures_tell]
    refine (completeAttempt_ensures h .success).mono ?_
    intro xs r' hends
    exact .sourceless source hends
  · rename_i source
    exact runPartitions_ensures h source rfl

/-! ## Attempts -/

/-- The beginning of an attempt follows `Begins`. -/
theorem begin_ensures {r : Runner} (h : r.result = none) :
    (r.begin : Action α _).Ensures (Begins r) := by
  unfold begin
  refine (mapPartitions_ensures r).bind ?_
  rintro ms (e | u) hms
  · rw [ensures_bind, ensures_tell]
    refine (completeAttempt_ensures h .postInstallMountError).mono ?_
    intro xs r' hends
    exact .unmapped hms hends
  · refine (schedulePowerwash_ensures r).bind ?_
    rintro ps out (⟨hpowerwash, rfl, rfl⟩ | ⟨hpowerwash, ⟨rfl, rfl⟩ | ⟨e, rfl, rfl⟩⟩)
    · rw [ensures_bind, ensures_tellAll]
      refine (reportProgress_ensures _ (ProgressNumber.zero : α)).bind ?_
      rintro _ _ rfl
      refine (proceed_ensures (r := r.atFirstPartition) h).mono ?_
      intro xs r' hxs
      have hbegins := Begins.plain hms hpowerwash hxs
      simpa using hbegins
    · rw [ensures_bind, ensures_tellAll]
      refine (reportProgress_ensures _ (ProgressNumber.zero : α)).bind ?_
      rintro _ _ rfl
      refine (proceed_ensures (r := r.scheduled.atFirstPartition) h).mono ?_
      intro xs r' hxs
      have hbegins := Begins.scheduled hms hpowerwash hxs
      simpa using hbegins
    · rw [ensures_bind, ensures_tell]
      refine (completeAttempt_ensures h .postinstallPowerwashError).mono ?_
      intro xs r' hends
      have hbegins := Begins.unscheduled (r := r) e hms hpowerwash hends
      simpa using hbegins

end Runner

end SlotUpdate
