import SlotUpdate.Proofs.Postinstall.Agreement
import SlotUpdate.Rehearsal.Memory

/-!
# Attempts refine their reference

An attempt that is not cancelled ends with the result that its outcomes are assigned. `AtPartition`
and `AtProgram` relate a runner to the part of the reference that is left: passing a partition takes
its verdict off the fold, so the relation is kept from partition to partition (`Proceeds.follows`).
`Follows` puts them together, and every happening keeps it (`Move.follows`), whether it has to do
with the attempt or not.
-/

namespace SlotUpdate

variable {α σ : Type}

namespace Runner

variable {o : Outcomes} {config : PostinstallConfig} {plan : InstallPlan}

/-! ## Relating a runner to the reference -/

/-- A runner before a partition, at a spot of its plan, whose attempt is to end with `code`. -/
structure AtPartition (o : Outcomes) (config : PostinstallConfig) (plan : InstallPlan)
    (code : ErrorCode) (t : Spot) (r : Runner) : Prop where
  /-- The settings of the runner. -/
  settings : r.config = config
  /-- The runner stands before a partition. -/
  ready : IsReady plan r
  /-- There is a source of the payload. -/
  source : plan.downloadUrl ≠ ""
  /-- The spot is before the current partition. -/
  ahead : t.ahead = mountedPlaces config plan r.cursor (plan.partitions.drop r.cursor)
  /-- Nothing is mounted. -/
  held : t.held = false
  /-- The partitions that are left decide on the result. -/
  left : o.fold config plan r.cursor (plan.partitions.drop r.cursor) = code

/-- A runner that waits for a program, at a spot of its plan, whose attempt is to end with
`code`. -/
structure AtProgram (o : Outcomes) (config : PostinstallConfig) (plan : InstallPlan)
    (code : ErrorCode) (t : Spot) (r : Runner) : Prop where
  /-- The settings of the runner. -/
  settings : r.config = config
  /-- The spot is at the current partition. -/
  place : t.place = r.cursor
  /-- The next partitions are ahead. -/
  ahead : t.ahead = mountedPlaces config plan (r.cursor + 1) (plan.partitions.drop (r.cursor + 1))
  /-- Only the exit code is left to decide on the current partition. -/
  verdict : ∀ p, plan.partitions[r.cursor]? = some p → o.verdict? config plan r.cursor p =
    if (o.partition r.cursor).exit = 0 then none
    else p.failure? (.ofExitCode (o.partition r.cursor).exit)
  /-- The current partition and those that are left decide on the result. -/
  left : o.fold config plan r.cursor (plan.partitions.drop r.cursor) = code

/-- A runner follows its reference: it waits for its start or for a program, and is to end with
`code`, or it has ended with it. -/
inductive Follows (o : Outcomes) (config : PostinstallConfig) (plan : InstallPlan)
    (code : ErrorCode) (t : Spot) (r : Runner) : Prop where
  /-- The runner waits for its start. -/
  | idle (idle : IsIdle r) (settings : r.config = config) (spot : t = .start config plan)
  /-- The runner waits for a program. -/
  | program (child : r.child.isSome = true) (atProgram : AtProgram o config plan code t r)
  /-- The attempt has ended. -/
  | ended (result : r.result = some code)

/-- The current partition is the first of those that are left. -/
theorem drop_cursor {r : Runner} {p : Partition} (h : plan.partitions[r.cursor]? = some p) :
    plan.partitions.drop r.cursor = p :: plan.partitions.drop (r.cursor + 1) := by
  obtain ⟨hlt, rfl⟩ := List.getElem?_eq_some_iff.mp h
  exact List.drop_eq_getElem_cons hlt

/-- The current partition has a verdict, or the partitions after it decide on the result. -/
theorem fold_cursor {r : Runner} {p : Partition} (h : plan.partitions[r.cursor]? = some p) :
    o.fold config plan r.cursor (plan.partitions.drop r.cursor) =
      (o.verdict? config plan r.cursor p).getD
        (o.fold config plan (r.cursor + 1) (plan.partitions.drop (r.cursor + 1))) := by
  rw [drop_cursor h]
  rfl

/-- A verdict on the current partition decides on the result. -/
theorem AtPartition.code_eq {code : ErrorCode} {t : Spot} {r : Runner}
    (h : AtPartition o config plan code t r) {q : Partition}
    (hq : plan.partitions[r.cursor]? = some q) {c : ErrorCode}
    (hverdict : o.verdict? config plan r.cursor q = some c) : c = code := by
  have hleft := h.left
  rwa [fold_cursor hq, hverdict] at hleft

/-- Without a verdict on the current partition, the next runner stands before the next one. -/
theorem AtPartition.next {code : ErrorCode} {t t' : Spot} {r r' : Runner}
    (h : AtPartition o config plan code t r) {q : Partition}
    (hq : plan.partitions[r.cursor]? = some q)
    (hverdict : o.verdict? config plan r.cursor q = none) (hfurther : Further r r')
    (hready : IsReady plan r')
    (hahead : t'.ahead = mountedPlaces config plan (r.cursor + 1)
      (plan.partitions.drop (r.cursor + 1)))
    (hheld : t'.held = false) : AtPartition o config plan code t' r' where
  settings := hfurther.config.trans h.settings
  ready := hready
  source := h.source
  ahead := by rw [hfurther.cursor, hahead]
  held := hheld
  left := by
    have hleft := h.left
    rw [fold_cursor hq, hverdict] at hleft
    rw [hfurther.cursor]
    exact hleft

/-- A partition that is mounted at its turn is the next one ahead. -/
theorem AtPartition.ahead_eq {code : ErrorCode} {t : Spot} {r : Runner}
    (h : AtPartition o config plan code t r) {q : Partition}
    (hq : plan.partitions[r.cursor]? = some q) :
    t.ahead = if isMounted config plan q then
      r.cursor :: mountedPlaces config plan (r.cursor + 1) (plan.partitions.drop (r.cursor + 1))
      else mountedPlaces config plan (r.cursor + 1) (plan.partitions.drop (r.cursor + 1)) := by
  rw [h.ahead, drop_cursor hq]
  rfl

/-- Mounting the current partition turns out as its outcomes say. -/
theorem AtPartition.mounts {code : ErrorCode} {t : Spot} {r : Runner}
    (h : AtPartition o config plan code t r) {q : Partition}
    (hq : plan.partitions[r.cursor]? = some q) (hmounted : isMounted config plan q = true)
    {ms : List (Exchange α)} {outcome : Except MountError ScopedMount}
    (hmounts : Mounts r (effective plan q) ms outcome) (hagrees : o.Agrees t ms) :
    (o.partition r.cursor).mounts q.readonlyTarget config.mountDir = outcome.isOk ∧
      o.afterAll t ms = ⟨r.cursor, mountedPlaces config plan (r.cursor + 1)
        (plan.partitions.drop (r.cursor + 1)), outcome.isOk⟩ := by
  have hahead := h.ahead_eq hq
  rw [if_pos hmounted] at hahead
  have hboth := hmounts.agrees hahead h.held hagrees
  rwa [effective_readonlyTarget, h.settings] at hboth

/-- The spot at the current partition, with the next ones ahead. -/
def spotAt (config : PostinstallConfig) (plan : InstallPlan) (r : Runner) (held : Bool) : Spot :=
  ⟨r.cursor, mountedPlaces config plan (r.cursor + 1) (plan.partitions.drop (r.cursor + 1)), held⟩

/-- A partition whose program does not run has a verdict only if it cannot be unmounted. -/
theorem AtPartition.probe {code : ErrorCode} {t : Spot} {r : Runner}
    (h : AtPartition o config plan code t r) {q : Partition}
    (hq : plan.partitions[r.cursor]? = some q) (hidle : (effective plan q).runs = false)
    (hprogram : (effective plan q).program ≠ "") {ms is xs : List (Exchange α)} {m : ScopedMount}
    (hmounts : Mounts r (effective plan q) ms (.ok m)) (his : Inspects r is)
    {reply : Except SystemError Unit}
    (hagrees : o.Agrees t (ms ++ is ++ [⟨.unmount r.config.mountDir, reply⟩] ++ xs)) :
    o.verdict? config plan r.cursor q =
        (if reply.isOk then none else q.failure? .postinstallRunnerError) ∧
      o.afterAll t (ms ++ is ++ [(⟨.unmount r.config.mountDir, reply⟩ : Exchange α)]) =
        spotAt config plan r false ∧
      o.Agrees (spotAt config plan r false) xs := by
  rw [effective_runs] at hidle
  rw [effective_program] at hprogram
  obtain ⟨hbefore, hxs⟩ := (o.agrees_append _ _ _).mp hagrees
  obtain ⟨hmis, hunmount⟩ := (o.agrees_append _ _ _).mp hbefore
  obtain ⟨hms, -⟩ := (o.agrees_append _ _ _).mp hmis
  have hmounted : isMounted config plan q = true := by simp [isMounted, hidle, hprogram]
  obtain ⟨hmount, hspot⟩ := h.mounts hq hmounted hmounts hms
  have hspot' : o.afterAll t (ms ++ is) = spotAt config plan r true := by
    rw [Outcomes.afterAll_append, his.afterAll]
    exact hspot
  rw [hspot'] at hunmount
  obtain ⟨⟨_, hunmount⟩, -⟩ := hunmount
  have hunmount' : (o.partition r.cursor).unmount = reply := hunmount
  have hspot'' : o.afterAll t (ms ++ is ++ [(⟨.unmount r.config.mountDir, reply⟩ : Exchange α)]) =
      spotAt config plan r false := by
    rw [Outcomes.afterAll_append, hspot']
    rfl
  rw [hspot''] at hxs
  refine ⟨?_, hspot'', hxs⟩
  unfold Outcomes.verdict?
  rw [if_neg (by simp [hidle]), if_neg hprogram, hmount, hunmount']
  rfl

/-- A partition whose program is to run has a verdict if the program fails or does not start. -/
theorem AtPartition.launch {code : ErrorCode} {t : Spot} {r r₁ : Runner}
    (h : AtPartition o config plan code t r) {q : Partition}
    (hq : plan.partitions[r.cursor]? = some q) (hruns : (effective plan q).runs = true)
    {program : Path}
    (hpath : programPath r.config.mountDir (effective plan q).program = .ok program)
    {ms is ls xs : List (Exchange α)} {m : ScopedMount}
    (hmounts : Mounts r (effective plan q) ms (.ok m)) (his : Inspects r is) {runs : Bool}
    (hls : Launches r.mounted program ls (r₁, runs))
    (hagrees : o.Agrees t (ms ++ is ++ ls ++ xs)) :
    o.verdict? config plan r.cursor q =
        (if runs then
          if (o.partition r.cursor).exit = 0 then none
          else q.failure? (.ofExitCode (o.partition r.cursor).exit)
        else q.failure? .postinstallRunnerError) ∧
      o.afterAll t (ms ++ is ++ ls) = spotAt config plan r true ∧
      o.Agrees (spotAt config plan r true) xs := by
  rw [effective_runs] at hruns
  rw [effective_program, h.settings] at hpath
  obtain ⟨hbefore, hxs⟩ := (o.agrees_append _ _ _).mp hagrees
  obtain ⟨hmis, hlaunch⟩ := (o.agrees_append _ _ _).mp hbefore
  obtain ⟨hms, -⟩ := (o.agrees_append _ _ _).mp hmis
  have hfound : (programPath config.mountDir q.program).isOk = true := by rw [hpath]; rfl
  have hmounted : isMounted config plan q = true := by simp [isMounted, hruns, hfound]
  obtain ⟨hmount, hspot⟩ := h.mounts hq hmounted hmounts hms
  have hspot' : o.afterAll t (ms ++ is) = spotAt config plan r true := by
    rw [Outcomes.afterAll_append, his.afterAll]
    exact hspot
  rw [hspot'] at hlaunch
  obtain ⟨hstarts, hspot''⟩ := hls.agrees hlaunch
  have hstarts' : (o.partition r.cursor).starts = runs := hstarts
  have hend : o.afterAll t (ms ++ is ++ ls) = spotAt config plan r true := by
    rw [Outcomes.afterAll_append, hspot', hspot'']
  rw [hend] at hxs
  refine ⟨?_, hend, hxs⟩
  unfold Outcomes.verdict?
  rw [if_pos hruns, if_pos hfound, hmount, hstarts']
  rfl

variable [ProgressNumber α]

/-! ## Partitions -/

/-- Past a partition on which there is no verdict, the runner stands before the next one. -/
theorem Enters.atPartition {code : ErrorCode} {t : Spot} {r r' : Runner} {q : Partition}
    {xs : List (Exchange α)} (h : Enters r (effective plan q) xs (r', true))
    (hr : AtPartition o config plan code t r) (hcurrent : r.partition? = some (effective plan q))
    (hq : plan.partitions[r.cursor]? = some q) (hagrees : o.Agrees t xs) :
    AtPartition o config plan code (o.afterAll t xs) r' := by
  have hfurther := h.further
  have hready := h.isReady hr.ready hcurrent
  cases h with
  | skips hidle hprogram =>
    rw [effective_runs] at hidle
    rw [effective_program] at hprogram
    refine hr.next hq ?_ hfurther hready ?_ hr.held
    · simp [Outcomes.verdict?, hidle, hprogram]
    · have hahead := hr.ahead_eq hq
      rwa [if_neg (by simp [isMounted, hidle, hprogram])] at hahead
  | probes hidle hprogram hmounts his =>
    rw [← List.append_nil (_ ++ _ ++ [_])] at hagrees
    obtain ⟨hverdict, hspot, -⟩ := hr.probe hq hidle hprogram hmounts his hagrees
    rw [hspot]
    exact hr.next hq hverdict hfurther hready rfl rfl
  | sticks e hidle hprogram hmounts his hleaves =>
    obtain ⟨hverdict, hspot, -⟩ := hr.probe hq hidle hprogram hmounts his hagrees
    have hoptional : q.optional = true := by simpa using hleaves.passes
    rw [Outcomes.afterAll_append, hspot, hleaves.afterAll fun _ => rfl]
    refine hr.next hq ?_ hfurther hready rfl rfl
    rw [hverdict, Partition.failure?, if_pos hoptional]
    rfl
  | fails hruns hpath hmounts his hls hleaves =>
    obtain ⟨hverdict, hspot, -⟩ := hr.launch hq hruns hpath hmounts his hls hagrees
    have hoptional : q.optional = true := by simpa using hleaves.passes
    have hheld := hls.keeps.2
    rw [Outcomes.afterAll_append, hspot,
      hleaves.afterAll fun hnone => nomatch hheld.symm.trans hnone]
    refine hr.next hq ?_ hfurther hready rfl rfl
    rw [hverdict, if_neg Bool.false_ne_true, Partition.failure?, if_pos hoptional]

/-- At a partition on which there is a verdict, the attempt ends with it; otherwise it waits for the
program of the partition. -/
theorem Enters.follows {code : ErrorCode} {t : Spot} {r r' : Runner} {q : Partition}
    {xs : List (Exchange α)} (h : Enters r (effective plan q) xs (r', false))
    (hr : AtPartition o config plan code t r) (hq : plan.partitions[r.cursor]? = some q)
    (hagrees : o.Agrees t xs) : Follows o config plan code (o.afterAll t xs) r' := by
  cases h with
  | sticks e hidle hprogram hmounts his hleaves =>
    obtain ⟨hverdict, -, hls⟩ := hr.probe hq hidle hprogram hmounts his hagrees
    obtain ⟨-, hrequired, hresult⟩ := hleaves.agrees (r := r.probed) hr.ready.works hls
    rw [effective_optional] at hrequired
    have hcode := hr.code_eq hq (c := .postinstallRunnerError)
      (by rw [hverdict, Partition.failure?, hrequired]; rfl)
    rw [← hcode]
    exact .ended hresult
  | misplaced hruns hpath hends =>
    rw [effective_runs] at hruns
    rw [effective_program, hr.settings] at hpath
    have hinvalid := errorCode_of_programPath hpath
    have hlost : (programPath config.mountDir q.program).isOk = false := by
      rw [hpath]
      rfl
    have hcode := hr.code_eq hq (c := .postinstallInvalidPath)
      (by simp [Outcomes.verdict?, hruns, hlost])
    rw [← hcode, ← hinvalid]
    exact .ended (hends.agrees_failure (Or.inr hr.ready.works) (MountError.errorCode_ne_success _)
      hagrees)
  | @unmountable e ms ys _ hprobed hpath hmounts hends =>
    simp only [effective_runs, effective_program, hr.settings] at hprobed hpath
    obtain ⟨hms, hys⟩ := (o.agrees_append _ _ _).mp hagrees
    have hmounted : isMounted config plan q = true := by
      unfold isMounted
      split
      · rename_i hruns
        obtain ⟨program, hprogram⟩ := hpath hruns
        rw [hprogram]
        rfl
      · rename_i hidle
        exact bne_iff_ne.mpr (hprobed (eq_false_of_ne_true hidle))
    obtain ⟨hmount, -⟩ := hr.mounts hq hmounted hmounts hms
    have hcode := hr.code_eq hq (Outcomes.verdict?_of_not_mounts hmounted hmount)
    rw [← hcode, ← hmounts.errorCode_eq]
    exact .ended (hends.agrees_failure (r := r.mounting) (Or.inr hr.ready.works)
      (MountError.errorCode_ne_success e) hys)
  | @starts program ms is ls m _ hruns hpath hmounts his hls =>
    rw [← List.append_nil (ms ++ is ++ ls)] at hagrees
    obtain ⟨hverdict, hspot, -⟩ := hr.launch hq hruns hpath hmounts his hls hagrees
    rw [hspot]
    cases hls with
    | runs =>
      refine .program rfl ⟨hr.settings, rfl, rfl, ?_, hr.left⟩
      intro p hp
      obtain rfl := Option.some.inj (hq.symm.trans hp)
      exact hverdict
  | fails hruns hpath hmounts his hls hleaves =>
    obtain ⟨hverdict, -, hxs⟩ := hr.launch hq hruns hpath hmounts his hls hagrees
    have hworks := hls.keeps.1.trans hr.ready.works
    obtain ⟨-, hrequired, hresult⟩ := hleaves.agrees hworks hxs
    rw [effective_optional] at hrequired
    have hcode := hr.code_eq hq (c := .postinstallRunnerError)
      (by rw [hverdict, if_neg Bool.false_ne_true, Partition.failure?, hrequired]; rfl)
    rw [← hcode]
    exact .ended hresult

/-- The way through the partitions keeps to the reference. -/
theorem Proceeds.follows {code : ErrorCode} {t : Spot} {r r' : Runner} {xs : List (Exchange α)}
    (h : Proceeds r xs r') (hr : AtPartition o config plan code t r) (hagrees : o.Agrees t xs) :
    Follows o config plan code (o.afterAll t xs) r' := by
  induction h generalizing t with
  | sourceless hsource =>
    rw [hr.ready.works] at hsource
    exact absurd hsource hr.source
  | @finishes r r' xs hsource hnone hends =>
    have hpast : plan.partitions.drop r.cursor = [] := by
      unfold partition? at hnone
      rw [hr.ready.works, withoutSkipped_getElem?, Option.map_eq_none_iff] at hnone
      exact List.drop_eq_nil_of_le (List.getElem?_eq_none_iff.mp hnone)
    have hleft := hr.left
    rw [hpast] at hleft
    rw [← hleft]
    exact .ended (hends.agrees (Or.inr hr.ready.works) hagrees)
  | passes hsource hcurrent henters _ ih =>
    obtain ⟨q, hq, rfl⟩ := partition?_eq_some hr.ready.works hcurrent
    obtain ⟨hxs, hys⟩ := (o.agrees_append _ _ _).mp hagrees
    rw [Outcomes.afterAll_append]
    exact ih (henters.atPartition hr hcurrent hq hxs) hys
  | stops hsource hcurrent henters =>
    obtain ⟨q, hq, rfl⟩ := partition?_eq_some hr.ready.works hcurrent
    exact henters.follows hr hq hagrees

/-! ## Happenings -/

/-- A runner whose program exits with the assigned code goes on by the reference. -/
theorem GoesOn.follows {code : ErrorCode} {t : Spot} {r r' : Runner} {p : Partition}
    {ls xs : List (Exchange α)} {out : Runner × Bool} (h : GoesOn out xs r')
    (hleaves : Leaves r p (o.partition r.cursor).exit ls out)
    (hr : AtProgram o config plan code t r) (hrunning : IsRunning plan r)
    (hstep : r.progress.cursor = r.cursor) (hcurrent : r.partition? = some p)
    (hagrees : o.Agrees t (ls ++ xs)) :
    Follows o config plan code (o.afterAll t (ls ++ xs)) r' := by
  obtain ⟨hls, hxs⟩ := (o.agrees_append _ _ _).mp hagrees
  obtain ⟨r₁, goesOn⟩ := out
  obtain ⟨q, hq, rfl⟩ := partition?_eq_some hrunning.works hcurrent
  have hverdict := hr.verdict q hq
  have hleft := hr.left
  rw [fold_cursor hq] at hleft
  cases goesOn with
  | true =>
    have hnone : o.verdict? config plan r.cursor q = none := by
      rw [hverdict]
      rcases hleaves.passes with hsuccess | hoptional
      · rw [if_pos hsuccess]
      · rw [effective_optional] at hoptional
        rw [Partition.failure?, if_pos hoptional, ite_self]
    rw [hnone] at hleft
    have hspot := hleaves.afterAll (o := o) (t := t) fun hfree =>
      nomatch hrunning.mount.symm.trans hfree
    rw [hspot] at hxs
    rw [Outcomes.afterAll_append, hspot]
    have hfurther := hleaves.further
    refine Proceeds.follows h ?_ hxs
    refine ⟨hfurther.config.trans hr.settings, ?_, hrunning.source, ?_, rfl, ?_⟩
    · exact hleaves.isReady hrunning.result hrunning.works hstep hrunning.weights hcurrent
    · rw [hfurther.cursor]
      exact hr.ahead
    · rw [hfurther.cursor]
      exact hleft
  | false =>
    obtain ⟨rfl, rfl⟩ := h
    obtain ⟨hfails, hrequired, hresult⟩ := hleaves.agrees hrunning.works hls
    rw [effective_optional] at hrequired
    rw [hverdict, if_neg hfails, Partition.failure?, hrequired] at hleft
    rw [← hleft]
    exact .ended hresult

/-- An attempt that gets to the first partition keeps to what the reference says from there. -/
theorem Proceeds.follows_first {r r' : Runner} {xs : List (Exchange α)} (h : Proceeds r xs r')
    (hready : IsReady plan r) (hcursor : r.cursor = 0) (hsettings : r.config = config)
    (hagrees : o.Agrees (.start config plan) xs) :
    Follows o config plan
      (if plan.downloadUrl = "" then o.settled plan else o.fold config plan 0 plan.partitions)
      (o.afterAll (.start config plan) xs) r' := by
  split
  · rename_i hsource
    have hsource' : r.plan.downloadUrl = "" := by rw [hready.works]; exact hsource
    cases h with
    | sourceless _ hends => exact .ended (hends.agrees (Or.inr hready.works) hagrees)
    | finishes hpresent => exact absurd hsource' hpresent
    | passes hpresent => exact absurd hsource' hpresent
    | stops hpresent => exact absurd hsource' hpresent
  · rename_i hsource
    refine h.follows ⟨hsettings, hready, hsource, ?_, rfl, ?_⟩ hagrees
    · rw [hcursor]
      rfl
    · rw [hcursor]
      rfl

/-- An attempt that begins keeps to the reference. -/
theorem Begins.follows {r r' : Runner} {xs : List (Exchange α)}
    (h : Begins (r.planned plan) xs r') (hr : IsIdle r) (hsettings : r.config = config)
    (hagrees : o.Agrees (.start config plan) xs) :
    Follows o config plan (o.reference config plan) (o.afterAll (.start config plan) xs) r' := by
  have hplan : (r.planned plan).plan = plan ∨ (r.planned plan).plan = withoutSkipped plan :=
    Or.inl rfl
  unfold Outcomes.reference
  cases h with
  | unmapped hmaps hends =>
    obtain ⟨hms, hxs⟩ := (o.agrees_append _ _ _).mp hagrees
    obtain ⟨hfails, -⟩ := hmaps.agrees hsettings hms
    rw [hfails]
    exact .ended (hends.agrees_failure hplan nofun hxs)
  | unscheduled e hmaps hpowerwash hends =>
    obtain ⟨hbefore, hxs⟩ := (o.agrees_append _ _ _).mp hagrees
    obtain ⟨hms, ⟨_, hasked⟩, -⟩ := (o.agrees_append _ _ _).mp hbefore
    obtain ⟨hfails, -⟩ := hmaps.agrees hsettings hms
    have hasked' : o.powerwash = .error e := hasked
    have hpowerwash' : plan.powerwashRequired = true := hpowerwash
    rw [hfails, hpowerwash', hasked']
    exact .ended (hends.agrees_failure hplan nofun hxs)
  | plain hmaps hpowerwash hproceeds =>
    obtain ⟨hbefore, hxs⟩ := (o.agrees_append _ _ _).mp hagrees
    obtain ⟨hms, -⟩ := (o.agrees_append _ _ _).mp hbefore
    obtain ⟨hfails, hspot⟩ := hmaps.agrees hsettings hms
    have hpowerwash' : plan.powerwashRequired = false := hpowerwash
    rw [Outcomes.afterAll_append, hspot] at hxs
    rw [hfails, hpowerwash', Outcomes.afterAll_append, Outcomes.afterAll_append, hspot]
    exact hproceeds.follows_first (hr.isReady r.powerwashScheduled) rfl hsettings hxs
  | scheduled hmaps hpowerwash hproceeds =>
    obtain ⟨hbefore, hxs⟩ := (o.agrees_append _ _ _).mp hagrees
    obtain ⟨hasking, -⟩ := (o.agrees_append _ _ _).mp hbefore
    obtain ⟨hms, ⟨_, hasked⟩, -⟩ := (o.agrees_append _ _ _).mp hasking
    obtain ⟨hfails, hspot⟩ := hmaps.agrees hsettings hms
    have hasked' : o.powerwash = .ok () := hasked
    have hnofail : (plan.powerwashRequired && !o.powerwash.isOk) = false := by
      rw [hasked', Except.isOk, Except.toBool, Bool.not_true, Bool.and_false]
    rw [Outcomes.afterAll_append, Outcomes.afterAll_append, hspot] at hxs
    rw [hfails, hnofail, Outcomes.afterAll_append, Outcomes.afterAll_append,
      Outcomes.afterAll_append, hspot]
    exact hproceeds.follows_first (hr.isReady true) rfl hsettings hxs

omit [ProgressNumber α] in
/-- Whether a runner waits for a program of the reference depends on its settings and its cursor
only. -/
theorem AtProgram.of_eq {code : ErrorCode} {t : Spot} {r r' : Runner}
    (h : AtProgram o config plan code t r) (hconfig : r'.config = r.config)
    (hcursor : r'.cursor = r.cursor) : AtProgram o config plan code t r' := by
  obtain ⟨hsettings, hplace, hahead, hverdict, hleft⟩ := h
  rw [← hcursor] at hplace hahead hverdict hleft
  exact ⟨hconfig.trans hsettings, hplace, hahead, hverdict, hleft⟩

/-- A runner with a program that follows its reference is at the partition of the program. -/
theorem Follows.atProgram {start : Option InstallPlan} {code : ErrorCode} {t : Spot} {r : Runner}
    (h : Follows o config plan code t r) (hr : Stable start r) {c : RunningChild}
    (hc : r.child = some c) : AtProgram o config plan code t r := by
  cases h with
  | idle hidle =>
    rw [hidle.child] at hc
    cases hc
  | program _ hat => exact hat
  | ended hresult =>
    obtain ⟨-, hdone⟩ := hr.isDone hresult
    rw [hdone.child] at hc
    cases hc

omit [ProgressNumber α] in
/-- Waiting does not move on. -/
theorem afterAll_waits {x : Exchange α} {pid : Pid} (h : x.Waits pid) (t : Spot) :
    o.afterAll t [x] = t := by
  rcases h with ⟨reply, rfl⟩ | rfl | rfl | ⟨e, rfl | rfl⟩ <;> rfl

/-- Reports do not move on. -/
theorem afterAll_reports (r : Runner) (lines : List String) (t : Spot) :
    o.afterAll t (r.reports lines : List (Exchange α)) = t := by
  induction lines with
  | nil => rfl
  | cons line rest ih =>
    unfold reports
    rw [List.filterMap_cons]
    cases ProgressLine.read? line with
    | none => exact ih
    | some literal => exact ih

omit [ProgressNumber α] in
/-- Where the replies are the assigned ones, waiting does not fail. -/
theorem not_agrees_of_failsToWait {x : Exchange α} {pid : Pid} (h : x.FailsToWait pid) {t : Spot}
    {xs : List (Exchange α)} (hagrees : o.Agrees t (x :: xs)) : False := by
  obtain ⟨⟨reply, hreply⟩, -⟩ := hagrees
  obtain ⟨e, rfl | rfl⟩ := h
  · cases reply with
    | error _ => cases hreply
    | ok _ => cases hreply
  · cases reply with
    | error _ => cases hreply
    | ok status => cases status <;> cases hreply

omit [ProgressNumber α] in
/-- Where the replies are the assigned ones, a program turns out to have exited with its code. -/
theorem exit_eq_of_tryWait {pid : Pid} {code : Int} {t : Spot} {xs : List (Exchange α)}
    (hagrees : o.Agrees t (⟨.tryWait pid, .ok (some code)⟩ :: xs)) :
    code = (o.partition t.place).exit := by
  obtain ⟨⟨reply, hreply⟩, -⟩ := hagrees
  cases reply with
  | error _ => cases hreply
  | ok status =>
    cases status with
    | none => cases hreply
    | some _ =>
      have hsome : (Except.ok (some (o.partition t.place).exit) : Except SystemError (Option Int)) =
          .ok (some code) := hreply
      exact (Option.some.inj (Except.ok.inj hsome)).symm

/-- Every happening keeps a runner to its reference. -/
theorem Move.follows {start : Option InstallPlan} {t : Spot} {r r' : Runner} {es : List (Event α)}
    (h : Move false r es r') (hr : Stable start r)
    (hfollows : Follows o config plan (o.reference config plan) t r)
    (hplan : ∀ plan', start.or (Event.firstPlan es) = some plan' → plan' = plan)
    (hexits : ∀ pid code, es.head? = some (.called (.exited pid code)) → r.childPid = some pid →
      code = (o.partition r.cursor).exit)
    (hagrees : o.Agrees t (Event.exchanges es)) :
    Follows o config plan (o.reference config plan) (o.afterAll t (Event.exchanges es)) r' := by
  cases h with
  | noted => exact hfollows
  | @begins _ c plan' xs hstarts hidle hbegins =>
    obtain ⟨rfl, hidle'⟩ := hr.isIdle hidle
    obtain rfl := hplan plan' (by simp [hstarts])
    rw [Event.exchanges_called_cons, Event.exchanges_map_asked] at hagrees ⊢
    cases hfollows with
    | idle _ hsettings hspot =>
      rw [hspot] at hagrees ⊢
      exact hbegins.follows hidle' hsettings hagrees
    | program hchild =>
      rw [hidle'.child] at hchild
      cases hchild
    | ended hresult =>
      rw [hidle'.result] at hresult
      cases hresult
  | waits _ hx =>
    have hspot := afterAll_waits hx t (o := o)
    rw [← hspot] at hfollows
    exact hfollows
  | @reads c reads hc _ =>
    have hspot : o.afterAll t
        ((⟨.readStatus c.pid (!c.nonblocking), reads⟩ : Exchange α) ::
          (r.afterReads c reads).reports (drain (!c.nonblocking) r.lines reads).lines) = t :=
      afterAll_reports (r.afterReads c reads) _ t
    rw [Event.exchanges_map_asked, hspot]
    exact .program rfl ((hfollows.atProgram hr hc).of_eq rfl rfl)
  | @exits _ e pid code p ls xs out hreports hchild hcurrent hleaves hgoesOn =>
    obtain ⟨c, hc, -⟩ := Option.map_eq_some_iff.mp hchild
    obtain ⟨plan', rfl, hrunning⟩ := hr.isRunning hc
    obtain rfl := hplan _ (Option.some_or)
    have hat := hfollows.atProgram hr hc
    rcases hreports with rfl | rfl
    · obtain rfl := hexits pid code rfl hchild
      rw [Event.exchanges_called_cons, Event.exchanges_map_asked] at hagrees ⊢
      exact hgoesOn.follows hleaves hat hrunning hr.inStep hcurrent hagrees
    · rw [Event.exchanges_asked_cons, Event.exchanges_map_asked] at hagrees ⊢
      have hcode := exit_eq_of_tryWait hagrees
      rw [hat.place] at hcode
      subst hcode
      exact hgoesOn.follows hleaves hat hrunning hr.inStep hcurrent hagrees.2
  | suspends hc => exact .program (by rw [hc]; rfl) ((hfollows.atProgram hr hc).of_eq rfl rfl)
  | resumes hc => exact .program (by rw [hc]; rfl) ((hfollows.atProgram hr hc).of_eq rfl rfl)
  | balks => exact hfollows
  | aborts _ hfails => exact (not_agrees_of_failsToWait hfails hagrees).elim
  | cancels hallowed => cases hallowed

/-- Where nothing is cancelled, something is recorded of every happening. -/
theorem Move.ne_nil {r r' : Runner} {es : List (Event α)} (h : Move false r es r') : es ≠ [] := by
  cases h with
  | cancels hallowed => cases hallowed
  | _ => exact List.cons_ne_nil _ _

/-! ## Histories -/

/-- Every run of happenings that begins with a call, or with none, keeps a runner to its
reference. -/
theorem Moves.follows {start : Option InstallPlan} {t : Spot} {r r' : Runner} {es : List (Event α)}
    (h : Moves false r es r') (hr : Stable start r)
    (hfollows : Follows o config plan (o.reference config plan) t r)
    (hplan : ∀ plan', start.or (Event.firstPlan es) = some plan' → plan' = plan)
    (hexits : ∀ pid code, es.head? = some (.called (.exited pid code)) → r.childPid = some pid →
      code = (o.partition r.cursor).exit)
    (hasked : ∀ e ∈ es.tail, ∃ x, e = .asked x) (hagrees : o.Agrees t (Event.exchanges es)) :
    Follows o config plan (o.reference config plan) (o.afterAll t (Event.exchanges es)) r' := by
  induction h generalizing start t with
  | nil => exact hfollows
  | @cons r r₁ r' es fs hmove hmoves ih =>
    rw [Event.exchanges_append] at hagrees ⊢
    rw [Event.firstPlan_append, ← Option.or_assoc] at hplan
    obtain ⟨hes, hfs⟩ := (o.agrees_append _ _ _).mp hagrees
    obtain ⟨e, es', rfl⟩ := List.exists_cons_of_ne_nil hmove.ne_nil
    have hfirst : ∀ plan', start.or (Event.firstPlan (e :: es')) = some plan' → plan' = plan := by
      intro plan' hplan'
      apply hplan plan'
      rw [hplan', Option.some_or]
    have hrest : ∀ e' ∈ fs, ∃ x, e' = .asked x := fun e' hmem =>
      hasked e' (List.mem_append_right es' hmem)
    rw [Outcomes.afterAll_append]
    refine ih (hmove.stable hr) (hmove.follows hr hfollows hfirst hexits hes) hplan ?_ ?_ hfs
    · intro pid code hhead
      obtain ⟨x, hx⟩ := hrest _ (List.mem_of_mem_head? hhead)
      cases hx
    · exact fun e' hmem => hrest e' (List.mem_of_mem_tail hmem)

/-- A call that does not cancel keeps a runner to its reference. -/
theorem call_follows {start : Option InstallPlan} {t : Spot} {r : Runner} (hr : Stable start r)
    (hfollows : Follows o config plan (o.reference config plan) t r) {c : RunnerCall}
    (p : Platform α σ) (s : σ) (hplan : ∀ plan', start.or c.plan? = some plan' → plan' = plan)
    (hcancel : c.mayCancel = false)
    (hexit : ∀ pid code, c = .exited pid code → r.childPid = some pid →
      code = (o.partition r.cursor).exit)
    (hagrees : o.Agrees t ((r.call c).run p s).exchanges) :
    Stable (start.or c.plan?) ((r.call c).run p s).result.1 ∧
      Follows o config plan (o.reference config plan)
        (o.afterAll t ((r.call c).run p s).exchanges) ((r.call c).run p s).result.1 := by
  obtain ⟨⟨hmoves, -⟩, -⟩ := (call_ensures hr c).run p s
  rw [hcancel] at hmoves
  have hrecorded : start.or c.plan? =
      start.or (Event.firstPlan (.called c :: ((r.call c).run p s).exchanges.map .asked)) := by
    rw [Event.firstPlan_called_cons, Event.firstPlan_map_asked, Option.or_none]
  have hexchanges : Event.exchanges (.called c :: ((r.call c).run p s).exchanges.map .asked) =
      ((r.call c).run p s).exchanges := by
    rw [Event.exchanges_called_cons, Event.exchanges_map_asked]
  rw [hrecorded] at hplan ⊢
  rw [← hexchanges] at hagrees
  refine ⟨hmoves.stable hr, ?_⟩
  rw [← hexchanges]
  refine hmoves.follows hr hfollows hplan ?_ ?_ hagrees
  · intro pid code hhead
    have hcall : c = .exited pid code := by simpa using hhead
    exact hexit pid code hcall
  · intro e he
    obtain ⟨x, -, rfl⟩ := List.mem_map.mp he
    exact ⟨x, rfl⟩

/-- Calls that do not cancel keep a runner to its reference. -/
theorem calls_follow {start : Option InstallPlan} {t : Spot} {r : Runner} (hr : Stable start r)
    (hfollows : Follows o config plan (o.reference config plan) t r) {cs : List RunnerCall}
    (p : Platform α σ) (s : σ)
    (hplan : ∀ plan', start.or (RunnerCall.firstPlan cs) = some plan' → plan' = plan)
    (hcancel : ∀ c ∈ cs, c.mayCancel = false) (hexits : o.ReportsExits p r cs s)
    (hagrees : o.Agrees t ((r.calls cs).run p s).exchanges) :
    Follows o config plan (o.reference config plan)
      (o.afterAll t ((r.calls cs).run p s).exchanges) ((r.calls cs).run p s).result := by
  induction cs generalizing start t r s with
  | nil => exact hfollows
  | cons c rest ih =>
    obtain ⟨hexit, hexits⟩ := hexits
    unfold calls at hagrees ⊢
    rw [Action.run_bind] at hagrees ⊢
    obtain ⟨hxs, hys⟩ := (o.agrees_append _ _ _).mp hagrees
    have hsplit : RunnerCall.firstPlan (c :: rest) = c.plan?.or (RunnerCall.firstPlan rest) := by
      unfold RunnerCall.firstPlan
      rw [List.findSome?_cons]
      cases c.plan? <;> rfl
    rw [hsplit, ← Option.or_assoc] at hplan
    have hfirst : ∀ plan', start.or c.plan? = some plan' → plan' = plan := by
      intro plan' hplan'
      apply hplan plan'
      rw [hplan', Option.some_or]
    have hcancel' : ∀ c' ∈ rest, c'.mayCancel = false := fun c' hmem =>
      hcancel c' (List.mem_cons_of_mem c hmem)
    obtain ⟨hstable, hnext⟩ :=
      call_follows hr hfollows p s hfirst (hcancel c List.mem_cons_self) hexit hxs
    rw [Outcomes.afterAll_append]
    exact ih hstable hnext _ hplan hcancel' hexits hys

/-- An attempt that is not cancelled, and whose programs all exit, ends with the result of its
reference, however it is driven. -/
theorem result_eq_reference (o : Outcomes) (config : PostinstallConfig) (plan : InstallPlan)
    (cs : List RunnerCall) (p : Platform α σ) (s : σ)
    (hplan : RunnerCall.firstPlan cs = some plan) (hcancel : ∀ c ∈ cs, c.mayCancel = false)
    (hexits : o.ReportsExits p (new config) cs s)
    (hagrees : o.Agrees (.start config plan) (afterCalls config cs p s).exchanges)
    (hchild : (afterCalls config cs p s).result.child = none) :
    (afterCalls config cs p s).result.result = some (o.reference config plan) := by
  have hstable := afterCalls_stable config cs p s
  have hsame : ∀ plan', (none : Option InstallPlan).or (RunnerCall.firstPlan cs) = some plan' →
      plan' = plan := by
    intro plan' hplan'
    rw [Option.none_or, hplan] at hplan'
    exact (Option.some.inj hplan').symm
  have hnew : Follows o config plan (o.reference config plan) (.start config plan) (new config) :=
    .idle ⟨rfl, rfl, rfl, rfl, rfl, rfl, rfl⟩ rfl rfl
  have hfollows := calls_follow (stable_new config) hnew p s hsame hcancel hexits hagrees
  cases hfollows with
  | idle hidle =>
    obtain ⟨hnone, -⟩ := hstable.isIdle hidle.stage
    rw [hplan] at hnone
    cases hnone
  | program hruns =>
    have hnone : ((new config).calls cs |>.run p s).result.child = none := hchild
    rw [hnone] at hruns
    cases hruns
  | ended hresult => exact hresult

/-! ### An attempt that its second program decides -/

/-- A partition of a rehearsed update. Its program runs. -/
def rehearsedPartition (name : String) (optional : Bool) : Partition where
  name := name
  target := ⟨"/dev/target"⟩
  readonlyTarget := ⟨"/dev/readonly"⟩
  size := 0
  hash := []
  filesystem := "ext4"
  program := "bin/postinstall"
  runs := true
  optional := optional

/-- A rehearsed update of two partitions. The failure of the first one's program is ignored. -/
def rehearsedPlan : InstallPlan :=
  { InstallPlan.empty with
    downloadUrl := "file:///payload"
    partitions := [rehearsedPartition "vendor" true, rehearsedPartition "system" false] }

/-- Outcomes where everything goes well but the programs, which exit with 3. -/
def rehearsedOutcomes : Outcomes where
  virtualAb := true
  mapping := .ok ()
  powerwash := .ok ()
  partition i := ⟨fun _ => true, .ok false, .ok (), .ok (), .ok (), .ok (), .ok (7 + i), 3⟩
  finish := .ok ()
  activation := .ok ()

/-- Calls that carry the update out. The exit of the first program is reported twice. -/
def rehearsedCalls : List RunnerCall :=
  [.perform rehearsedPlan, .suspend, .exited 7 3, .exited 7 5, .readable, .exited 8 3]

/-- The failure of the first program is ignored, and that of the second one is the result. -/
theorem second_program_decides :
    (afterCalls .default rehearsedCalls
      (rehearsedOutcomes.platform (Memory.platform : Platform Float (Memory Float)))
      (.start .default rehearsedPlan, .initial .empty)).result.result =
        some .postinstallBootedFromFirmwareB := by
  have hreference : rehearsedOutcomes.reference .default rehearsedPlan =
      .postinstallBootedFromFirmwareB := by decide +kernel
  rw [← hreference]
  refine result_eq_reference rehearsedOutcomes .default rehearsedPlan rehearsedCalls _ _ rfl
    (by decide) ⟨nofun, nofun, ?_, ?_, nofun, ?_, trivial⟩
    (rehearsedOutcomes.agrees_platform _ _ _ _) (by decide +kernel)
  · rintro _ _ ⟨⟩ -
    rfl
  · -- The first program is not the one that runs any more.
    rintro _ _ ⟨⟩ hchild
    exact absurd hchild (by decide +kernel)
  · rintro _ _ ⟨⟩ -
    rfl

end Runner

end SlotUpdate
