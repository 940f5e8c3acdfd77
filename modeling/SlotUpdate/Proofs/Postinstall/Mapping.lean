import SlotUpdate.Proofs.Postinstall.Completion
import SlotUpdate.Proofs.Postinstall.MountBalance

/-!
# Mapped partitions are unmapped at the end

The partitions that share space are mapped at the beginning of an attempt, and unmapped when its
runner is given up. The two are decided by different conditions: a plan is mapped for its partitions
or for its switch of slots, and unmapped for its partitions alone. `UnmapsAtEnd` says when either
happens, and that the unmapping comes last and once.

Along the map of attempts only the beginning asks to map, and only an attempt that has ended asks to
unmap (`Step.mapping`). So an unmapping follows the delivery of a result (`Course.delivers_before`),
and where the delivery is the last exchange there was none (`Charted.not_unmapped`). Whether there
is one in the end depends on the plan that the runner holds then, which is the one that it was
started with (`Move.worksOn`).
-/

namespace SlotUpdate

open SlotUpdate.Action

variable {α σ : Type}

namespace Runner

/-! ## Mapping on the map -/

section Map

variable {config : PostinstallConfig} {plan : InstallPlan} {scheduled : Bool} {es : List (Event α)}

/-- Whether partitions have to be mapped depends on the settings and on the plan. -/
theorem Maps.of_needsMapping {r r' : Runner} {ms : List (Exchange α)}
    {outcome : Except BootError Unit} (h : Maps r ms outcome)
    (hneeds : r'.needsMapping = r.needsMapping) : Maps r' ms outcome := by
  cases h with
  | needless virtual needs => exact .needless virtual fun hvirtual => hneeds.trans (needs hvirtual)
  | asks _ needs => exact .asks outcome (hneeds.trans needs)

/-- An attempt begins with mapping, and nothing else at its beginning maps. -/
theorem Opens.maps {r : Runner} {xs : List (Exchange α)} {pt : Point}
    (h : Opens r xs scheduled pt) :
    ∃ ms rest outcome, xs = ms ++ rest ∧ Maps r ms outcome ∧ About [.powerwash, .progress] rest ∧
      pt.result? = none := by
  cases h with
  | unmapped hmaps => exact ⟨_, [], _, (List.append_nil _).symm, hmaps, .nil, rfl⟩
  | unscheduled e hmaps => exact ⟨_, _, _, rfl, hmaps, by simp, rfl⟩
  | plain share hmaps => exact ⟨_, _, _, rfl, hmaps, by simp, rfl⟩
  | scheduled share hmaps => exact ⟨_, _, _, rfl, hmaps, by simp, rfl⟩

/-- Nothing is unmapped at the beginning of an attempt. -/
theorem Opens.not_unmaps {r : Runner} {xs : List (Exchange α)} {pt : Point}
    (h : Opens r xs scheduled pt) : ∀ x ∈ xs, x.request ≠ .unmapAll := by
  obtain ⟨ms, rest, _, rfl, hmaps, habout, -⟩ := h.maps
  intro x hx hunmaps
  rcases List.mem_append.mp hx with hx | hx
  · cases hmaps with
    | needless =>
      obtain rfl := List.mem_singleton.mp hx
      cases hunmaps
    | asks =>
      rcases List.mem_pair.mp hx with rfl | rfl
      · cases hunmaps
      · cases hunmaps
  · have hother := habout x hx
    rw [hunmaps] at hother
    simp at hother

/-- What a step asks about mapping is to unmap, and the attempt has ended then. -/
theorem Step.mapping {pt pt' : Point} {fs : List (Event α)}
    (h : Step config plan scheduled pt fs pt') {x : Exchange α} (hx : x ∈ Event.exchanges fs)
    (htopic : x.request.topic = .mapping) :
    x.request = .unmapAll ∧ ∃ c, pt = .done c ∧ pt' = .done c := by
  cases hresult : pt'.result? with
  | none =>
    have hongoing := (h.about hresult).2 x hx
    rw [htopic] at hongoing
    simp at hongoing
  | some result =>
    cases h with
    | noted => cases hx
    | ends hus hss hps =>
      rw [Event.exchanges_map_asked] at hx
      have hending := about_of_ends hus hss hps x hx
      rw [htopic] at hending
      simp at hending
    | unmaps reply =>
      obtain rfl := List.mem_singleton.mp hx
      exact ⟨rfl, _, rfl, rfl⟩
    | _ => cases hresult

/-- The record of an attempt begins with mapping, and nothing in the rest of it maps. -/
theorem Course.maps {pt : Point} (h : Course config plan scheduled es pt) :
    ∃ ms rest outcome, Event.exchanges es = ms ++ rest ∧
      Maps ((new config).planned plan) ms outcome ∧
      ∀ x ∈ rest, x.request.topic = .mapping → x.request = .unmapAll := by
  induction h with
  | @opens before c r xs pt hsilent _ hsettings hworks hopens =>
    obtain ⟨ms, rest, outcome, rfl, hmaps, habout, -⟩ := hopens.maps
    have hneeds : ((new config).planned plan).needsMapping = r.needsMapping := by
      unfold needsMapping
      rw [hsettings, hworks]
      rfl
    refine ⟨ms, rest, outcome, by simp [hsilent], hmaps.of_needsMapping hneeds, ?_⟩
    intro x hx htopic
    have hother := habout x hx
    rw [htopic] at hother
    simp at hother
  | @step es fs _ _ _ hstep ih =>
    obtain ⟨ms, rest, outcome, hes, hmaps, hrest⟩ := ih
    refine ⟨ms, rest ++ Event.exchanges fs, outcome, ?_, hmaps, ?_⟩
    · rw [Event.exchanges_append, hes, List.append_assoc]
    · intro x hx htopic
      rcases List.mem_append.mp hx with hx | hx
      · exact hrest x hx htopic
      · exact (hstep.mapping hx htopic).1

/-- The record of an attempt that has ended delivers its result. -/
theorem Course.delivers {pt : Point} (h : Course config plan scheduled es pt) {c : ErrorCode}
    (hc : pt = .done c) : ⟨.complete c, ()⟩ ∈ Event.exchanges es := by
  induction h with
  | opens _ _ _ _ hopens =>
    obtain ⟨_, _, _, -, -, -, hnone⟩ := hopens.maps
    rw [hc] at hnone
    cases hnone
  | step _ hstep ih =>
    subst hc
    rw [Event.exchanges_append, List.mem_append]
    cases hstep with
    | noted => exact Or.inl (ih rfl)
    | unmaps => exact Or.inl (ih rfl)
    | ends => exact Or.inr (by simp)

/-- Where partitions are unmapped in the record of an attempt, its result was delivered before. -/
theorem Course.delivers_before {pt : Point} (h : Course config plan scheduled es pt)
    {before after : List (Exchange α)} {reply : Except BootError Unit}
    (hsplit : Event.exchanges es = before ++ ⟨.unmapAll, reply⟩ :: after) :
    ∃ code, ⟨.complete code, ()⟩ ∈ before := by
  induction h generalizing after with
  | @opens _ _ r xs _ hsilent _ _ _ hopens =>
    have hxs : xs = before ++ ⟨.unmapAll, reply⟩ :: after := by simpa [hsilent] using hsplit
    have hmem : ⟨.unmapAll, reply⟩ ∈ xs := hxs ▸ List.mem_append_right _ List.mem_cons_self
    exact absurd rfl (hopens.not_unmaps _ hmem)
  | @step es fs _ _ hcourse hstep ih =>
    have hstepped : ⟨.unmapAll, reply⟩ ∈ Event.exchanges fs →
        ∃ code, ⟨.complete code, ()⟩ ∈ Event.exchanges es := by
      intro hmem
      obtain ⟨-, code, hdone, -⟩ := hstep.mapping hmem rfl
      exact ⟨code, hcourse.delivers hdone⟩
    rw [Event.exchanges_append] at hsplit
    rcases List.append_eq_append_iff.mp hsplit with ⟨m, rfl, hm⟩ | ⟨m, hes, hm⟩
    · -- The step unmaps.
      obtain ⟨code, hcode⟩ := hstepped (hm ▸ List.mem_append_right _ List.mem_cons_self)
      exact ⟨code, List.mem_append_left m hcode⟩
    · cases m with
      | nil =>
        rw [List.nil_append] at hm
        rw [List.append_nil] at hes
        obtain ⟨code, hcode⟩ := hstepped (hm ▸ List.mem_cons_self)
        exact ⟨code, hes ▸ hcode⟩
      | cons x m =>
        obtain ⟨rfl, -⟩ := List.cons.inj hm
        exact ih hes

/-- Where the result was delivered last, or not at all, nothing was unmapped. -/
theorem Charted.not_unmapped {start : Option InstallPlan} {r : Runner}
    (h : Charted config start es r) (hdelivered : Delivered (Event.exchanges es) r.result)
    (reply : Except BootError Unit) : ⟨.unmapAll, reply⟩ ∉ Event.exchanges es := by
  intro hmem
  obtain ⟨before, after, hsplit⟩ := List.append_of_mem hmem
  have hcode : ∃ code, ⟨.complete code, ()⟩ ∈ before := by
    cases h with
    | idle _ hsilent =>
      rw [hsilent] at hmem
      cases hmem
    | begun harrives =>
      obtain ⟨_, hcourse, -⟩ := harrives
      exact hcourse.delivers_before hsplit
  obtain ⟨code, hcode⟩ := hcode
  have hbefore : deliveries before ≠ [] := by
    refine List.ne_nil_of_mem (a := code) (List.mem_filterMap.mpr ⟨_, hcode, rfl⟩)
  cases hresult : r.result with
  | none =>
    rw [hresult, Delivered, hsplit, deliveries_append] at hdelivered
    exact hbefore (List.append_eq_nil_iff.mp hdelivered).1
  | some result =>
    rw [hresult] at hdelivered
    obtain ⟨earlier, hlast, hnone⟩ := hdelivered
    -- The unmapping is not the last exchange, so the delivery that comes before it is not either.
    have hother : ⟨.unmapAll, reply⟩ ∉ [(⟨.complete result, ()⟩ : Exchange α)] := by
      rw [List.mem_singleton]
      exact nofun
    obtain ⟨m, rfl, -⟩ := split_append_of_not_mem (hlast.symm.trans hsplit) hother
    rw [deliveries_append] at hnone
    exact hbefore (List.append_eq_nil_iff.mp hnone).1

end Map

/-! ## The plan of a runner -/

/-- The plan that a runner holds is one that it was given, or that without what is skipped. -/
def WorksOn (plan : InstallPlan) (r : Runner) : Prop :=
  r.plan = plan ∨ r.plan = withoutSkipped plan

/-- Skipping programs leaves the partitions. -/
theorem WorksOn.partitions_eq_nil_iff {plan : InstallPlan} {r : Runner} (h : WorksOn plan r) :
    r.plan.partitions = [] ↔ plan.partitions = [] := by
  rcases h with hplan | hplan
  · rw [hplan]
  · rw [hplan]
    exact List.map_eq_nil_iff

/-- The end of an attempt leaves the plan. -/
theorem Ends.plan_eq {r r' : Runner} {code : ErrorCode} {xs : List (Exchange α)}
    (h : Ends r code xs r') : r'.plan = r.plan := by
  cases h with
  | intro => rfl

variable [ProgressNumber α]

/-- The end of a partition leaves the plan. -/
theorem Leaves.plan_eq {r : Runner} {p : Partition} {code : Int} {xs : List (Exchange α)}
    {out : Runner × Bool} (h : Leaves r p code xs out) : out.1.plan = r.plan := by
  cases h with
  | goesOn => rfl
  | ends _ _ _ hends => exact hends.plan_eq

/-- A partition leaves the plan. -/
theorem Enters.plan_eq {r : Runner} {p : Partition} {xs : List (Exchange α)} {out : Runner × Bool}
    (h : Enters r p xs out) : out.1.plan = r.plan := by
  cases h with
  | skips => rfl
  | probes => rfl
  | sticks _ _ _ _ _ hleaves => exact hleaves.plan_eq
  | misplaced _ _ hends => exact hends.plan_eq
  | unmountable _ _ _ hends => exact hends.plan_eq
  | starts _ _ _ _ hlaunches => exact hlaunches.keeps.1
  | fails _ _ _ _ hlaunches hleaves => exact hleaves.plan_eq.trans hlaunches.keeps.1

/-- The way through the partitions leaves the plan. -/
theorem Proceeds.plan_eq {r r' : Runner} {xs : List (Exchange α)} (h : Proceeds r xs r') :
    r'.plan = r.plan := by
  induction h with
  | sourceless _ hends => exact hends.plan_eq
  | finishes _ _ hends => exact hends.plan_eq
  | passes _ _ henters _ ih => exact ih.trans henters.plan_eq
  | stops _ _ henters => exact henters.plan_eq

/-- A runner works on the plan that it begins an attempt with. -/
theorem Begins.worksOn {plan : InstallPlan} {r r' : Runner} {xs : List (Exchange α)}
    (h : Begins (r.planned plan) xs r') : WorksOn plan r' := by
  cases h with
  | unmapped _ hends => exact Or.inl hends.plan_eq
  | unscheduled _ _ _ hends => exact Or.inl hends.plan_eq
  | plain _ _ hproceeds => exact Or.inr hproceeds.plan_eq
  | scheduled _ _ hproceeds => exact Or.inr hproceeds.plan_eq

/-- A happening leaves the plan, unless it begins the attempt. -/
theorem Move.plan_eq_or {mayCancel : Bool} {r r' : Runner} {es : List (Event α)}
    (h : Move mayCancel r es r') :
    (r'.plan = r.plan ∧ ((Event.firstPlan es).isSome = true → r.stage ≠ .idle)) ∨
      ∃ plan, Event.firstPlan es = some plan ∧ r.stage = .idle ∧ WorksOn plan r' := by
  cases h with
  | noted c hstarts =>
    refine Or.inl ⟨rfl, fun hsome => hstarts ?_⟩
    simpa using hsome
  | @begins _ c plan xs hstarts hidle hbegins =>
    exact Or.inr ⟨plan, by simp [hstarts], hidle, hbegins.worksOn⟩
  | @exits _ e pid code p ls xs out hreports _ _ hleaves hgoesOn =>
    have hnone : Event.firstPlan (e :: (ls ++ xs).map .asked) = none := by
      rcases hreports with rfl | rfl
      · simp [RunnerCall.plan?]
      · simp
    refine Or.inl ⟨?_, fun hsome => ?_⟩
    · obtain ⟨r₁, goesOn⟩ := out
      cases goesOn with
      | true => exact (Proceeds.plan_eq hgoesOn).trans hleaves.plan_eq
      | false =>
        obtain ⟨-, rfl⟩ := hgoesOn
        exact hleaves.plan_eq
    · rw [hnone] at hsome
      cases hsome
  | aborts _ _ _ haborts =>
    cases haborts with
    | intro hkills hends => exact Or.inl ⟨hends.plan_eq.trans hkills.keeps.1, by simp⟩
  | cancels _ _ _ hcancels =>
    cases hcancels with
    | intro hkills _ hends => exact Or.inl ⟨hends.plan_eq.trans hkills.keeps.1, by simp⟩
  | waits => exact Or.inl ⟨rfl, by simp⟩
  | reads => exact Or.inl ⟨rfl, by simp⟩
  | suspends => exact Or.inl ⟨rfl, by simp⟩
  | resumes => exact Or.inl ⟨rfl, by simp⟩
  | balks => exact Or.inl ⟨rfl, by simp⟩

/-- After every happening a runner works on the plan of its attempt. -/
theorem Move.worksOn {mayCancel : Bool} {start : Option InstallPlan} {r r' : Runner}
    {es : List (Event α)} (h : Move mayCancel r es r') (hr : Stable start r)
    (hworks : ∀ plan, start = some plan → WorksOn plan r) :
    ∀ plan, start.or (Event.firstPlan es) = some plan → WorksOn plan r' := by
  intro plan hplan
  rcases h.plan_eq_or with ⟨hsame, hbegun⟩ | ⟨plan', hfirst, hidle, hworks'⟩
  · cases start with
    | some first =>
      have hworks' := hworks plan hplan
      unfold WorksOn
      rw [hsame]
      exact hworks'
    | none =>
      have hsome := hr.isSome (hbegun (Option.isSome_of_eq_some hplan))
      cases hsome
  · obtain ⟨rfl, -⟩ := hr.isIdle hidle
    obtain rfl := Option.some.inj (hfirst.symm.trans hplan)
    exact hworks'

/-- After every run of happenings a runner works on the plan of its attempt. -/
theorem Moves.worksOn {mayCancel : Bool} {start : Option InstallPlan} {r r' : Runner}
    {es : List (Event α)} (h : Moves mayCancel r es r') (hr : Stable start r)
    (hworks : ∀ plan, start = some plan → WorksOn plan r) :
    ∀ plan, start.or (Event.firstPlan es) = some plan → WorksOn plan r' := by
  induction h generalizing start with
  | nil => simpa using hworks
  | cons hmove _ ih =>
    have hworks' := ih (hmove.stable hr) (hmove.worksOn hr hworks)
    rwa [Event.firstPlan_append, ← Option.or_assoc]

/-- When a runner is given up, it works on the plan of its attempt. -/
theorem afterLifetime_worksOn (config : PostinstallConfig) (cs : List RunnerCall)
    (p : Platform α σ) (s : σ) {plan : InstallPlan} (hplan : RunnerCall.firstPlan cs = some plan) :
    WorksOn plan (afterLifetime config cs p s).result := by
  obtain ⟨ys, _, -, hmoves, -⟩ := afterLifetime_moves config cs p s
  have hcalls := (afterCalls_moves config cs p s).worksOn (stable_new config) (fun _ => nofun)
  rw [record_firstPlan, Option.none_or] at hcalls
  have hworks := hmoves.worksOn (afterCalls_stable config cs p s) hcalls
  rw [Event.firstPlan_map_asked, Option.or_none] at hworks
  exact hworks plan hplan

/-! ## Unmapping -/

/-- Everything is ready to be unmapped: the result was delivered, no program is alive, nothing is
left to be unmounted, and nothing was unmapped before. -/
structure ReadyToUnmap (past : List (Event α)) : Prop where
  /-- The result was delivered, as the last thing that was asked for. -/
  delivered : ∃ code, Delivered (Event.exchanges past) (some code)
  /-- The programs have ended. -/
  ended : (Ledger.ofRecord past).alive = []
  /-- Their partitions were unmounted. -/
  unmounted : holdsAfter false past = false
  /-- This is the first unmapping. -/
  first : ∀ reply, ⟨.unmapAll, reply⟩ ∉ Event.exchanges past

omit [ProgressNumber α] in
/-- A runner that has begun to work on a plan leaves nothing to be unmapped if the plan has no
partitions, and only then. -/
theorem Unmaps.eq_nil_iff {plan : InstallPlan} {r : Runner} {us : List (Exchange α)}
    (h : Unmaps r us) (hbegun : r.stage ≠ .idle) (hworks : WorksOn plan r) :
    us = [] ↔ plan.partitions = [] := by
  unfold Unmaps at h
  by_cases hnil : plan.partitions = []
  · rw [if_neg fun hand => hand.2 (hworks.partitions_eq_nil_iff.mpr hnil)] at h
    exact iff_of_true (List.map_eq_nil_iff.mp h) hnil
  · rw [if_pos ⟨hbegun, mt hworks.partitions_eq_nil_iff.mp hnil⟩] at h
    refine iff_of_false ?_ hnil
    rintro rfl
    cases h

/-- A lifetime in which an attempt is started leaves no runner that could start one. -/
theorem afterLifetime_begun (config : PostinstallConfig) (cs : List RunnerCall)
    (p : Platform α σ) (s : σ) {plan : InstallPlan} (hplan : RunnerCall.firstPlan cs = some plan) :
    (afterLifetime config cs p s).result.stage ≠ .idle := by
  intro hidle
  have hnone := ((afterLifetime_stable config cs p s).isIdle hidle).1
  rw [hplan] at hnone
  cases hnone

/-- A lifetime in which no attempt is started asks for nothing. -/
theorem lifetime_silent (config : PostinstallConfig) (cs : List RunnerCall) (p : Platform α σ)
    (s : σ) (hnone : RunnerCall.firstPlan cs = none) :
    (afterLifetime config cs p s).exchanges = [] := by
  have hcharted := lifetime_charted config cs p s
  rw [hnone] at hcharted
  rw [← lifetimeRecord_exchanges]
  cases hcharted with
  | idle _ hsilent => exact hsilent

/-- A lifetime in which an attempt is started maps at the beginning of the attempt, if at all. -/
theorem lifetime_maps (config : PostinstallConfig) (cs : List RunnerCall) (p : Platform α σ)
    (s : σ) {plan : InstallPlan} (hplan : RunnerCall.firstPlan cs = some plan) :
    ∃ ms rest outcome, (afterLifetime config cs p s).exchanges = ms ++ rest ∧
      Maps ((new config).planned plan) ms outcome ∧ ∀ reply, ⟨.mapAll, reply⟩ ∉ rest := by
  obtain ⟨_, _, hcourse, -⟩ := lifetime_course config cs p s hplan
  obtain ⟨ms, rest, outcome, hsplit, hmaps, hrest⟩ := hcourse.maps
  refine ⟨ms, rest, outcome, ?_, hmaps, fun reply hmem => ?_⟩
  · rw [← lifetimeRecord_exchanges, hsplit]
  · cases hrest _ hmem rfl

/-- A lifetime ends with the wish to unmap, if there is one. Before that nothing is unmapped, and if
an attempt was started, everything is ready. -/
theorem lifetime_parted (config : PostinstallConfig) (cs : List RunnerCall) (p : Platform α σ)
    (s : σ) : ∃ past us,
    lifetimeRecord config cs p s = past ++ us.map .asked ∧
      record p (new config) cs s <+: past ∧ Unmaps (afterLifetime config cs p s).result us ∧
      (∀ reply, ⟨.unmapAll, reply⟩ ∉ Event.exchanges past) ∧
      ∀ plan, RunnerCall.firstPlan cs = some plan → ReadyToUnmap past := by
  have hstable := afterCalls_stable config cs p s
  obtain ⟨ys, us, hrecord, hmoves, hus, hrests⟩ := afterLifetime_moves config cs p s
  have hcharted := hmoves.charted (afterCalls_charted config cs p s) hstable
  rw [Event.firstPlan_map_asked, Option.or_none] at hcharted
  have hpast : Event.exchanges (record p (new config) cs s ++ ys.map .asked) =
      (afterCalls config cs p s).exchanges ++ ys := by
    rw [Event.exchanges_append, Event.exchanges_map_asked, record_exchanges]
    rfl
  have hdelivered := hmoves.delivered
  rw [Event.exchanges_map_asked, ← hpast] at hdelivered
  -- Until the runner is given up, and then until its attempt has ended, nothing is unmapped.
  have hfirst := hcharted.not_unmapped hdelivered
  rw [List.map_append, ← List.append_assoc] at hrecord
  refine ⟨_, us, hrecord, List.prefix_append _ _, hus, hfirst, fun plan hplan => ?_⟩
  have hbegun := afterLifetime_begun config cs p s hplan
  obtain ⟨code, hcode⟩ := Option.isSome_iff_exists.mp (hrests.resolve_left hbegun)
  obtain ⟨_, _, -, hcourse⟩ := hcharted.done (hmoves.stable_asked hstable) hcode
  rw [hcode] at hdelivered
  exact ⟨⟨code, hdelivered⟩, hcourse.alive, hcourse.mounts.1, hfirst⟩

/-- That the partitions of an attempt are unmapped when its runner is given up. -/
structure UnmapsAtEnd (config : PostinstallConfig) (cs : List RunnerCall) (p : Platform α σ)
    (s : σ) : Prop where
  /-- If no attempt is started, nothing is mapped or unmapped, or asked for at all. -/
  unstarted : RunnerCall.firstPlan cs = none → (afterLifetime config cs p s).exchanges = []
  /-- An attempt begins with mapping, if its plan needs that, and maps nothing later. -/
  mapped : ∀ plan, RunnerCall.firstPlan cs = some plan → ∃ ms rest outcome,
    (afterLifetime config cs p s).exchanges = ms ++ rest ∧
      Maps ((new config).planned plan) ms outcome ∧ ∀ reply, ⟨.mapAll, reply⟩ ∉ rest
  /-- Calls unmap nothing. -/
  kept : ∀ reply, ⟨.unmapAll, reply⟩ ∉ (afterCalls config cs p s).exchanges
  /-- If the plan has partitions, they are unmapped when the runner is given up, as the last thing
  of all, however the attempt went. -/
  unmapped : ∀ plan, RunnerCall.firstPlan cs = some plan → plan.partitions ≠ [] →
    ∃ past reply, lifetimeRecord config cs p s = past ++ [.asked ⟨.unmapAll, reply⟩] ∧
      record p (new config) cs s <+: past ∧ ReadyToUnmap past
  /-- If it has none, nothing is unmapped. -/
  spared : ∀ plan, RunnerCall.firstPlan cs = some plan → plan.partitions = [] →
    ∀ reply, ⟨.unmapAll, reply⟩ ∉ (afterLifetime config cs p s).exchanges

/-- The partitions of an attempt are unmapped when its runner is given up, on every platform and for
all calls. -/
theorem unmaps_at_end (config : PostinstallConfig) (cs : List RunnerCall) (p : Platform α σ)
    (s : σ) : UnmapsAtEnd config cs p s := by
  obtain ⟨past, us, hrecord, hprefix, hus, hfirst, hready⟩ := lifetime_parted config cs p s
  have hexchanges : (afterLifetime config cs p s).exchanges = Event.exchanges past ++ us := by
    rw [← lifetimeRecord_exchanges, hrecord, Event.exchanges_append, Event.exchanges_map_asked]
  have hnil : ∀ plan, RunnerCall.firstPlan cs = some plan → (us = [] ↔ plan.partitions = []) :=
    fun _ hplan => hus.eq_nil_iff (afterLifetime_begun config cs p s hplan)
      (afterLifetime_worksOn config cs p s hplan)
  refine ⟨lifetime_silent config cs p s, fun _ => lifetime_maps config cs p s, ?kept, ?unmapped,
    ?spared⟩
  case kept =>
    intro reply hmem
    obtain ⟨es, rfl⟩ := hprefix
    refine hfirst reply ?_
    rw [Event.exchanges_append, record_exchanges]
    exact List.mem_append_left _ hmem
  case unmapped =>
    intro plan hplan hpartitions
    obtain ⟨reply, rfl⟩ := hus.eq.resolve_left (mt (hnil plan hplan).mp hpartitions)
    exact ⟨past, reply, hrecord, hprefix, hready plan hplan⟩
  case spared =>
    intro plan hplan hpartitions reply
    rw [hexchanges, (hnil plan hplan).mpr hpartitions, List.append_nil]
    exact hfirst reply

/-- A plan that has nothing but a switch of slots. -/
def switchPlan : InstallPlan :=
  { InstallPlan.empty with targetSlot := 1, switchSlot := true }

/-- A device whose partitions share space and use snapshots. -/
def sharedSpace : Memory Float := { Memory.initial .empty with virtualAb := true }

/-- A plan without partitions is mapped for its switch of slots, and not unmapped. -/
theorem switch_left_mapped :
    ⟨.mapAll, .ok ()⟩ ∈
        (afterLifetime .default [.perform switchPlan] Memory.platform sharedSpace).exchanges ∧
      ∀ reply, ⟨.unmapAll, reply⟩ ∉
        (afterLifetime .default [.perform switchPlan] Memory.platform sharedSpace).exchanges := by
  have hexchanges : ∃ share,
      (afterLifetime .default [.perform switchPlan] Memory.platform sharedSpace).exchanges =
        [⟨.isVirtualAb, true⟩, ⟨.mapAll, .ok ()⟩, ⟨.progress share, ()⟩,
          ⟨.finishUpdate false, .ok ()⟩, ⟨.setActive 1, .ok ()⟩, ⟨.warmReset true, ()⟩,
          ⟨.vbmetaDigest false, .ok ()⟩, ⟨.complete .success, ()⟩] :=
    ⟨_, rfl⟩
  obtain ⟨share, hexchanges⟩ := hexchanges
  rw [hexchanges]
  refine ⟨List.mem_cons_of_mem _ List.mem_cons_self, fun reply hmem => ?_⟩
  have hrequest := List.mem_map_of_mem (f := Exchange.request) hmem
  simp at hrequest

end Runner

end SlotUpdate
