import SlotUpdate.Proofs.Plan.Triggered
import SlotUpdate.Proofs.Postinstall.LaunchOrder
import SlotUpdate.Rehearsal.Memory

/-!
# Attempts outside of an update

An attempt for a triggered plan runs a program and leaves everything else as it was: it does not
decide what is booted, asks for no powerwash and takes none back, tells its program that it was
triggered, and never ends as an update that is active does. `LeavesSlots` says this of a record.

The requests that could do so are few, and no step but the last makes one (`Step.about`). The last
one would for a plan that switches slots or needs a powerwash, which a triggered plan does not
(`Settles.of_not_switch`, `Opens.of_not_powerwash`). So each step spares the slots (`Step.spares`),
and with it the whole record (`Course.spares`). What programs are started with is known from the
visits of partitions (`Course.launches_visited`).
-/

namespace SlotUpdate

variable {α σ τ : Type}

/-- A request that has a say in what is booted next, or is about the powerwash. -/
def Request.decidesBoot : Request α → Bool
  | .finishUpdate _ | .setActive _ | .warmReset _ | .vbmetaDigest _ | .schedulePowerwash
  | .cancelPowerwash => true
  | _ => false

/-- What is booted is decided by requests about the slots and the powerwash. -/
theorem Request.topic_of_decidesBoot {q : Request α} (h : q.decidesBoot = true) :
    q.topic ∈ [Topic.powerwash, .slots] := by
  cases q with
  | finishUpdate _ | setActive _ | warmReset _ | vbmetaDigest _ => simp
  | schedulePowerwash | cancelPowerwash => simp
  | _ => cases h

/-- An attempt does not end as an update that is active: either the update is not active, or the
attempt failed. -/
def ErrorCode.IsInactive (code : ErrorCode) : Prop :=
  code = .updatedButNotActive ∨ code.isSuccess = false

/-- There is one code that an active update ends with. -/
theorem ErrorCode.isInactive_of_ne {code : ErrorCode} (h : code ≠ .success) : code.IsInactive := by
  unfold IsInactive
  cases code with
  | success => exact absurd rfl h
  | updatedButNotActive => exact .inl rfl
  | _ => exact .inr rfl

/-- Exchanges decide nothing about what is booted, and deliver no code of an active update. -/
def Spares (xs : List (Exchange α)) : Prop :=
  ∀ x ∈ xs, x.request.decidesBoot = false ∧ ∀ code, x.request = .complete code → code.IsInactive

namespace Spares

/-- No exchange decides nothing. -/
theorem nil : Spares ([] : List (Exchange α)) := fun _ hx => nomatch hx

/-- Exchanges after exchanges spare the slots if both do. -/
theorem append_iff (xs ys : List (Exchange α)) : Spares (xs ++ ys) ↔ Spares xs ∧ Spares ys := by
  unfold Spares
  exact List.forall_mem_append

/-- The delivery of a code spares the slots if the code is not that of an active update. -/
theorem complete {code : ErrorCode} (h : code.IsInactive) :
    Spares [(⟨.complete code, ()⟩ : Exchange α)] := by
  intro x hx
  obtain rfl := List.mem_singleton.1 hx
  refine ⟨rfl, ?_⟩
  rintro _ ⟨⟩
  exact h

/-- Exchanges about other things spare the slots. -/
theorem of_about {topics : List Topic} {xs : List (Exchange α)} (h : About topics xs)
    (hother : ∀ topic ∈ topics, topic ∉ [Topic.powerwash, .slots, .delivery]) : Spares xs := by
  intro x hx
  have htopic := hother _ (h x hx)
  constructor
  · rw [Bool.eq_false_iff]
    intro hdecides
    have hmem := Request.topic_of_decidesBoot hdecides
    simp only [List.mem_cons, List.not_mem_nil, or_false, not_or] at hmem htopic
    exact hmem.elim htopic.1 htopic.2.1
  · intro code hcode
    rw [hcode] at htopic
    simp at htopic

end Spares

namespace Runner

variable {config : PostinstallConfig} {plan : InstallPlan} {scheduled : Bool} {es : List (Event α)}

/-! ## The slots -/

/-- Without a switch of slots nothing is done about them, and no attempt ends as an active update
does. -/
theorem Settles.of_not_switch {code c : ErrorCode} {ss : List (Exchange α)}
    (h : Settles plan code ss c) (hswitch : plan.switchSlot = false) :
    ss = [] ∧ c.IsInactive := by
  unfold Settles at h
  by_cases hcode : code = .success
  · rw [if_pos hcode, hswitch, if_neg Bool.false_ne_true] at h
    exact ⟨h.1, .inl h.2⟩
  · rw [if_neg hcode] at h
    exact ⟨h.1, h.2 ▸ ErrorCode.isInactive_of_ne hcode⟩

/-- An attempt that needs no powerwash begins without one, and has no result yet. -/
theorem Opens.of_not_powerwash {r : Runner} {xs : List (Exchange α)} {pt : Point}
    (h : Opens r xs scheduled pt) (hpowerwash : r.plan.powerwashRequired = false) :
    scheduled = false ∧ Spares xs ∧ pt.result? = none := by
  cases h with
  | unmapped hmaps => exact ⟨rfl, .of_about hmaps.about (by decide), rfl⟩
  | unscheduled e hmaps hneeds =>
    rw [hpowerwash] at hneeds
    cases hneeds
  | plain share hmaps =>
    have hxs : About [.mapping, .progress] _ := hmaps.about.mono (by decide)
    refine ⟨rfl, .of_about ((About.append_iff _ _).2 ⟨hxs, by simp⟩) (by decide), rfl⟩
  | scheduled share hmaps hneeds =>
    rw [hpowerwash] at hneeds
    cases hneeds

/-- Every step of an attempt without a switch of slots and without a powerwash spares the slots. -/
theorem Step.spares {pt pt' : Point} {fs : List (Event α)}
    (h : Step config plan false pt fs pt') (hswitch : plan.switchSlot = false)
    (hpt : ∀ code, pt.result? = some code → code.IsInactive) :
    Spares (Event.exchanges fs) ∧ ∀ code, pt'.result? = some code → code.IsInactive := by
  -- The steps that decide about the slots are among those that leave a result behind.
  cases hresult : pt'.result? with
  | none => exact ⟨.of_about (h.about hresult).2 (by decide), nofun⟩
  | some result =>
    cases h with
    | noted => exact ⟨.nil, hresult ▸ hpt⟩
    | @ends code c mounted us ss ps hus hss hps =>
      obtain ⟨rfl, hinactive⟩ := hss.of_not_switch hswitch
      obtain rfl : ps = [] := List.map_eq_nil_iff.1 hps
      have hus' : Spares us := .of_about hus.about (by decide)
      constructor
      · rw [Event.exchanges_map_asked, List.append_nil, List.append_nil, Spares.append_iff]
        exact ⟨hus', .complete hinactive⟩
      · rintro _ ⟨⟩
        cases hresult
        exact hinactive
    | unmaps reply =>
      have hunmaps : About [.mapping] [(⟨.unmapAll, reply⟩ : Exchange α)] := by simp
      exact ⟨.of_about hunmaps (by decide), hresult ▸ hpt⟩
    | _ => cases hresult

/-- The record of an attempt without a switch of slots and without a powerwash spares the slots. -/
theorem Course.spares {pt : Point} (h : Course config plan scheduled es pt)
    (hswitch : plan.switchSlot = false) (hpowerwash : plan.powerwashRequired = false) :
    scheduled = false ∧ Spares (Event.exchanges es) ∧
      ∀ code, pt.result? = some code → code.IsInactive := by
  induction h with
  | @opens before c r xs pt hsilent _ _ hworks hopens =>
    rw [← hworks] at hpowerwash
    obtain ⟨hscheduled, hspares, hresult⟩ := hopens.of_not_powerwash hpowerwash
    refine ⟨hscheduled, ?_, ?_⟩
    · simpa [hsilent] using hspares
    · rw [hresult]
      exact nofun
  | step _ hstep ih =>
    obtain ⟨rfl, hspares, hresult⟩ := ih
    obtain ⟨hspares', hresult'⟩ := hstep.spares hswitch hresult
    refine ⟨rfl, ?_, hresult'⟩
    rw [Event.exchanges_append, Spares.append_iff]
    exact ⟨hspares, hspares'⟩

/-! ## The program -/

/-- Every program that is started is that of a partition of the plan, with the arguments that it has
to get. -/
theorem Course.launches_visited {pt : Point} (h : Course config plan scheduled es pt)
    {argv : List String} {statusFd : Int} {reply : Except SystemError Pid}
    (hspawn : ⟨.spawn argv statusFd, reply⟩ ∈ Event.exchanges es) :
    ∃ p ∈ plan.partitions, ∃ program, IsLaunch config plan p program argv := by
  obtain ⟨n, visits, htour, htouched⟩ := h.tours.exists_tour
  have hmem : .spawn argv statusFd ∈ touched es :=
    List.mem_filter.2 ⟨List.mem_map_of_mem hspawn, rfl⟩
  rw [htouched] at hmem
  obtain ⟨v, hv, hspawned⟩ := List.mem_flatMap.1 hmem
  obtain ⟨-, p, hp, hvisits⟩ := htour.visited v hv
  refine ⟨p, List.mem_of_getElem? hp, ?_⟩
  generalize v.2 = qs at hvisits hspawned
  cases hvisits with
  | mounts options accepted part =>
    exact absurd (part.subset hspawned) (spawn_not_mem_mountRequests options argv statusFd)
  | @launches program argv' options hlaunch =>
    rw [List.mem_append] at hspawned
    have hlast := hspawned.resolve_left (spawn_not_mem_mountRequests options argv statusFd)
    obtain ⟨rfl, -⟩ : argv = argv' ∧ statusFd = config.statusFd := by simpa using hlast
    exact ⟨program, hlaunch⟩

/-- A program that is started for a triggered plan is told so. -/
theorem IsLaunch.arguments_of_isTriggered {p : Partition} {program : Path} {argv : List String}
    (h : IsLaunch config plan p program argv) (htriggered : plan.isTriggered = true) :
    argv = [program.text, toString plan.targetSlot.toNat, toString config.statusFd, "1"] := by
  rw [h.arguments, if_pos ((isTriggered_iff plan).1 htriggered)]
  rfl

/-! ## Records -/

/-- An attempt for a triggered plan leaves the slots as they are, given what was recorded of it and
its result if there is one. -/
structure LeavesSlots (config : PostinstallConfig) (plan : InstallPlan) (xs : List (Exchange α))
    (result : Option ErrorCode) : Prop where
  /-- No update is finished, no slot is made the active one, neither a warm reset is set nor a
  digest is kept, and no powerwash is scheduled or cancelled. -/
  untouched : ∀ x ∈ xs, x.request.decidesBoot = false
  /-- Every program that is started is that of the one partition, and is told that it was triggered
  by a last argument. -/
  told : ∀ argv statusFd reply, ⟨.spawn argv statusFd, reply⟩ ∈ xs →
    ∃ p program, plan.partitions = [p] ∧ programPath config.mountDir p.program = .ok program ∧
      argv = [program.text, toString plan.targetSlot.toNat, toString config.statusFd, "1"]
  /-- No code of an active update is delivered. -/
  delivered : ∀ code, ⟨.complete code, ()⟩ ∈ xs → code.IsInactive
  /-- No code of an active update is the result. -/
  inactive : ∀ code, result = some code → code.IsInactive

/-- What is on the map leaves the slots as they are if the plan is triggered and needs no
powerwash. -/
theorem Charted.leavesSlots {r : Runner} (h : Charted config (some plan) es r)
    (hr : Stable (some plan) r) (htriggered : plan.isTriggered = true)
    (hpowerwash : plan.powerwashRequired = false) :
    LeavesSlots config plan (Event.exchanges es) r.result := by
  obtain ⟨hsingle, hswitch, -⟩ := (isTriggered_iff plan).1 htriggered
  obtain ⟨p, hp⟩ := List.length_eq_one_iff.1 hsingle
  cases h with
  | @begun _ scheduled _ _ harrives =>
    obtain ⟨pt, hcourse, hrests⟩ := harrives
    obtain ⟨-, hspares, hresult⟩ := hcourse.spares hswitch hpowerwash
    constructor
    case untouched => exact fun x hx => (hspares x hx).1
    case told =>
      intro argv statusFd reply hspawn
      obtain ⟨q, hq, program, hlaunch⟩ := hcourse.launches_visited hspawn
      rw [hp, List.mem_singleton] at hq
      exact ⟨p, program, hp, hq ▸ hlaunch.resolved, hlaunch.arguments_of_isTriggered htriggered⟩
    case delivered => exact fun code hcode => (hspares _ hcode).2 code rfl
    case inactive => exact hrests.result?_eq hr ▸ hresult

variable [ProgressNumber α]

/-- An attempt for a plan that was made to run the program of a partition leaves the slots as they
are, on every platform and for all calls, before a runner is given up and when it is. It always
ends, and never as an update that is active does, nor is that returned. The plan has one partition,
the first of the name, which has a program and its devices in the slot that the plan is for, and it
is recognised as a triggered one. -/
theorem triggered_leaves_slots
    {lookup : String → Slot → StateM τ (Except BootError PartitionDevice)} {current : Slot}
    {manifest : Manifest} {partition url : String} {t t' : τ} {plan : InstallPlan}
    (hplan : (InstallPlan.triggered lookup current manifest partition url).run t =
      (.ok plan, t')) :
    (∃ u d, InstallPlan.IsFirstNamed manifest.partitions partition u ∧ u.program ≠ "" ∧
      (lookup partition plan.targetSlot).run t = (.ok d, t') ∧
      plan.partitions = [InstallPlan.partitionOf u d]) ∧
    plan.isTriggered = true ∧
    ∀ (config : PostinstallConfig) (p : Platform α σ) (s : σ),
      (∀ cs, RunnerCall.firstPlan cs = some plan →
        LeavesSlots config plan (afterCalls config cs p s).exchanges
            (afterCalls config cs p s).result.result ∧
          LeavesSlots config plan (afterLifetime config cs p s).exchanges
            (afterLifetime config cs p s).result.result ∧
          ∃ code, (afterLifetime config cs p s).result.result = some code ∧ code.IsInactive) ∧
      ∀ cs c code, RunnerCall.firstPlan (cs ++ [c]) = some plan →
        (afterNext config cs c p s).result.2 = .finished code → code.IsInactive := by
  obtain ⟨u, d, hfirst, hprogram, -, hfound, heq⟩ := InstallPlan.triggered_eq_ok_iff.1 hplan
  have htriggered : plan.isTriggered = true :=
    heq ▸ InstallPlan.isTriggered_triggeredFor current url u d
  have hpowerwash : plan.powerwashRequired = false := heq ▸ rfl
  have hpartitions : plan.partitions = [InstallPlan.partitionOf u d] := heq ▸ rfl
  refine ⟨⟨u, d, hfirst, hprogram, hfound, hpartitions⟩, htriggered, ?_⟩
  intro config p s
  constructor
  · intro cs hcs
    have hcalls := afterCalls_charted config cs p s
    have hcalls' := afterCalls_stable config cs p s
    have hlifetime := lifetime_charted config cs p s
    have hlifetime' := afterLifetime_stable config cs p s
    rw [hcs] at hcalls hcalls' hlifetime hlifetime'
    have hleaves := hcalls.leavesSlots hcalls' htriggered hpowerwash
    have hleaves' := hlifetime.leavesSlots hlifetime' htriggered hpowerwash
    rw [record_exchanges] at hleaves
    rw [lifetimeRecord_exchanges] at hleaves'
    obtain ⟨code, hcode⟩ := afterLifetime_result config cs p s (Option.isSome_of_eq_some hcs)
    exact ⟨hleaves, hleaves', code, hcode, hleaves'.inactive code hcode⟩
  · intro cs c code hcs hfinished
    obtain ⟨hmoves, hresult⟩ := afterNext_moves config cs c p s
    have hstable := afterCalls_stable config cs p s
    have hnext := hmoves.charted (afterCalls_charted config cs p s) hstable
    have hnext' := hmoves.stable hstable
    -- The attempt is the one that the calls start, or else the call after them.
    have hstart : (RunnerCall.firstPlan cs).or (Event.firstPlan
        (.called c :: (afterNext config cs c p s).exchanges.map .asked)) = some plan := by
      rw [Event.firstPlan_called_cons, Event.firstPlan_map_asked, Option.or_none, ← hcs]
      unfold RunnerCall.firstPlan
      rw [List.findSome?_append, List.findSome?_singleton]
    rw [hstart] at hnext hnext'
    exact (hnext.leavesSlots hnext' htriggered hpowerwash).inactive code (hresult code hfinished)

/-! ### A program of a vendor -/

/-- The devices of partitions in memory, with a count of how often they were looked up. -/
def countedDevice (name : String) (slot : Slot) :
    StateM Nat (Except BootError PartitionDevice) := do
  modify (· + 1)
  return MemorySlots.initial.device name slot

/-- A partition with a program that runs. -/
def vendorUpdate (program : String) : PartitionUpdate :=
  { PartitionUpdate.kind.empty with
    partitionName := "vendor"
    runPostinstall := some true
    postinstallPath := some program }

/-- A manifest that names a partition twice. -/
def vendorManifest : Manifest :=
  { Manifest.kind.empty with
    partitions := [vendorUpdate "bin/check", vendorUpdate "bin/other"] }

/-- The plan to run the first program of the vendor. -/
def vendorPlan : InstallPlan :=
  .triggeredFor 0 "" (vendorUpdate "bin/check")
    ⟨⟨"/dev/block/by-name/vendor_b"⟩, ⟨"/dev/block/by-name/vendor_b"⟩, false⟩

/-- The program of the vendor runs and exits, and the slots stay as they are. -/
theorem vendor_leaves_slots :
    (InstallPlan.triggered countedDevice 0 vendorManifest "vendor" "").run 0 =
        (.ok vendorPlan, 1) ∧
      vendorPlan.isTriggered = true ∧
      LeavesSlots .default vendorPlan
        (afterLifetime .default [.perform vendorPlan, .exited 1000 0]
          (Memory.platform : Platform Float (Memory Float)) (.initial .empty)).exchanges
        (afterLifetime .default [.perform vendorPlan, .exited 1000 0]
          (Memory.platform : Platform Float (Memory Float)) (.initial .empty)).result.result := by
  have hplan : (InstallPlan.triggered countedDevice 0 vendorManifest "vendor" "").run 0 =
      (.ok vendorPlan, 1) := by
    rfl
  obtain ⟨-, htriggered, hruns⟩ := triggered_leaves_slots (α := Float) hplan
  obtain ⟨-, hlifetime, -⟩ := (hruns .default Memory.platform (.initial .empty)).1
    [.perform vendorPlan, .exited 1000 0] rfl
  exact ⟨hplan, htriggered, hlifetime⟩

end Runner

end SlotUpdate
