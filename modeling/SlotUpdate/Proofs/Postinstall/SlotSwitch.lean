import SlotUpdate.Proofs.List.Places
import SlotUpdate.Proofs.Postinstall.Story

/-!
# The slot is switched safely

The slot that was written becomes the active one at most once in a lifetime, only if the plan says
so, right after the update of the partitions was committed, and only when every partition of the
plan was dealt with. `SwitchesSafely` says this of a record. It is read off the story of the runner:
the record has nothing about the slots but what `Settles` allows, and where that makes a slot the
active one, the part of the record before it accounts for all partitions.
-/

namespace SlotUpdate

variable {α σ : Type}

/-- A request that changes what is booted next, or how. -/
def Request.touchesSlots : Request α → Bool
  | .setActive _ | .warmReset _ | .vbmetaDigest _ => true
  | _ => false

/-- A request that makes a slot the active one. -/
def Request.isSetActive : Request α → Bool
  | .setActive _ => true
  | _ => false

/-- Settling nothing, a request leaves the slots alone. -/
theorem Request.touchesSlots_eq_false {q : Request α} (h : q.settles = false) :
    q.touchesSlots = false := by
  cases q with
  | setActive _ => cases h
  | warmReset _ => cases h
  | vbmetaDigest _ => cases h
  | _ => rfl

/-- Leaving the slots alone, a request makes none the active one. -/
theorem Request.isSetActive_eq_false {q : Request α} (h : q.touchesSlots = false) :
    q.isSetActive = false := by
  cases q with
  | setActive _ => cases h
  | _ => rfl

/-- An event that asks for a slot to be the active one. -/
def Event.isSetActive : Event α → Bool
  | .asked x => x.request.isSetActive
  | .called _ => false

/-- Nothing in a record changes what is booted next, or how. -/
def Untouched (es : List (Event α)) : Prop := ∀ x, .asked x ∈ es → x.request.touchesSlots = false

namespace Untouched

/-- A record leaves the slots alone if its parts do. -/
theorem append {es fs : List (Event α)} (h : Untouched es) (h' : Untouched fs) :
    Untouched (es ++ fs) := by
  intro x hx
  rcases List.mem_append.mp hx with hx | hx
  · exact h x hx
  · exact h' x hx

/-- Exchanges that settle nothing leave the slots alone. -/
theorem of_quiet {es : List (Event α)} (h : Quiet (Event.exchanges es)) : Untouched es := by
  intro x hx
  have hmem : x ∈ Event.exchanges es := List.mem_filterMap.mpr ⟨_, hx, rfl⟩
  exact Request.touchesSlots_eq_false (h x hmem)

/-- In a record that leaves the slots alone nothing asks for a slot to be the active one. -/
theorem countP_eq {es : List (Event α)} (h : Untouched es) : es.countP Event.isSetActive = 0 := by
  rw [List.countP_eq_zero]
  intro e he
  cases e with
  | called c => simp [Event.isSetActive]
  | asked x => simp [Event.isSetActive, Request.isSetActive_eq_false (h x he)]

end Untouched

namespace Runner

/-- That a slot is switched safely in the record of a runner with a result. -/
structure SwitchesSafely (config : PostinstallConfig) (start : Option InstallPlan)
    (es : List (Event α)) (result : Option ErrorCode) : Prop where
  /-- A slot is made the active one at most once. -/
  once : es.countP Event.isSetActive ≤ 1
  /-- It is the one that the plan says, if the plan says so. The update of the partitions was
  committed right before, and if there is a source of the payload, every partition was dealt with
  before that. -/
  guarded : ∀ before slot reply after, es = before ++ .asked ⟨.setActive slot, reply⟩ :: after →
    ∃ plan, start = some plan ∧ plan.switchSlot = true ∧ slot = plan.targetSlot ∧
      ∃ earlier, before = earlier ++ [.asked ⟨.finishUpdate plan.powerwashRequired, .ok ()⟩] ∧
        (plan.downloadUrl ≠ "" → AccountsFor config plan plan.partitions earlier)
  /-- The result is a success exactly if a slot was made the active one. -/
  success : result = some .success ↔ ∃ slot, .asked ⟨.setActive slot, .ok ()⟩ ∈ es
  /-- With any other result no slot was. -/
  failed : ∀ code, result = some code → code ≠ .success →
    ∀ slot, .asked ⟨.setActive slot, .ok ()⟩ ∉ es
  /-- The warm reset and the digest are touched only after a slot was made the active one. -/
  afterwards : ∀ before x after, es = before ++ .asked x :: after →
    (∃ on, x.request = .warmReset on) ∨ (∃ reset, x.request = .vbmetaDigest reset) →
    ∃ slot, .asked ⟨.setActive slot, .ok ()⟩ ∈ before

/-- A record that leaves the slots alone switches them safely. -/
theorem SwitchesSafely.of_untouched {config : PostinstallConfig} {start : Option InstallPlan}
    {es : List (Event α)} {result : Option ErrorCode} (h : Untouched es)
    (hresult : result ≠ some .success) : SwitchesSafely config start es result := by
  have hnone : ∀ slot reply, .asked ⟨.setActive slot, reply⟩ ∉ es := by
    intro slot reply hmem
    have htouched := h _ hmem
    cases htouched
  constructor
  case once =>
    rw [h.countP_eq]
    exact Nat.zero_le 1
  case guarded =>
    rintro before slot reply after rfl
    exact absurd (List.mem_append_right before List.mem_cons_self) (hnone slot reply)
  case success =>
    exact ⟨fun heq => absurd heq hresult, fun ⟨slot, hmem⟩ => absurd hmem (hnone slot _)⟩
  case failed => exact fun _ _ _ slot => hnone slot _
  case afterwards =>
    rintro before x after rfl hkind
    have hx := h x (List.mem_append_right before List.mem_cons_self)
    rcases hkind with ⟨on, heq⟩ | ⟨reset, heq⟩
    · rw [heq] at hx
      cases hx
    · rw [heq] at hx
      cases hx

/-- A record in which a slot is to be made the active one, after the commit, switches it safely. -/
theorem SwitchesSafely.of_switch {config : PostinstallConfig} {plan : InstallPlan}
    {before after : List (Event α)} {reply : Except BootError Unit} {c : ErrorCode}
    (hbefore : Untouched before) (hafter : after.countP Event.isSetActive = 0)
    (htouched : reply = .ok () ∨ Untouched after) (hswitch : plan.switchSlot = true)
    (haccounts : plan.downloadUrl ≠ "" → AccountsFor config plan plan.partitions before)
    (hresult : c = .success ↔ reply = .ok ()) :
    SwitchesSafely config (some plan)
      (before ++ [.asked ⟨.finishUpdate plan.powerwashRequired, .ok ()⟩] ++
        .asked ⟨.setActive plan.targetSlot, reply⟩ :: after) (some c) := by
  have hcommitted : Untouched
      (before ++ [.asked ⟨.finishUpdate plan.powerwashRequired, .ok ()⟩]) := by
    apply hbefore.append
    intro x hx
    obtain rfl : x = ⟨.finishUpdate plan.powerwashRequired, .ok ()⟩ := by simpa using hx
    rfl
  generalize hcommit :
    before ++ [.asked (⟨.finishUpdate plan.powerwashRequired, .ok ()⟩ : Exchange α)] = committed
    at hcommitted ⊢
  have hnone : ∀ slot reply', .asked ⟨.setActive slot, reply'⟩ ∉ committed := by
    intro slot reply' hmem
    have hx := hcommitted _ hmem
    cases hx
  have hnone' : ∀ slot reply', .asked ⟨.setActive slot, reply'⟩ ∉ after := by
    intro slot reply' hmem
    have hx := List.countP_eq_zero.mp hafter _ hmem
    exact hx rfl
  have hswitched : ∀ slot, .asked ⟨.setActive slot, .ok ()⟩ ∈
      committed ++ .asked ⟨.setActive plan.targetSlot, reply⟩ :: after → reply = .ok () := by
    intro slot hmem
    rcases List.mem_append.mp hmem with hmem | hmem
    · exact absurd hmem (hnone slot _)
    · rcases List.mem_cons.mp hmem with heq | hmem
      · cases heq
        rfl
      · exact absurd hmem (hnone' slot _)
  constructor
  case once =>
    rw [List.countP_append, hcommitted.countP_eq, List.countP_cons, hafter]
    split <;> omega
  case guarded =>
    intro earlier slot reply' later heq
    obtain ⟨rfl, hsame⟩ := split_unique heq (hnone slot reply') (hnone' slot reply')
    cases hsame
    exact ⟨plan, rfl, hswitch, rfl, before, hcommit.symm, haccounts⟩
  case success =>
    constructor
    · intro heq
      rw [hresult.mp (Option.some.inj heq)]
      exact ⟨plan.targetSlot, List.mem_append_right committed List.mem_cons_self⟩
    · rintro ⟨slot, hmem⟩
      rw [hresult.mpr (hswitched slot hmem)]
  case failed =>
    rintro code heq hcode slot hmem
    rw [← Option.some.inj heq] at hcode
    exact hcode (hresult.mpr (hswitched slot hmem))
  case afterwards =>
    intro earlier x later heq hkind
    have hx : x.request.touchesSlots = true := by
      rcases hkind with ⟨on, hx⟩ | ⟨reset, hx⟩ <;> rw [hx] <;> rfl
    have hother : x ≠ ⟨.setActive plan.targetSlot, reply⟩ := by
      rintro rfl
      rcases hkind with ⟨on, hx⟩ | ⟨reset, hx⟩ <;> cases hx
    have hfirst : .asked x ∉ committed := by
      intro hmem
      rw [hcommitted x hmem] at hx
      cases hx
    rcases htouched with rfl | hleft
    · -- Up to the switch the record is untouched, so it is a part of what stands before.
      have hfirst' : .asked x ∉ committed ++ [.asked ⟨.setActive plan.targetSlot, .ok ()⟩] := by
        intro hmem
        rcases List.mem_append.mp hmem with hmem | hmem
        · exact hfirst hmem
        · exact hother (Event.asked.inj (List.mem_singleton.mp hmem))
      rw [List.append_cons] at heq
      have hprefix := prefix_of_not_mem heq hfirst'
      exact ⟨plan.targetSlot, hprefix.subset (List.mem_append_right committed List.mem_cons_self)⟩
    · -- Nothing touches the slots at all.
      have hmem : .asked x ∈ committed ++ .asked ⟨.setActive plan.targetSlot, reply⟩ :: after := by
        rw [heq]
        exact List.mem_append_right earlier List.mem_cons_self
      rcases List.mem_append.mp hmem with hmem | hmem
      · exact absurd hmem hfirst
      · rcases List.mem_cons.mp hmem with hsame | hmem
        · exact absurd (Event.asked.inj hsame) hother
        · rw [hleft x hmem] at hx
          cases hx

/-- What an attempt does about the slots is safe between parts of a record that leave them alone. -/
theorem Settles.switchesSafely {config : PostinstallConfig} {plan : InstallPlan}
    {before after : List (Event α)} {ss : List (Exchange α)} {code c : ErrorCode}
    (h : Settles plan code ss c) (hbefore : Untouched before) (hafter : Untouched after)
    (haccounts : code = .success → plan.downloadUrl ≠ "" →
      AccountsFor config plan plan.partitions before) :
    SwitchesSafely config (some plan) (before ++ ss.map .asked ++ after) (some c) := by
  have hbetween : ∀ x : Exchange α, x.request.touchesSlots = false →
      Untouched (before ++ [.asked x] ++ after) := by
    intro x hx
    refine (hbefore.append ?_).append hafter
    intro y hy
    obtain rfl : y = x := by simpa using hy
    exact hx
  unfold Settles at h
  split at h
  · rename_i hcode
    split at h
    · rename_i hswitch
      cases h with
      | unfinished e => exact .of_untouched (hbetween _ rfl) (by simp)
      | refused e =>
        have hfails : ErrorCode.postinstallRunnerError = .success ↔
            (.error e : Except BootError Unit) = .ok () := by simp
        have hsafe := SwitchesSafely.of_switch hbefore hafter.countP_eq (Or.inr hafter) hswitch
          (haccounts hcode) hfails
        simpa using hsafe
      | switched reply =>
        have hcount : (.asked ⟨.warmReset true, ()⟩ :: .asked ⟨.vbmetaDigest false, reply⟩ ::
            after).countP Event.isSetActive = 0 := by
          simpa [Event.isSetActive, Request.isSetActive] using hafter.countP_eq
        have hsafe : SwitchesSafely config (some plan) _ (some .success) :=
          .of_switch hbefore hcount (Or.inl rfl) hswitch (haccounts hcode) (by simp)
        simpa using hsafe
    · obtain ⟨rfl, rfl⟩ := h
      exact .of_untouched (by simpa using hbefore.append hafter) (by simp)
  · rename_i hcode
    obtain ⟨rfl, rfl⟩ := h
    exact .of_untouched (by simpa using hbefore.append hafter) (by simpa using hcode)

/-- The story of a runner tells that slots are switched safely, also if exchanges follow that settle
nothing. -/
theorem Story.switchesSafely {config : PostinstallConfig} {start : Option InstallPlan}
    {es : List (Event α)} {r : Runner} (h : Story config start es r) {us : List (Exchange α)}
    (hus : Quiet us) : SwitchesSafely config start (es ++ us.map .asked) r.result := by
  have hquiet : ∀ {fs : List (Event α)}, Quiet (Event.exchanges fs) →
      Untouched (fs ++ us.map .asked) := by
    intro fs hfs
    exact .of_quiet (by simp [hfs, hus])
  cases h with
  | idle _ silent result =>
    rw [result]
    exact .of_untouched (hquiet (by simp [silent])) (by simp)
  | running _ result quiet =>
    rw [result]
    exact .of_untouched (hquiet quiet) (by simp)
  | @done _ before after ss ps _ code c result quiet settles powerwash silent accounts =>
    rw [result]
    have hafter : Untouched
        ((ps ++ [(⟨.complete c, ()⟩ : Exchange α)]).map .asked ++ after ++ us.map .asked) := by
      refine .append (.append ?_ (.of_quiet (by simp [silent]))) (.of_quiet (by simp [hus]))
      rw [List.map_append]
      refine .append (.of_quiet (by simp [powerwash])) ?_
      intro x hx
      obtain rfl : x = ⟨.complete c, ()⟩ := by simpa using hx
      rfl
    have hsafe := settles.switchesSafely (.of_quiet quiet) hafter accounts
    simpa using hsafe

variable [ProgressNumber α]

/-- Slots are switched safely, on every platform and for all calls, before a runner is given up and
when it is. -/
theorem switches_safely (config : PostinstallConfig) (cs : List RunnerCall) (p : Platform α σ)
    (s : σ) :
    SwitchesSafely config (RunnerCall.firstPlan cs) (record p (new config) cs s)
        (afterCalls config cs p s).result.result ∧
      SwitchesSafely config (RunnerCall.firstPlan cs) (lifetimeRecord config cs p s)
        (afterLifetime config cs p s).result.result := by
  have hstory := afterCalls_story config cs p s
  constructor
  · have hsafe := hstory.switchesSafely .nil
    simpa using hsafe
  · obtain ⟨ys, us, hrecord, hmoves, hus, -⟩ := afterLifetime_moves config cs p s
    have hend := hmoves.story_asked hstory (afterCalls_stable config cs p s)
    have hsafe := hend.switchesSafely hus.quiet
    rw [hrecord]
    simpa using hsafe

end Runner

end SlotUpdate
