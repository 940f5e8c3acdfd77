import SlotUpdate.Proofs.Postinstall.Story

/-!
# Attempts complete once

An attempt delivers its result exactly once, and nothing is asked for afterwards but, when the
runner is given up, that the partitions are unmapped. The story of a runner shows where a code is
delivered (`Story.delivered`), and a runner that is done stays as it is (`Moves.of_done`).
`CompletesOnce` puts them together for every list of calls.
-/

namespace SlotUpdate

open SlotUpdate.Action

variable {α σ : Type}

/-- The code that a request delivers. -/
def Request.delivered? : Request α → Option ErrorCode
  | .complete code => some code
  | _ => none

/-- The codes that are delivered in exchanges. -/
def deliveries (xs : List (Exchange α)) : List ErrorCode := xs.filterMap (·.request.delivered?)

/-- The codes delivered in exchanges are those of their parts. -/
@[simp]
theorem deliveries_append (xs ys : List (Exchange α)) :
    deliveries (xs ++ ys) = deliveries xs ++ deliveries ys := List.filterMap_append

/-- Exchanges that settle nothing deliver nothing. -/
theorem Quiet.deliveries {xs : List (Exchange α)} (h : Quiet xs) : deliveries xs = [] := by
  unfold SlotUpdate.deliveries
  rw [List.filterMap_eq_nil_iff]
  intro x hx
  have hquiet := h x hx
  generalize x.request = q at hquiet
  cases q with
  | complete code => cases hquiet
  | _ => rfl

/-- What was delivered so far is the result so far, and it was delivered last. -/
def Delivered (xs : List (Exchange α)) : Option ErrorCode → Prop
  | none => deliveries xs = []
  | some code => ∃ before, xs = before ++ [⟨.complete code, ()⟩] ∧ deliveries before = []

namespace Runner

/-- What an attempt does about the slots delivers nothing. -/
theorem Settles.deliveries {plan : InstallPlan} {code c : ErrorCode} {xs : List (Exchange α)}
    (h : Settles plan code xs c) : deliveries xs = [] := by
  unfold Settles at h
  split at h
  · split at h
    · cases h <;> rfl
    · rw [h.1]
      rfl
  · rw [h.1]
    rfl

/-- The story of a runner tells that exactly its result was delivered. -/
theorem Story.delivered {config : PostinstallConfig} {start : Option InstallPlan}
    {es : List (Event α)} {r : Runner} (h : Story config start es r) :
    Delivered (Event.exchanges es) r.result := by
  cases h with
  | idle _ silent result =>
    rw [silent, result]
    rfl
  | running _ result quiet =>
    rw [result]
    exact quiet.deliveries
  | @done _ before after ss ps _ _ c result quiet settles powerwash silent =>
    rw [result]
    refine ⟨Event.exchanges before ++ ss ++ ps, by simp [silent], ?_⟩
    rw [deliveries_append, deliveries_append, quiet.deliveries, settles.deliveries,
      powerwash.deliveries]
    rfl

variable [ProgressNumber α]

omit [ProgressNumber α] in
/-- Without a start nothing was asked for. -/
theorem Story.silent {config : PostinstallConfig} {es : List (Event α)} {r : Runner}
    (h : Story config none es r) : Event.exchanges es = [] := by
  cases h with
  | idle _ silent => exact silent

omit [ProgressNumber α] in
/-- A runner that was started and does not wait any more has a result. -/
theorem Stable.exists_result {start : Option InstallPlan} {r : Runner} (h : Stable start r)
    (hsome : start.isSome = true) (hrests : r.stage = .idle ∨ r.result.isSome = true) :
    ∃ code, r.result = some code := by
  rcases hrests with hidle | hover
  · obtain ⟨rfl, -⟩ := h.isIdle hidle
    cases hsome
  · exact Option.isSome_iff_exists.mp hover

/-- After every call the result is what was delivered. -/
theorem afterCalls_delivered (config : PostinstallConfig) (cs : List RunnerCall)
    (p : Platform α σ) (s : σ) :
    Delivered (afterCalls config cs p s).exchanges (afterCalls config cs p s).result.result := by
  have hdelivered := (afterCalls_story config cs p s).delivered
  rwa [record_exchanges] at hdelivered

/-- Exchanges that follow the calls deliver the result, if it was not delivered before. -/
theorem Moves.delivered {config : PostinstallConfig} {cs : List RunnerCall} {p : Platform α σ}
    {s : σ} {mayCancel : Bool} {es : List (Event α)} {r' : Runner}
    (h : Moves mayCancel (afterCalls config cs p s).result es r') :
    Delivered ((afterCalls config cs p s).exchanges ++ Event.exchanges es) r'.result := by
  have hend := h.story (afterCalls_story config cs p s) (afterCalls_stable config cs p s)
  have hdelivered := hend.delivered
  rwa [Event.exchanges_append, record_exchanges] at hdelivered

/-- That the attempt of a runner completes once, whatever the calls and the platform are. -/
structure CompletesOnce (config : PostinstallConfig) (cs : List RunnerCall) (p : Platform α σ)
    (s : σ) : Prop where
  /-- If no attempt is started, nothing is asked for in the whole lifetime. -/
  unstarted : RunnerCall.firstPlan cs = none → (afterLifetime config cs p s).exchanges = []
  /-- If one is started, one code is delivered, which is the result at the end. Nothing follows but
  that the partitions may be unmapped. -/
  started : (RunnerCall.firstPlan cs).isSome = true → ∃ code before after,
    (afterLifetime config cs p s).exchanges = before ++ [⟨.complete code, ()⟩] ++ after ∧
      deliveries before = [] ∧ (after = [] ∨ ∃ reply, after = [⟨.unmapAll, reply⟩]) ∧
      (afterLifetime config cs p s).result.result = some code
  /-- After every call the result is what was delivered, and nothing followed the delivery. -/
  during : Delivered (afterCalls config cs p s).exchanges (afterCalls config cs p s).result.result
  /-- Once there is a result, no call asks for anything or changes the runner. -/
  final : ∀ c code, (afterCalls config cs p s).result.result = some code →
    (afterNext config cs c p s).exchanges = [] ∧
      (afterNext config cs c p s).result.1 = (afterCalls config cs p s).result
  /-- Giving the runner up then asks at most to unmap the partitions, and the result stays. -/
  released : ∀ code, (afterCalls config cs p s).result.result = some code →
    (afterLifetime config cs p s).result.result = some code ∧ ∃ after,
      (afterLifetime config cs p s).exchanges = (afterCalls config cs p s).exchanges ++ after ∧
      (after = [] ∨ ∃ reply, after = [⟨.unmapAll, reply⟩])
  /-- A whole attempt returns the code that was delivered, which is the result. -/
  returned : ∀ c code, (afterNext config cs c p s).result.2 = .finished code →
    (afterNext config cs c p s).result.1.result = some code ∧
      Delivered ((afterCalls config cs p s).exchanges ++ (afterNext config cs c p s).exchanges)
        (some code)

/-- The attempt of a runner completes once, on every platform and for all calls. -/
theorem completes_once (config : PostinstallConfig) (cs : List RunnerCall) (p : Platform α σ)
    (s : σ) : CompletesOnce config cs p s := by
  have hstable := afterCalls_stable config cs p s
  obtain ⟨ys, us, hrecord, hmoves, hus, hrests⟩ := afterLifetime_moves config cs p s
  have hexchanges : (afterLifetime config cs p s).exchanges =
      (afterCalls config cs p s).exchanges ++ ys ++ us := by
    rw [← lifetimeRecord_exchanges, hrecord, Event.exchanges_append, Event.exchanges_map_asked,
      record_exchanges, List.append_assoc]
    rfl
  have hstable' := hmoves.stable_asked hstable
  constructor
  case unstarted =>
    intro hnone
    have hend := hmoves.story_asked (afterCalls_story config cs p s) hstable
    rw [hnone] at hend hstable'
    have hsilent := hend.silent
    rw [Event.exchanges_append, Event.exchanges_map_asked, record_exchanges] at hsilent
    have hidle : (afterLifetime config cs p s).result.stage = .idle := by
      by_contra hbegun
      have hsome := hstable'.isSome hbegun
      cases hsome
    have hnothing : us = [] := by
      unfold Unmaps at hus
      rw [if_neg (fun hand => hand.1 hidle)] at hus
      exact List.map_eq_nil_iff.mp hus
    rw [hexchanges, hnothing, List.append_nil]
    exact hsilent
  case started =>
    intro hsome
    obtain ⟨code, hcode⟩ := hstable'.exists_result hsome hrests
    have hdelivered := hmoves.delivered
    rw [Event.exchanges_map_asked, hcode] at hdelivered
    obtain ⟨before, hbefore, hnone⟩ := hdelivered
    exact ⟨code, before, us, by rw [hexchanges, hbefore], hnone, hus.eq, hcode⟩
  case during => exact afterCalls_delivered config cs p s
  case final =>
    intro c code hcode
    obtain ⟨hsilent, hsame⟩ := (afterNext_moves config cs c p s).1.of_done hstable hcode
    rw [Event.exchanges_called_cons, Event.exchanges_map_asked] at hsilent
    exact ⟨hsilent, hsame⟩
  case released =>
    intro code hcode
    obtain ⟨hsilent, hsame⟩ := hmoves.of_done hstable hcode
    rw [Event.exchanges_map_asked] at hsilent
    refine ⟨by rw [hsame, hcode], us, ?_, hus.eq⟩
    rw [hexchanges, hsilent, List.append_nil]
  case returned =>
    intro c code hcode
    obtain ⟨hnext, hfinished⟩ := afterNext_moves config cs c p s
    have hdelivered := hnext.delivered
    rw [hfinished code hcode, Event.exchanges_called_cons, Event.exchanges_map_asked] at hdelivered
    exact ⟨hfinished code hcode, hdelivered⟩

end Runner

end SlotUpdate
