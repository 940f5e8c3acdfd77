import SlotUpdate.Proofs.List.Places
import SlotUpdate.Proofs.Postinstall.Topics

/-!
# The powerwash is accounted for

An attempt asks for a powerwash at most once, exactly if its plan needs one and the partitions could
be mapped. It takes back what it asked for, once and before its result is delivered, exactly if that
result is a failure, and it takes nothing else back. `AccountsForPowerwash` says this of exchanges.

The exchanges that matter are few, whatever happens in between: `Prepares` says which ones begin an
attempt and `Concludes` which ones end it. Every step of the course of an attempt adds none, but for
the one that ends it (`Step.concludes`), so that the whole record has no others
(`Course.powerwashPart`).
-/

namespace SlotUpdate

variable {α σ : Type}

/-- A request that maps the partitions, is about the powerwash, or delivers the result. -/
def Request.marksPowerwash : Request α → Bool
  | .mapAll | .schedulePowerwash | .cancelPowerwash | .complete _ => true
  | _ => false

/-- A request for a powerwash. -/
def Request.isSchedulePowerwash : Request α → Bool
  | .schedulePowerwash => true
  | _ => false

/-- A request that takes a powerwash back. -/
def Request.isCancelPowerwash : Request α → Bool
  | .cancelPowerwash => true
  | _ => false

/-- A request for a powerwash matters for it. -/
theorem Request.marks_of_isSchedulePowerwash (q : Request α) (h : q.isSchedulePowerwash = true) :
    q.marksPowerwash = true := by
  cases q with
  | schedulePowerwash => rfl
  | _ => cases h

/-- A request that takes a powerwash back matters for it. -/
theorem Request.marks_of_isCancelPowerwash (q : Request α) (h : q.isCancelPowerwash = true) :
    q.marksPowerwash = true := by
  cases q with
  | cancelPowerwash => rfl
  | _ => cases h

/-- The exchanges that matter for the powerwash. -/
def powerwashPart (xs : List (Exchange α)) : List (Exchange α) :=
  xs.filter (·.request.marksPowerwash)

/-- No exchange matters for the powerwash if there is none. -/
@[simp]
theorem powerwashPart_nil : powerwashPart ([] : List (Exchange α)) = [] := rfl

/-- What matters for the powerwash is what does so in the parts. -/
@[simp]
theorem powerwashPart_append (xs ys : List (Exchange α)) :
    powerwashPart (xs ++ ys) = powerwashPart xs ++ powerwashPart ys := List.filter_append ..

/-- What matters for the powerwash is among all exchanges. -/
theorem mem_powerwashPart {xs : List (Exchange α)} {x : Exchange α}
    (hmarks : x.request.marksPowerwash = true) : x ∈ powerwashPart xs ↔ x ∈ xs := by
  unfold powerwashPart
  rw [List.mem_filter, hmarks]
  exact and_iff_left rfl

/-- What matters for the powerwash can be counted among all exchanges. -/
theorem countP_powerwashPart (xs : List (Exchange α)) {kind : Request α → Bool}
    (hmarks : ∀ q, kind q = true → q.marksPowerwash = true) :
    (powerwashPart xs).countP (fun x => kind x.request) = xs.countP (fun x => kind x.request) := by
  unfold powerwashPart
  rw [List.countP_filter]
  apply List.countP_congr
  intro x _
  rw [Bool.and_eq_true]
  exact and_iff_left_of_imp (hmarks x.request)

/-- Only exchanges about mapping, the powerwash or the delivery matter for the powerwash. -/
theorem About.powerwashPart {topics : List Topic} {xs : List (Exchange α)} (h : About topics xs)
    (hdisjoint : ∀ topic ∈ topics, topic ∉ [Topic.mapping, .powerwash, .delivery]) :
    powerwashPart xs = [] := by
  refine h.filter_eq_nil ?_ hdisjoint
  rintro ⟨request, reply⟩ hmarks
  cases request <;> simp_all [Request.marksPowerwash]

/-- A powerwash has to be taken back: it was asked for, and the result is a failure. -/
def MustTakeBack (xs : List (Exchange α)) (result : Option ErrorCode) : Prop :=
  ⟨.schedulePowerwash, .ok ()⟩ ∈ xs ∧
    ∃ code, result = some code ∧ code ≠ .success ∧ code ≠ .updatedButNotActive

/-- A result is a failure if it is neither of the two that count as success. -/
theorem any_isFailure_iff (result : Option ErrorCode) : result.any (!·.isSuccess) = true ↔
    ∃ code, result = some code ∧ code ≠ .success ∧ code ≠ .updatedButNotActive := by
  have hfailure : ∀ code : ErrorCode,
      (!code.isSuccess) = true ↔ code ≠ .success ∧ code ≠ .updatedButNotActive := by
    intro code
    cases code <;> simp [ErrorCode.isSuccess]
  cases result with
  | none => simp
  | some code => simp [hfailure]

/-- That the powerwash is accounted for in exchanges, given the plan of the attempt if one was
started, and its result if there is one. -/
structure AccountsForPowerwash (start : Option InstallPlan) (xs : List (Exchange α))
    (result : Option ErrorCode) : Prop where
  /-- A powerwash is asked for at most once. -/
  once : xs.countP (·.request.isSchedulePowerwash) ≤ 1
  /-- It is asked for exactly if an attempt was started whose plan needs one, and the partitions
  could be mapped. -/
  scheduled : (∃ reply, ⟨.schedulePowerwash, reply⟩ ∈ xs) ↔ ∃ plan, start = some plan ∧
    plan.powerwashRequired = true ∧ ∀ e, ⟨.mapAll, .error e⟩ ∉ xs
  /-- A powerwash that has to be taken back is, exactly once. -/
  takenBack : MustTakeBack xs result → xs.countP (·.request.isCancelPowerwash) = 1
  /-- None is taken back otherwise. -/
  kept : ¬MustTakeBack xs result → xs.countP (·.request.isCancelPowerwash) = 0
  /-- The powerwash is taken back after it was asked for, and before the result is delivered. -/
  ordered : ∀ before reply after, xs = before ++ ⟨.cancelPowerwash, reply⟩ :: after →
    ⟨.schedulePowerwash, .ok ()⟩ ∈ before ∧ (∀ code, ⟨.complete code, ()⟩ ∉ before) ∧
      ∃ code, result = some code ∧ ⟨.complete code, ()⟩ ∈ after

namespace Runner

/-! ## The beginning and the end -/

/-- The exchanges that matter for the powerwash when an attempt begins, and whether they asked for
one with success. -/
inductive Prepares (plan : InstallPlan) : List (Exchange α) → Bool → Prop where
  /-- The partitions cannot be mapped. -/
  | unmapped (e : BootError) : Prepares plan [⟨.mapAll, .error e⟩] false
  /-- No powerwash is needed. -/
  | plain {ms : List (Exchange α)} (maps : ∀ x ∈ ms, x = ⟨.mapAll, .ok ()⟩)
    (powerwash : plan.powerwashRequired = false) : Prepares plan ms false
  /-- A powerwash is asked for. -/
  | asks {ms : List (Exchange α)} (reply : Except BootError Unit)
    (maps : ∀ x ∈ ms, x = ⟨.mapAll, .ok ()⟩) (powerwash : plan.powerwashRequired = true) :
    Prepares plan (ms ++ [⟨.schedulePowerwash, reply⟩]) reply.isOk

/-- The exchanges that matter for the powerwash after that, up to a result or as long as there is
none. -/
def Concludes (scheduled : Bool) (result : Option ErrorCode) (cs : List (Exchange α)) : Prop :=
  match result with
  | none => cs = []
  | some code => ∃ ps, cs = ps ++ [⟨.complete code, ()⟩] ∧
      ps.map (·.request) =
        if scheduled && !code.isSuccess then [Request.cancelPowerwash] else []

/-- Mapping that succeeds leaves at most the wish to map. -/
theorem Maps.powerwashPart {r : Runner} {ms : List (Exchange α)} (h : Maps r ms (.ok ())) :
    ∀ x ∈ powerwashPart ms, x = ⟨.mapAll, .ok ()⟩ := by
  cases h with
  | needless => exact fun x hx => nomatch hx
  | asks => exact fun x hx => List.mem_singleton.mp hx

/-- The beginning of an attempt prepares it, and delivers no result. -/
theorem Opens.prepares {r : Runner} {xs : List (Exchange α)} {scheduled : Bool} {pt : Point}
    (h : Opens r xs scheduled pt) :
    Prepares r.plan (powerwashPart xs) scheduled ∧ pt.result? = none := by
  cases h with
  | unmapped hmaps =>
    cases hmaps with
    | asks => exact ⟨.unmapped _, rfl⟩
  | unscheduled e hmaps hneeds =>
    rw [powerwashPart_append]
    exact ⟨.asks (.error e) hmaps.powerwashPart hneeds, rfl⟩
  | @plain ms share hmaps hneeds =>
    have hprogress : powerwashPart [(⟨.progress share, ()⟩ : Exchange α)] = [] := rfl
    rw [powerwashPart_append, hprogress, List.append_nil]
    exact ⟨.plain hmaps.powerwashPart hneeds, rfl⟩
  | scheduled _ hmaps hneeds =>
    rw [powerwashPart_append]
    exact ⟨.asks (.ok ()) hmaps.powerwashPart hneeds, rfl⟩

/-- Taking a powerwash back is all that matters of it. -/
theorem powerwashPart_takesBack {ps : List (Exchange α)} {takes : Bool}
    (h : ps.map (·.request) = if takes then [Request.cancelPowerwash] else []) :
    powerwashPart ps = ps := by
  unfold powerwashPart
  rw [List.filter_eq_self]
  intro x hx
  have hmem : x.request ∈ ps.map (·.request) := List.mem_map_of_mem hx
  rw [h] at hmem
  cases takes with
  | false => cases hmem
  | true =>
    rw [List.mem_singleton.mp hmem]
    rfl

/-- A step adds nothing that matters for the powerwash, unless it ends the attempt. -/
theorem Step.concludes {config : PostinstallConfig} {plan : InstallPlan} {scheduled : Bool}
    {pt pt' : Point} {es : List (Event α)} (h : Step config plan scheduled pt es pt')
    {cs : List (Exchange α)} (hcs : Concludes scheduled pt.result? cs) :
    Concludes scheduled pt'.result? (cs ++ powerwashPart (Event.exchanges es)) := by
  cases hresult : pt'.result? with
  | none =>
    obtain ⟨hnone, habout⟩ := h.about hresult
    rw [hnone] at hcs
    rw [habout.powerwashPart (by decide), List.append_nil]
    exact hcs
  | some code =>
    cases h with
    | noted =>
      rw [hresult] at hcs
      simpa using hcs
    | unmaps =>
      rw [← hresult]
      simpa [powerwashPart, Request.marksPowerwash] using hcs
    | @ends _ c _ us ss ps hus hss hps =>
      obtain rfl : cs = [] := hcs
      obtain rfl := Option.some.inj hresult
      have hcomplete : powerwashPart [(⟨.complete c, ()⟩ : Exchange α)] = [⟨.complete c, ()⟩] := rfl
      refine ⟨ps, ?_, hps⟩
      rw [Event.exchanges_map_asked]
      simp only [powerwashPart_append, hus.about.powerwashPart (by decide),
        hss.about.powerwashPart (by decide), powerwashPart_takesBack hps, hcomplete,
        List.nil_append]
    | _ => cases hresult

/-- What matters for the powerwash in the record of an attempt. -/
theorem Course.powerwashPart {config : PostinstallConfig} {plan : InstallPlan} {scheduled : Bool}
    {es : List (Event α)} {pt : Point} (h : Course config plan scheduled es pt) :
    ∃ os cs, powerwashPart (Event.exchanges es) = os ++ cs ∧ Prepares plan os scheduled ∧
      Concludes scheduled pt.result? cs := by
  induction h with
  | opens hsilent _ _ hworks hopens =>
    obtain ⟨hprepares, hnone⟩ := hopens.prepares
    rw [hworks] at hprepares
    refine ⟨_, [], ?_, hprepares, ?_⟩
    · simp [hsilent]
    · rw [hnone]
      rfl
  | step _ hstep ih =>
    obtain ⟨os, cs, hpart, hprepares, hconcludes⟩ := ih
    refine ⟨os, _, ?_, hprepares, hstep.concludes hconcludes⟩
    rw [Event.exchanges_append, powerwashPart_append, hpart, List.append_assoc]

/-! ## Reading the beginning and the end -/

/-- The beginning of an attempt only maps and asks for a powerwash. -/
theorem Prepares.request {plan : InstallPlan} {scheduled : Bool} {os : List (Exchange α)}
    (h : Prepares plan os scheduled) :
    ∀ x ∈ os, x.request = .mapAll ∨ x.request = .schedulePowerwash := by
  have hmapped : ∀ {ms : List (Exchange α)}, (∀ x ∈ ms, x = ⟨.mapAll, .ok ()⟩) →
      ∀ x ∈ ms, x.request = .mapAll ∨ x.request = .schedulePowerwash := by
    intro ms hms x hx
    rw [hms x hx]
    exact Or.inl rfl
  cases h with
  | unmapped => simp
  | plain hmaps => exact hmapped hmaps
  | asks reply hmaps =>
    rw [List.forall_mem_append]
    exact ⟨hmapped hmaps, by simp⟩

/-- A powerwash is asked for at most once. -/
theorem Prepares.countP_le {plan : InstallPlan} {scheduled : Bool} {os : List (Exchange α)}
    (h : Prepares plan os scheduled) : os.countP (·.request.isSchedulePowerwash) ≤ 1 := by
  have hmapped : ∀ {ms : List (Exchange α)}, (∀ x ∈ ms, x = ⟨.mapAll, .ok ()⟩) →
      ms.countP (·.request.isSchedulePowerwash) = 0 := by
    intro ms hms
    rw [List.countP_eq_zero]
    intro x hx
    rw [hms x hx]
    exact Bool.false_ne_true
  cases h with
  | unmapped => exact Nat.zero_le 1
  | plain hmaps =>
    rw [hmapped hmaps]
    exact Nat.zero_le 1
  | asks reply hmaps =>
    rw [List.countP_append, hmapped hmaps]
    exact Nat.le_refl 1

/-- A powerwash is asked for exactly if it is needed and the partitions could be mapped. -/
theorem Prepares.asks_iff {plan : InstallPlan} {scheduled : Bool} {os : List (Exchange α)}
    (h : Prepares plan os scheduled) : (∃ reply, ⟨.schedulePowerwash, reply⟩ ∈ os) ↔
      plan.powerwashRequired = true ∧ ∀ e, ⟨.mapAll, .error e⟩ ∉ os := by
  cases h with
  | unmapped e =>
    constructor
    · rintro ⟨reply, hmem⟩
      cases List.mem_singleton.mp hmem
    · rintro ⟨-, hnone⟩
      exact absurd (List.mem_singleton_self _) (hnone e)
  | plain hmaps hneeds =>
    constructor
    · rintro ⟨reply, hmem⟩
      cases hmaps _ hmem
    · rintro ⟨hneeded, -⟩
      rw [hneeds] at hneeded
      cases hneeded
  | asks reply hmaps hneeds =>
    constructor
    · refine fun _ => ⟨hneeds, ?_⟩
      intro e hmem
      rcases List.mem_append.mp hmem with hmem | hmem
      · cases hmaps _ hmem
      · cases List.mem_singleton.mp hmem
    · exact fun _ => ⟨reply, List.mem_append_right _ (List.mem_singleton_self _)⟩

/-- The beginning knows whether a powerwash was asked for with success. -/
theorem Prepares.scheduled_iff {plan : InstallPlan} {scheduled : Bool} {os : List (Exchange α)}
    (h : Prepares plan os scheduled) :
    ⟨.schedulePowerwash, .ok ()⟩ ∈ os ↔ scheduled = true := by
  cases h with
  | unmapped =>
    refine ⟨?_, fun hfalse => nomatch hfalse⟩
    intro hmem
    cases List.mem_singleton.mp hmem
  | plain hmaps =>
    refine ⟨?_, fun hfalse => nomatch hfalse⟩
    intro hmem
    cases hmaps _ hmem
  | asks reply hmaps =>
    cases reply with
    | ok u => exact ⟨fun _ => rfl, fun _ => List.mem_append_right _ (List.mem_singleton_self _)⟩
    | error e =>
      refine ⟨?_, fun hfalse => nomatch hfalse⟩
      intro hmem
      rcases List.mem_append.mp hmem with hmem | hmem
      · cases hmaps _ hmem
      · cases List.mem_singleton.mp hmem

/-- The end of an attempt only takes a powerwash back and delivers the result. -/
theorem Concludes.request {scheduled : Bool} {result : Option ErrorCode} {cs : List (Exchange α)}
    (h : Concludes scheduled result cs) :
    ∀ x ∈ cs, x.request = .cancelPowerwash ∨ ∃ code, x.request = .complete code := by
  cases result with
  | none =>
    obtain rfl : cs = [] := h
    exact fun x hx => nomatch hx
  | some code =>
    obtain ⟨ps, rfl, hps⟩ := h
    rw [List.forall_mem_append]
    refine ⟨?_, by simp⟩
    intro x hx
    have hmem : x.request ∈ ps.map (·.request) := List.mem_map_of_mem hx
    rw [hps] at hmem
    split at hmem
    · exact Or.inl (List.mem_singleton.mp hmem)
    · cases hmem

/-- The end takes a powerwash back once if one was asked for and the result is a failure, and never
otherwise. -/
theorem Concludes.countP_eq {scheduled : Bool} {result : Option ErrorCode}
    {cs : List (Exchange α)} (h : Concludes scheduled result cs) :
    cs.countP (·.request.isCancelPowerwash) =
      if scheduled && result.any (!·.isSuccess) then 1 else 0 := by
  cases result with
  | none =>
    obtain rfl : cs = [] := h
    simp
  | some code =>
    obtain ⟨ps, rfl, hps⟩ := h
    have hcount : ps.countP (·.request.isCancelPowerwash) =
        (ps.map (·.request)).countP Request.isCancelPowerwash := by
      rw [List.countP_map]
      rfl
    rw [List.countP_append, hcount, hps]
    cases scheduled <;> cases hsuccess : code.isSuccess <;>
      simp [hsuccess, Request.isCancelPowerwash]

/-- Where the end takes a powerwash back, the delivery of the result follows. -/
theorem Concludes.of_cancel {scheduled : Bool} {result : Option ErrorCode}
    {before after : List (Exchange α)} {reply : Except BootError Unit}
    (h : Concludes scheduled result (before ++ ⟨.cancelPowerwash, reply⟩ :: after)) :
    scheduled = true ∧ before = [] ∧
      ∃ code, result = some code ∧ after = [⟨.complete code, ()⟩] := by
  have hcount := h.countP_eq
  rw [List.countP_append, List.countP_cons] at hcount
  cases result with
  | none =>
    have hnone : before ++ ⟨.cancelPowerwash, reply⟩ :: after = [] := h
    simp at hnone
  | some code =>
    obtain ⟨ps, heq, hps⟩ := h
    split at hps
    · rename_i htakes
      obtain ⟨x, rfl, -⟩ := List.map_eq_singleton_iff.mp hps
      rw [Bool.and_eq_true] at htakes
      refine ⟨htakes.1, ?_⟩
      cases before with
      | nil => exact ⟨rfl, code, rfl, (List.cons.inj heq).2⟩
      | cons y before =>
        -- The delivery is the last exchange, and it takes nothing back.
        have hrest := (List.cons.inj heq).2
        cases before with
        | nil => cases (List.cons.inj hrest).1
        | cons z before => simp at hrest
    · obtain rfl := List.map_eq_nil_iff.mp hps
      cases before with
      | nil => cases (List.cons.inj heq).1
      | cons y before => simp at heq

/-- The powerwash is accounted for if what matters for it is a beginning and an end. -/
theorem accountsForPowerwash_of_parts {plan : InstallPlan} {scheduled : Bool}
    {result : Option ErrorCode} {xs os cs : List (Exchange α)} (hpart : powerwashPart xs = os ++ cs)
    (hos : Prepares plan os scheduled) (hcs : Concludes scheduled result cs) :
    AccountsForPowerwash (some plan) xs result := by
  have hmem : ∀ {x : Exchange α}, x.request.marksPowerwash = true → (x ∈ xs ↔ x ∈ os ++ cs) := by
    intro x hmarks
    rw [← hpart, mem_powerwashPart hmarks]
  have hbegins : ∀ {x : Exchange α}, x ∈ os ++ cs → x.request = .mapAll ∨
      x.request = .schedulePowerwash → x ∈ os := by
    intro x hx hkind
    apply (List.mem_append.mp hx).resolve_right
    intro hx'
    rcases hcs.request x hx' with heq | ⟨code, heq⟩ <;> rw [heq] at hkind <;> simp at hkind
  have hschedules : ∀ reply,
      ⟨.schedulePowerwash, reply⟩ ∈ xs ↔ ⟨.schedulePowerwash, reply⟩ ∈ os := by
    intro reply
    rw [hmem rfl]
    exact ⟨fun hx => hbegins hx (Or.inr rfl), fun hx => List.mem_append_left cs hx⟩
  have hmaps : ∀ e, ⟨.mapAll, .error e⟩ ∈ xs ↔ ⟨.mapAll, .error e⟩ ∈ os := by
    intro e
    rw [hmem rfl]
    exact ⟨fun hx => hbegins hx (Or.inl rfl), fun hx => List.mem_append_left cs hx⟩
  have hcancels : xs.countP (·.request.isCancelPowerwash) =
      if scheduled && result.any (!·.isSuccess) then 1 else 0 := by
    have hnone : os.countP (·.request.isCancelPowerwash) = 0 := by
      rw [List.countP_eq_zero]
      intro x hx
      rcases hos.request x hx with heq | heq <;> rw [heq] <;> exact Bool.false_ne_true
    rw [← countP_powerwashPart xs Request.marks_of_isCancelPowerwash, hpart, List.countP_append,
      hnone, hcs.countP_eq, Nat.zero_add]
  have hasked : ⟨.schedulePowerwash, .ok ()⟩ ∈ xs ↔ scheduled = true :=
    (hschedules (.ok ())).trans hos.scheduled_iff
  have hmust : MustTakeBack xs result ↔ (scheduled && result.any (!·.isSuccess)) = true := by
    unfold MustTakeBack
    rw [hasked, Bool.and_eq_true, any_isFailure_iff]
  constructor
  case once =>
    have hnone : cs.countP (·.request.isSchedulePowerwash) = 0 := by
      rw [List.countP_eq_zero]
      intro x hx
      rcases hcs.request x hx with heq | ⟨code, heq⟩ <;> rw [heq] <;> exact Bool.false_ne_true
    rw [← countP_powerwashPart xs Request.marks_of_isSchedulePowerwash, hpart, List.countP_append,
      hnone]
    exact hos.countP_le
  case scheduled =>
    constructor
    · rintro ⟨reply, hreply⟩
      obtain ⟨hneeds, hmapped⟩ := hos.asks_iff.mp ⟨reply, (hschedules reply).mp hreply⟩
      exact ⟨plan, rfl, hneeds, fun e he => hmapped e ((hmaps e).mp he)⟩
    · rintro ⟨_, hsame, hneeds, hmapped⟩
      obtain rfl := Option.some.inj hsame
      obtain ⟨reply, hreply⟩ := hos.asks_iff.mpr ⟨hneeds, fun e he => hmapped e ((hmaps e).mpr he)⟩
      exact ⟨reply, (hschedules reply).mpr hreply⟩
  case takenBack =>
    intro hback
    rw [hcancels, if_pos (hmust.mp hback)]
  case kept =>
    intro hkeep
    rw [hcancels, if_neg (fun hback => hkeep (hmust.mpr hback))]
  case ordered =>
    rintro before reply after rfl
    have hcancel : ⟨.cancelPowerwash, reply⟩ ∉ os := by
      intro hx
      rcases hos.request _ hx with heq | heq <;> cases heq
    have hsplit : os ++ cs =
        powerwashPart before ++ ⟨.cancelPowerwash, reply⟩ :: powerwashPart after := by
      rw [← hpart, powerwashPart_append]
      rfl
    obtain ⟨ds, hds⟩ := prefix_of_not_mem hsplit hcancel
    rw [← hds, List.append_assoc, List.append_cancel_left_eq] at hsplit
    rw [hsplit] at hcs
    obtain ⟨hscheduled, rfl, code, hcode, hafter⟩ := hcs.of_cancel
    rw [List.append_nil] at hds
    refine ⟨?_, ?_, code, hcode, ?_⟩
    · apply (mem_powerwashPart rfl).mp
      rw [← hds]
      exact hos.scheduled_iff.mpr hscheduled
    · intro c hc
      have hc' : ⟨.complete c, ()⟩ ∈ powerwashPart before := (mem_powerwashPart rfl).mpr hc
      rw [← hds] at hc'
      rcases hos.request _ hc' with heq | heq <;> cases heq
    · apply (mem_powerwashPart rfl).mp
      rw [hafter]
      exact List.mem_singleton_self _

/-- The powerwash is accounted for where nothing was asked for. -/
theorem accountsForPowerwash_nil :
    AccountsForPowerwash none ([] : List (Exchange α)) none := by
  constructor
  case once => exact Nat.zero_le 1
  case scheduled =>
    constructor
    · rintro ⟨_, hmem⟩
      cases hmem
    · rintro ⟨_, hsome, -⟩
      cases hsome
  case takenBack =>
    rintro ⟨hmem, -⟩
    cases hmem
  case kept => exact fun _ => rfl
  case ordered =>
    intro before reply after heq
    simp at heq

/-- The powerwash is accounted for in every record on the map. -/
theorem Charted.accountsForPowerwash {config : PostinstallConfig} {start : Option InstallPlan}
    {es : List (Event α)} {r : Runner} (h : Charted config start es r) (hr : Stable start r) :
    AccountsForPowerwash start (Event.exchanges es) r.result := by
  cases h with
  | idle _ hsilent =>
    have hnone : r.result = none := by
      cases hresult : r.result with
      | none => rfl
      | some code => cases (hr.isDone hresult).1
    rw [hsilent, hnone]
    exact accountsForPowerwash_nil
  | begun harrives =>
    obtain ⟨pt, hcourse, hrests⟩ := harrives
    obtain ⟨os, cs, hpart, hos, hcs⟩ := hcourse.powerwashPart
    rw [hrests.result?_eq hr] at hcs
    exact accountsForPowerwash_of_parts hpart hos hcs

variable [ProgressNumber α]

/-- The powerwash is accounted for, on every platform and for all calls, before a runner is given up
and when it is. At the end of a lifetime a powerwash that the attempt asked for stays only with a
success, and is taken back otherwise. -/
theorem accounts_for_powerwash (config : PostinstallConfig) (cs : List RunnerCall)
    (p : Platform α σ) (s : σ) :
    AccountsForPowerwash (RunnerCall.firstPlan cs) (afterCalls config cs p s).exchanges
        (afterCalls config cs p s).result.result ∧
      AccountsForPowerwash (RunnerCall.firstPlan cs) (afterLifetime config cs p s).exchanges
        (afterLifetime config cs p s).result.result ∧
      (⟨.schedulePowerwash, .ok ()⟩ ∈ (afterLifetime config cs p s).exchanges →
        (afterLifetime config cs p s).result.result = some .success ∨
        (afterLifetime config cs p s).result.result = some .updatedButNotActive ∨
        ∃ reply, ⟨.cancelPowerwash, reply⟩ ∈ (afterLifetime config cs p s).exchanges) := by
  have hcalls := (afterCalls_charted config cs p s).accountsForPowerwash
    (afterCalls_stable config cs p s)
  have hlifetime := (lifetime_charted config cs p s).accountsForPowerwash
    (afterLifetime_stable config cs p s)
  rw [record_exchanges] at hcalls
  rw [lifetimeRecord_exchanges] at hlifetime
  refine ⟨hcalls, hlifetime, ?_⟩
  intro hasked
  obtain ⟨plan, hplan, -⟩ := hlifetime.scheduled.mp ⟨_, hasked⟩
  obtain ⟨code, hcode⟩ := afterLifetime_result config cs p s (Option.isSome_of_eq_some hplan)
  rw [hcode] at hlifetime ⊢
  by_cases hsuccess : code = .success
  · rw [hsuccess]
    exact Or.inl rfl
  by_cases hactive : code = .updatedButNotActive
  · rw [hactive]
    exact Or.inr (Or.inl rfl)
  · have hcount := hlifetime.takenBack ⟨hasked, code, rfl, hsuccess, hactive⟩
    have hpos : 0 < (afterLifetime config cs p s).exchanges.countP
        (·.request.isCancelPowerwash) := by omega
    obtain ⟨⟨request, reply⟩, hmem, hkind⟩ := List.countP_pos_iff.mp hpos
    cases request with
    | cancelPowerwash => exact Or.inr (Or.inr ⟨reply, hmem⟩)
    | _ => cases hkind

end Runner

end SlotUpdate
