import SlotUpdate.Proofs.Action.Ensures

/-!
# Two actions that differ in hidden requests

Some requests are hidden from an observer. `Platform.AgreeApart` says of two platforms that they
reply the same to all the others, whatever the hidden ones do to them. `Action.Matches` relates two
actions that ask for the same apart from hidden requests, as long as the replies to the others are
the same; hidden requests and messages may come anywhere on either side.

`Matches.run` is what the relation is for: on platforms that agree, matching actions have the same
exchanges apart from the hidden ones, and related results. Matching is shown step by step
(`Matches.bind`). An action that learns nothing from hidden requests matches itself
(`Matches.refl`), and one that makes only hidden ones matches the action that does nothing
(`Matches.left_of_ensures`). What an action makes sure of can be added to what is known of its
result (`Matches.and_left`).
-/

namespace SlotUpdate

variable {α β γ δ ε σ τ : Type}

/-! ## Hidden requests -/

/-- The exchanges whose requests are not hidden. -/
def shown (hidden : Request α → Bool) (xs : List (Exchange α)) : List (Exchange α) :=
  xs.filter fun x => !hidden x.request

/-- Two platforms, whose states are related by `R`, reply the same to every request that is not
hidden. Hidden requests to one of them leave the states related. -/
structure Platform.AgreeApart (hidden : Request α → Bool) (R : σ → τ → Prop) (p : Platform α σ)
    (q : Platform α τ) : Prop where
  /-- The replies are the same. -/
  reply : ∀ request s t, hidden request = false → R s t →
    (p.reply request s).value.1 = (q.reply request t).value.1
  /-- The states stay related. -/
  state : ∀ request s t, hidden request = false → R s t →
    R (p.reply request s).value.2 (q.reply request t).value.2
  /-- They stay so after a hidden request to the first platform. -/
  left : ∀ request s t, hidden request = true → R s t → R (p.reply request s).value.2 t
  /-- They stay so after a hidden request to the second platform. -/
  right : ∀ request s t, hidden request = true → R s t → R s (q.reply request t).value.2

/-- Nothing is learnt from the replies to hidden requests. -/
def LearnsNothing (hidden : Request α → Bool) (xs : List (Exchange α)) : Prop :=
  ∀ x ∈ xs, hidden x.request = true → Subsingleton x.request.Reply

/-- Every request is hidden in exchanges. -/
def AllHidden (hidden : Request α → Bool) (xs : List (Exchange α)) : Prop :=
  ∀ x ∈ xs, hidden x.request = true

/-- There is a reply to every request. -/
theorem Request.nonempty_reply (request : Request α) : Nonempty request.Reply := by
  cases request <;> first
    | exact ⟨()⟩
    | exact ⟨true⟩
    | exact ⟨""⟩
    | exact ⟨none⟩
    | exact ⟨([] : List StatusRead)⟩
    | exact ⟨(.ok () : Except BootError Unit)⟩
    | exact ⟨(.ok () : Except SystemError Unit)⟩
    | exact ⟨(.ok true : Except SystemError Bool)⟩
    | exact ⟨(.ok 0 : Except SystemError Pid)⟩
    | exact ⟨(.ok none : Except SystemError (Option Int))⟩

namespace Action

/-- What an action makes sure of holds somewhere. -/
theorem Ensures.exists {a : Action α β} {Q : List (Exchange α) → β → Prop} (h : a.Ensures Q) :
    ∃ xs b, Q xs b := by
  induction a generalizing Q with
  | done b => exact ⟨[], b, h⟩
  | ask request next ih =>
    obtain ⟨reply⟩ := request.nonempty_reply
    obtain ⟨xs, b, hq⟩ := ih reply (h reply)
    exact ⟨⟨request, reply⟩ :: xs, b, hq⟩
  | note line next ih => exact ih h

/-! ## Matching -/

/-- Two actions ask for the same apart from hidden requests, and their results are related by `S`,
as long as the replies to the other requests are the same. -/
inductive Matches (hidden : Request α → Bool) (S : β → γ → Prop) :
    Action α β → Action α γ → Prop where
  /-- Both are done. -/
  | done {b : β} {c : γ} (related : S b c) : Matches hidden S (done b) (done c)
  /-- Both ask for the same. -/
  | ask {request : Request α} {next : request.Reply → Action α β}
    {next' : request.Reply → Action α γ} (isShown : hidden request = false)
    (goesOn : ∀ reply, Matches hidden S (next reply) (next' reply)) :
    Matches hidden S (ask request next) (ask request next')
  /-- The first makes a hidden request. -/
  | left {request : Request α} {next : request.Reply → Action α β} {c : Action α γ}
    (isHidden : hidden request = true) (goesOn : ∀ reply, Matches hidden S (next reply) c) :
    Matches hidden S (ask request next) c
  /-- The second makes a hidden request. -/
  | right {request : Request α} {b : Action α β} {next : request.Reply → Action α γ}
    (isHidden : hidden request = true) (goesOn : ∀ reply, Matches hidden S b (next reply)) :
    Matches hidden S b (ask request next)
  /-- The first logs a message. -/
  | noteLeft {line : LogLine} {b : Action α β} {c : Action α γ} (goesOn : Matches hidden S b c) :
    Matches hidden S (note line b) c
  /-- The second logs a message. -/
  | noteRight {line : LogLine} {b : Action α β} {c : Action α γ} (goesOn : Matches hidden S b c) :
    Matches hidden S b (note line c)

namespace Matches

variable {hidden : Request α → Bool} {S : β → γ → Prop} {a : Action α β} {b : Action α γ}

/-- On platforms that agree, matching actions have related results and the same exchanges apart from
hidden ones, and the platforms agree afterwards. -/
theorem run (h : Matches hidden S a b) {R : σ → τ → Prop} {p : Platform α σ} {q : Platform α τ}
    (hagree : p.AgreeApart hidden R q) {s : σ} {t : τ} (hst : R s t) :
    S (a.run p s).result (b.run q t).result ∧ R (a.run p s).state (b.run q t).state ∧
      shown hidden (a.run p s).exchanges = shown hidden (b.run q t).exchanges := by
  induction h generalizing s t with
  | done hs => exact ⟨hs, hst, rfl⟩
  | @ask request next next' hshown _ ih =>
    have hreply := hagree.reply request s t hshown hst
    obtain ⟨hresult, hstate, hxs⟩ := ih (p.reply request s).value.1
      (hagree.state request s t hshown hst)
    rw [hreply] at hresult hstate hxs
    unfold Action.run
    simp only [hreply]
    refine ⟨hresult, hstate, ?_⟩
    unfold shown at hxs ⊢
    rw [List.filter_cons, List.filter_cons, hxs]
  | @left request next c hhidden _ ih =>
    obtain ⟨hresult, hstate, hxs⟩ := ih (p.reply request s).value.1
      (hagree.left request s t hhidden hst)
    refine ⟨hresult, hstate, ?_⟩
    rw [← hxs]
    exact List.filter_cons_of_neg (by simp [hhidden])
  | @right request b next hhidden _ ih =>
    obtain ⟨hresult, hstate, hxs⟩ := ih (q.reply request t).value.1
      (hagree.right request s t hhidden hst)
    refine ⟨hresult, hstate, ?_⟩
    rw [hxs]
    exact (List.filter_cons_of_neg (by simp [hhidden])).symm
  | noteLeft _ ih => exact ih hst
  | noteRight _ ih => exact ih hst

/-- Results that are related are so in every weaker way. -/
theorem mono {T : β → γ → Prop} (h : Matches hidden S a b) (hT : ∀ x y, S x y → T x y) :
    Matches hidden T a b := by
  induction h with
  | done hs => exact .done (hT _ _ hs)
  | ask hshown _ ih => exact .ask hshown ih
  | left hhidden _ ih => exact .left hhidden ih
  | right hhidden _ ih => exact .right hhidden ih
  | noteLeft _ ih => exact .noteLeft ih
  | noteRight _ ih => exact .noteRight ih

/-- Matching goes both ways. -/
theorem symm (h : Matches hidden S a b) : Matches hidden (fun y x => S x y) b a := by
  induction h with
  | done hs => exact .done hs
  | ask hshown _ ih => exact .ask hshown ih
  | left hhidden _ ih => exact .right hhidden ih
  | right hhidden _ ih => exact .left hhidden ih
  | noteLeft _ ih => exact .noteRight ih
  | noteRight _ ih => exact .noteLeft ih

/-- The rule for one action after the other: from related results both go on matching. -/
theorem bind {T : δ → ε → Prop} {f : β → Action α δ} {g : γ → Action α ε}
    (h : Matches hidden S a b) (hfg : ∀ x y, S x y → Matches hidden T (f x) (g y)) :
    Matches hidden T (a >>= f) (b >>= g) := by
  induction h with
  | done hs => exact hfg _ _ hs
  | ask hshown _ ih => exact .ask hshown ih
  | left hhidden _ ih => exact .left hhidden ih
  | right hhidden _ ih => exact .right hhidden ih
  | noteLeft _ ih => exact .noteLeft ih
  | noteRight _ ih => exact .noteRight ih

/-- What the first action makes sure of its result is known of it. -/
theorem and_left {P : β → Prop} (h : Matches hidden S a b) (ha : a.Ensures fun _ x => P x) :
    Matches hidden (fun x y => P x ∧ S x y) a b := by
  induction h with
  | done hs => exact .done ⟨ha, hs⟩
  | ask hshown _ ih => exact .ask hshown fun reply => ih reply (ha reply)
  | left hhidden _ ih => exact .left hhidden fun reply => ih reply (ha reply)
  | right hhidden _ ih => exact .right hhidden fun reply => ih reply ha
  | noteLeft _ ih => exact .noteLeft (ih ha)
  | noteRight _ ih => exact .noteRight (ih ha)

/-- An action that learns nothing from hidden requests matches itself. -/
theorem refl {a : Action α β} (h : a.Ensures fun xs _ => LearnsNothing hidden xs) :
    Matches hidden (· = ·) a a := by
  induction a with
  | done b => exact .done rfl
  | ask request next ih =>
    have hsame : hidden request = true → Subsingleton request.Reply := by
      obtain ⟨reply⟩ := request.nonempty_reply
      obtain ⟨xs, _, hxs⟩ := (h reply).exists
      exact hxs _ List.mem_cons_self
    have hnext : ∀ reply, Matches hidden (· = ·) (next reply) (next reply) := by
      refine fun reply => ih reply ((h reply).mono ?_)
      exact fun xs _ hxs x hx => hxs x (List.mem_cons_of_mem _ hx)
    cases hhidden : hidden request with
    | false => exact .ask hhidden hnext
    | true =>
      -- Both sides make the hidden request, and there is only one reply.
      have := hsame hhidden
      refine .left hhidden fun reply => .right hhidden fun reply' => ?_
      rw [Subsingleton.elim reply' reply]
      exact hnext reply
  | note line next ih => exact .noteLeft (.noteRight (ih h))

/-- An action that makes only hidden requests matches one that does nothing. -/
theorem left_of_ensures {P : β → Prop} (c : γ)
    (h : a.Ensures fun xs x => AllHidden hidden xs ∧ P x) :
    Matches hidden (fun x _ => P x) a (pure c) := by
  induction a with
  | done b => exact .done h.2
  | ask request next ih =>
    have hhidden : hidden request = true := by
      obtain ⟨reply⟩ := request.nonempty_reply
      obtain ⟨ys, _, hys, -⟩ := (h reply).exists
      exact hys _ List.mem_cons_self
    refine .left hhidden fun reply => ih reply ((h reply).mono ?_)
    exact fun xs _ hxs => ⟨fun x hx => hxs.1 x (List.mem_cons_of_mem _ hx), hxs.2⟩
  | note line next ih => exact .noteLeft (ih h)

/-- An action that does nothing matches one that makes only hidden requests. -/
theorem right_of_ensures {P : γ → Prop} (c : β)
    (h : b.Ensures fun xs x => AllHidden hidden xs ∧ P x) :
    Matches hidden (fun _ x => P x) (pure c) b :=
  (left_of_ensures c h).symm

end Matches

end Action

end SlotUpdate
