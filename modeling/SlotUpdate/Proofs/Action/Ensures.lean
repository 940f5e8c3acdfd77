import SlotUpdate.Platform.Action

/-!
# What an action makes sure of

`Action.Ensures` says of an action that its exchanges and its result are related in a given way,
whatever the replies are. It is computed from the action by `ensures_bind` and its companions, and
`Ensures.run` passes it on to every platform: `Platform.Answers` says that the replies of a list of
exchanges are those of a platform that starts in one state and ends in another.
-/

namespace SlotUpdate

variable {α β γ σ : Type}

/-- The replies in a list of exchanges are those of a platform that starts in the state `s` and ends
in the state `s'`. -/
def Platform.Answers (p : Platform α σ) (s : σ) : List (Exchange α) → (s' : σ) → Prop
  | [], s' => s' = s
  | x :: xs, s' =>
    (p.reply x.request s).value.1 = x.reply ∧
      p.Answers (p.reply x.request s).value.2 xs s'

namespace Platform

/-- No exchange leaves the platform as it is. -/
@[simp]
theorem answers_nil (p : Platform α σ) (s s' : σ) : p.Answers s [] s' ↔ s' = s := Iff.rfl

/-- The first exchange decides the state that the others start in. -/
@[simp]
theorem answers_cons (p : Platform α σ) (s s' : σ) (x : Exchange α) (xs : List (Exchange α)) :
    p.Answers s (x :: xs) s' ↔
      (p.reply x.request s).value.1 = x.reply ∧
        p.Answers (p.reply x.request s).value.2 xs s' := Iff.rfl

/-- Exchanges one after the other pass through a state between them. -/
@[simp]
theorem answers_append (p : Platform α σ) (s s' : σ) (xs ys : List (Exchange α)) :
    p.Answers s (xs ++ ys) s' ↔ ∃ t, p.Answers s xs t ∧ p.Answers t ys s' := by
  induction xs generalizing s with
  | nil => simp
  | cons x xs ih =>
    simp only [List.cons_append, answers_cons, ih]
    constructor
    · rintro ⟨h, t, ht, ht'⟩
      exact ⟨t, ⟨h, ht⟩, ht'⟩
    · rintro ⟨t, ⟨h, ht⟩, ht'⟩
      exact ⟨h, t, ht, ht'⟩

end Platform

namespace Action

/-- On every path through an action, its exchanges and its result satisfy `Q`. -/
def Ensures : Action α β → (List (Exchange α) → β → Prop) → Prop
  | done b, Q => Q [] b
  | ask r next, Q => ∀ reply, (next reply).Ensures fun xs b => Q (⟨r, reply⟩ :: xs) b
  | note _ next, Q => next.Ensures Q

/-- A plain result comes without exchanges. -/
@[simp]
theorem ensures_pure (b : β) (Q : List (Exchange α) → β → Prop) :
    (pure b : Action α β).Ensures Q ↔ Q [] b := Iff.rfl

/-- A request is one exchange, and its reply is the result. -/
@[simp]
theorem ensures_request (r : Request α) (Q : List (Exchange α) → r.Reply → Prop) :
    (request r).Ensures Q ↔ ∀ reply, Q [⟨r, reply⟩] reply := Iff.rfl

/-- A message is no exchange. -/
@[simp]
theorem ensures_tell (line : LogLine) (Q : List (Exchange α) → Unit → Prop) :
    (tell line : Action α Unit).Ensures Q ↔ Q [] () := Iff.rfl

/-- Messages are no exchanges. -/
@[simp]
theorem ensures_tellAll (lines : List LogLine) (Q : List (Exchange α) → Unit → Prop) :
    (tellAll lines : Action α Unit).Ensures Q ↔ Q [] () := by
  induction lines with
  | nil => rfl
  | cons line rest ih => exact ih

/-- The exchanges of one action after the other follow each other. -/
@[simp]
theorem ensures_bind (a : Action α β) (f : β → Action α γ)
    (Q : List (Exchange α) → γ → Prop) :
    (a >>= f).Ensures Q ↔ a.Ensures fun xs b => (f b).Ensures fun ys c => Q (xs ++ ys) c := by
  induction a generalizing Q with
  | done b => rfl
  | ask r next ih => exact forall_congr' fun reply => ih reply _
  | note line next ih => exact ih Q

/-- What follows from something that an action makes sure of, the action makes sure of. -/
theorem Ensures.mono {a : Action α β} {Q R : List (Exchange α) → β → Prop} (ha : a.Ensures Q)
    (h : ∀ xs b, Q xs b → R xs b) : a.Ensures R := by
  induction a generalizing Q R with
  | done b => exact h [] b ha
  | ask r next ih => exact fun reply => ih reply (ha reply) fun xs b hq => h _ b hq
  | note line next ih => exact ih ha h

/-- What an action makes sure of twice, it makes sure of at once. -/
theorem Ensures.and {a : Action α β} {Q R : List (Exchange α) → β → Prop} (hq : a.Ensures Q)
    (hr : a.Ensures R) : a.Ensures fun xs b => Q xs b ∧ R xs b := by
  induction a generalizing Q R with
  | done b => exact ⟨hq, hr⟩
  | ask r next ih => exact fun reply => ih reply (hq reply) (hr reply)
  | note line next ih => exact ih hq hr

/-- Every action ends. -/
theorem ensures_true (a : Action α β) : a.Ensures fun _ _ => True := by
  induction a with
  | done b => trivial
  | ask r next ih => exact fun reply => ih reply
  | note line next ih => exact ih

/-- The rule for one action after the other: what the first makes sure of is what the second may
rely on. -/
theorem Ensures.bind {a : Action α β} {f : β → Action α γ} {Q : List (Exchange α) → β → Prop}
    {R : List (Exchange α) → γ → Prop} (ha : a.Ensures Q)
    (h : ∀ xs b, Q xs b → (f b).Ensures fun ys c => R (xs ++ ys) c) : (a >>= f).Ensures R := by
  rw [ensures_bind]
  exact ha.mono h

/-- On a platform an action has the exchanges and the result that it makes sure of, and the platform
gave the replies. -/
theorem Ensures.run {a : Action α β} {Q : List (Exchange α) → β → Prop} (ha : a.Ensures Q)
    (p : Platform α σ) (s : σ) :
    Q (a.run p s).exchanges (a.run p s).result ∧
      p.Answers s (a.run p s).exchanges (a.run p s).state := by
  induction a generalizing Q s with
  | done b => exact ⟨ha, rfl⟩
  | ask r next ih =>
    obtain ⟨hq, hans⟩ := ih (p.reply r s).value.1 (ha _) (p.reply r s).value.2
    exact ⟨hq, rfl, hans⟩
  | note line next ih => exact ih ha s

end Action

end SlotUpdate
