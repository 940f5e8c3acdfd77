import SlotUpdate.Proofs.Action.Ensures

/-!
# Ways through an action

`Action.Leads` says of an action that exchanges lead through it to a result: its requests are those
of the exchanges, as long as the replies are theirs. It is taken apart by `leads_bind` and its
companions. What an action makes sure of holds on every way through it (`Ensures.of_leads`), and
carrying it out on a platform is a way through it (`leads_run`).
-/

namespace SlotUpdate.Action

variable {α β γ σ : Type}

/-- Exchanges lead through an action to a result. -/
def Leads : Action α β → List (Exchange α) → β → Prop
  | done b, xs, c => xs = [] ∧ c = b
  | ask r next, xs, c => ∃ reply ys, xs = ⟨r, reply⟩ :: ys ∧ (next reply).Leads ys c
  | note _ next, xs, c => next.Leads xs c

/-- A plain result comes without exchanges. -/
@[simp]
theorem leads_pure (b : β) (xs : List (Exchange α)) (c : β) :
    (pure b : Action α β).Leads xs c ↔ xs = [] ∧ c = b := Iff.rfl

/-- A request is one exchange, and its reply is the result. -/
@[simp]
theorem leads_request (r : Request α) (xs : List (Exchange α)) (reply : r.Reply) :
    (request r).Leads xs reply ↔ xs = [⟨r, reply⟩] := by
  constructor
  · rintro ⟨_, _, rfl, rfl, rfl⟩
    rfl
  · rintro rfl
    exact ⟨reply, [], rfl, rfl, rfl⟩

/-- A way through one action after the other is a way through the first and then one through the
second. -/
theorem leads_bind (a : Action α β) (f : β → Action α γ) (xs : List (Exchange α)) (c : γ) :
    (a >>= f).Leads xs c ↔ ∃ ys zs b, xs = ys ++ zs ∧ a.Leads ys b ∧ (f b).Leads zs c := by
  induction a generalizing xs with
  | done b =>
    constructor
    · exact fun h => ⟨[], xs, b, rfl, ⟨rfl, rfl⟩, h⟩
    · rintro ⟨_, _, _, rfl, ⟨rfl, rfl⟩, h⟩
      exact h
  | ask r next ih =>
    constructor
    · rintro ⟨reply, xs', rfl, h⟩
      obtain ⟨ys, zs, b, rfl, hys, hzs⟩ := (ih reply xs').mp h
      exact ⟨⟨r, reply⟩ :: ys, zs, b, rfl, ⟨reply, ys, rfl, hys⟩, hzs⟩
    · rintro ⟨_, zs, b, rfl, ⟨reply, ys, rfl, hys⟩, hzs⟩
      exact ⟨reply, ys ++ zs, rfl, (ih reply (ys ++ zs)).mpr ⟨ys, zs, b, rfl, hys, hzs⟩⟩
  | note line next ih => exact ih xs

/-- One way after the other is a way through one action after the other. -/
theorem Leads.bind {a : Action α β} {f : β → Action α γ} {xs ys : List (Exchange α)} {b : β} {c : γ}
    (ha : a.Leads xs b) (hf : (f b).Leads ys c) : (a >>= f).Leads (xs ++ ys) c :=
  (leads_bind a f (xs ++ ys) c).mpr ⟨xs, ys, b, rfl, ha, hf⟩

/-- What an action makes sure of holds on every way through it. -/
theorem Ensures.of_leads {a : Action α β} {Q : List (Exchange α) → β → Prop} (ha : a.Ensures Q)
    {xs : List (Exchange α)} {b : β} (h : a.Leads xs b) : Q xs b := by
  induction a generalizing Q xs with
  | done b' =>
    obtain ⟨rfl, rfl⟩ := h
    exact ha
  | ask r next ih =>
    obtain ⟨reply, ys, rfl, hys⟩ := h
    exact ih reply (ha reply) hys
  | note line next ih => exact ih ha h

/-- Carrying an action out on a platform is a way through it. -/
theorem leads_run (a : Action α β) (p : Platform α σ) (s : σ) :
    a.Leads (a.run p s).exchanges (a.run p s).result := by
  induction a generalizing s with
  | done b => exact ⟨rfl, rfl⟩
  | ask r next ih => exact ⟨(p.reply r s).value.1, _, rfl, ih _ _⟩
  | note line next ih => exact ih s

end SlotUpdate.Action
