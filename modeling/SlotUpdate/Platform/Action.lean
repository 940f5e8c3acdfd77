import SlotUpdate.Log
import SlotUpdate.Platform.Request

/-!
# Actions

An action is what to ask of the platform, and how to go on for each reply. It says nothing about
what the replies are, so what holds on every path through an action holds on every platform.
`Action.run` carries an action out on a platform with a state; the messages and the exchanges of a
bind are those of its parts, one after the other (`run_bind`).
-/

namespace SlotUpdate

/-- An action with a result of type `β`. -/
inductive Action (α β : Type) where
  /-- Nothing more to do. -/
  | done (result : β)
  /-- Ask for something and go on with the reply. -/
  | ask (request : Request α) (next : request.Reply → Action α β)
  /-- Log a message and go on. -/
  | note (line : LogLine) (next : Action α β)

/-- A platform whose state is of type `σ`. -/
structure Platform (α σ : Type) where
  /-- The reply to a request and the state after it, with the messages of the platform. -/
  reply : (request : Request α) → σ → Logged (request.Reply × σ)

/-- What carrying out an action gave. -/
structure Outcome (α σ β : Type) where
  /-- The result. -/
  result : β
  /-- The state of the platform afterwards. -/
  state : σ
  /-- The exchanges, in order. -/
  exchanges : List (Exchange α)
  /-- The messages, in order. -/
  log : List LogLine

namespace Action

variable {α β γ σ : Type}

/-- One action after the other. -/
def bind : Action α β → (β → Action α γ) → Action α γ
  | done b, f => f b
  | ask request next, f => ask request fun reply => (next reply).bind f
  | note line next, f => note line (next.bind f)

/-- An action that asks for nothing, and one action after the other. -/
instance : Monad (Action α) where
  pure := done
  bind := bind

/-- Ask for something. -/
def request (r : Request α) : Action α r.Reply :=
  ask r done

/-- Log a message. -/
def tell (line : LogLine) : Action α Unit :=
  note line (done ())

/-- Log messages. -/
def tellAll : List LogLine → Action α Unit
  | [] => done ()
  | line :: rest => note line (tellAll rest)

/-- Carry an action out. -/
def run (p : Platform α σ) : Action α β → σ → Outcome α σ β
  | done b, s => ⟨b, s, [], []⟩
  | ask r next, s =>
    let replied := p.reply r s
    let after := (next replied.value.1).run p replied.value.2
    { after with
      exchanges := ⟨r, replied.value.1⟩ :: after.exchanges
      log := replied.log ++ after.log }
  | note line next, s =>
    let after := next.run p s
    { after with log := line :: after.log }

/-- Carrying out one action after the other joins their exchanges and messages. -/
theorem run_bind (p : Platform α σ) (a : Action α β) (f : β → Action α γ) (s : σ) :
    (a >>= f).run p s =
      let first := a.run p s
      let second := (f first.result).run p first.state
      ⟨second.result, second.state, first.exchanges ++ second.exchanges,
        first.log ++ second.log⟩ := by
  induction a generalizing s with
  | done b => rfl
  -- Each reply leads to an action for which the statement holds already.
  | ask r next ih =>
    have := ih (p.reply r s).value.1 (p.reply r s).value.2
    simp only [Bind.bind, bind, run] at this ⊢
    rw [this]
    simp
  | note line next ih =>
    have := ih s
    simp only [Bind.bind, bind, run] at this ⊢
    rw [this]
    rfl

end Action

end SlotUpdate
