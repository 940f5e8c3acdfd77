import SlotUpdate.Mount.Handles
import SlotUpdate.Rehearsal.Memory

/-!
# Rehearsals of mounts

Scoped mounts on a platform in memory, step by step. Each step answers what it gave, the exchanges
and the messages.
-/

namespace SlotUpdate

/-- A step with scoped mounts. -/
inductive MountStep where
  /-- Change the platform. -/
  | set (setting : MemorySetting)
  /-- Carry a call out. -/
  | call (call : MountCall)
  deriving Repr, DecidableEq

/-- The mounts and the platform. -/
structure MountRehearsal (α : Type) where
  /-- The mounts. -/
  mounts : MountHandles
  /-- The platform. -/
  memory : Memory α

/-- What a step with scoped mounts gave. -/
structure MountRehearsed (α : Type) where
  /-- The rehearsal after it. -/
  after : MountRehearsal α
  /-- The answer. -/
  answer : MountAnswer
  /-- The exchanges, in order. -/
  exchanges : List (Exchange α)
  /-- The messages, in order. -/
  log : List LogLine

namespace MountRehearsal

variable {α : Type}

/-- A rehearsal in which no mount was tried. -/
def new (memory : Memory α) : MountRehearsal α := ⟨.empty, memory⟩

/-- Take a step. -/
def step (r : MountRehearsal α) : MountStep → MountRehearsed α
  | .set setting => ⟨{ r with memory := r.memory.set setting }, .nothing, [], []⟩
  | .call c =>
    let o := (r.mounts.call c).run Memory.platform r.memory
    ⟨⟨o.result.1, o.state⟩, o.result.2, o.exchanges, o.log⟩

/-- Take steps in order. -/
def steps (r : MountRehearsal α) : List MountStep → List (MountRehearsed α)
  | [] => []
  | s :: rest => r.step s :: steps (r.step s).after rest

end MountRehearsal

end SlotUpdate
