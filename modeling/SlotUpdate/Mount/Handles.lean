import SlotUpdate.Mount.Scoped

/-!
# Handles of scoped mounts

A `MountGuard` is a scoped mount in the hands of somebody who gives it up in the end, after having
unmounted it or without. Its flag says whether it still has to be undone, so that giving it up after
an unmount, be it one that failed, does not unmount again.

Several guards stand beside each other as `MountHandles`. A call names a guard by its place among
all mounts that were tried. A guard of a mount that failed or was undone is gone, and further calls
on it do nothing.
-/

namespace SlotUpdate

/-! ## Guards -/

/-- A scoped mount that is undone in the end. -/
structure MountGuard where
  /-- The mount. -/
  mount : ScopedMount
  /-- Whether it still has to be undone. -/
  mounted : Bool
  deriving Repr, DecidableEq

namespace MountGuard

variable {α : Type}

/-- Mount a device and guard the mount. -/
def acquire (device mountPoint : Path) (filesystem options : String) :
    Action α (Except MountError MountGuard) := do
  match ← ScopedMount.acquire device mountPoint filesystem options with
  | .ok m => return .ok ⟨m, true⟩
  | .error e => return .error e

/-- Give a guard up. What still has to be undone is undone, and a failure is only logged. -/
def release (g : MountGuard) : Action α Unit :=
  if g.mounted then g.mount.drop else return ()

/-- Unmount, report a failure, and give the guard up. -/
def unmount (g : MountGuard) : Action α (Except MountError Unit) := do
  -- The flag is cleared before the platform answers, so a failure leaves nothing to be undone.
  let spent := { g with mounted := false }
  let outcome ← spent.mount.unmount
  spent.release
  return outcome

end MountGuard

/-! ## Calls -/

/-- A call on scoped mounts. -/
inductive MountCall where
  /-- Mount a device. -/
  | acquire (device mountPoint : Path) (filesystem options : String)
  /-- Unmount and report a failure. -/
  | unmount (index : Nat)
  /-- Unmount and log a failure. -/
  | drop (index : Nat)
  /-- Unmount whatever is at a path. -/
  | ensureUnmounted (mountPoint : Path)
  deriving Repr, DecidableEq

/-- What a call on scoped mounts gives. -/
inductive MountAnswer where
  /-- Nothing to tell. -/
  | nothing
  /-- The mount is gone. -/
  | gone
  /-- Where something is mounted now. -/
  | mounted (mountPoint : Path)
  /-- A failure. -/
  | failed (cause : MountError)
  deriving Repr, DecidableEq

/-- The answer of a call that answers nothing but a failure. -/
def MountAnswer.ofOutcome : Except MountError Unit → MountAnswer
  | .ok () => .nothing
  | .error e => .failed e

/-- The guards of the mounts that were tried, in order, as far as they are not gone. -/
structure MountHandles where
  /-- The guards. -/
  handles : List (Option MountGuard)
  deriving Repr, DecidableEq

namespace MountHandles

variable {α : Type}

/-- No mount was tried. -/
def empty : MountHandles := ⟨[]⟩

/-- The guard at a place, if it is not gone. -/
def get? (h : MountHandles) (index : Nat) : Option MountGuard :=
  (h.handles[index]?).join

/-- Add the guard of a mount that was tried, if there is one. -/
def add (h : MountHandles) (g : Option MountGuard) : MountHandles := ⟨h.handles ++ [g]⟩

/-- Let the guard at a place be gone. -/
def remove (h : MountHandles) (index : Nat) : MountHandles := ⟨h.handles.set index none⟩

/-- Carry a call out. -/
def call (h : MountHandles) : MountCall → Action α (MountHandles × MountAnswer)
  | .acquire device mountPoint filesystem options => do
    match ← MountGuard.acquire device mountPoint filesystem options with
    | .ok g => return (h.add g, .mounted g.mount.mountPoint)
    | .error e => return (h.add none, .failed e)
  | .unmount index => match h.get? index with
    | none => return (h, .gone)
    -- The guard is used up whether or not its mount can be undone.
    | some g => do return (h.remove index, .ofOutcome (← g.unmount))
  | .drop index => match h.get? index with
    | none => return (h, .nothing)
    | some g => do
      g.release
      return (h.remove index, .nothing)
  | .ensureUnmounted mountPoint => do
    return (h, .ofOutcome (← SlotUpdate.ensureUnmounted mountPoint))

/-- Carry calls out in order. -/
def calls (h : MountHandles) : List MountCall → Action α MountHandles
  | [] => return h
  | c :: rest => do
    let (h, _) ← h.call c
    calls h rest

end MountHandles

end SlotUpdate
