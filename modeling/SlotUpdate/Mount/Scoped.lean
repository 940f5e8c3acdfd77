import SlotUpdate.Mount.Program
import SlotUpdate.Platform.Action

/-!
# Scoped mounts

A scoped mount is a filesystem that was mounted and will be unmounted exactly once: by
`ScopedMount.unmount`, which reports a failure, or by `ScopedMount.drop`, which only logs it. Before
mounting, whatever is left at the mount point is unmounted and the device is made read-only.
-/

namespace SlotUpdate

variable {α : Type}

/-- A mounted filesystem. -/
structure ScopedMount where
  /-- Where it is mounted. -/
  mountPoint : Path
  deriving Repr, DecidableEq

/-- Unmount whatever is mounted at a path, if anything. -/
def ensureUnmounted (mountPoint : Path) : Action α (Except MountError Unit) := do
  match ← Action.request (.isMountPoint mountPoint) with
  | .error e => return .error (.unmount mountPoint e)
  | .ok false => return .ok ()
  | .ok true =>
    Action.tell (.warn ("Found stale mount at " ++ mountPoint.quote))
    match ← Action.request (.unmount mountPoint) with
    | .error e => return .error (.unmount mountPoint e)
    | .ok () => return .ok ()

namespace ScopedMount

/-- Make a device read-only and mount it. -/
def mountReadonly (device mountPoint : Path) (filesystem options : String) :
    Action α (Except MountError ScopedMount) := do
  match ← Action.request (.setReadonly device true) with
  | .error e => return .error (.setReadonly device e)
  | .ok () =>
    match ← Action.request (.mount device mountPoint filesystem options) with
    | .error e => return .error (.mount device mountPoint e)
    | .ok () =>
      Action.tell (.info s!"Mounted {device.quote} at {mountPoint.quote}")
      return .ok ⟨mountPoint⟩

/-- Mount a device at a path where nothing else is mounted. -/
def acquire (device mountPoint : Path) (filesystem options : String) :
    Action α (Except MountError ScopedMount) := do
  match ← Action.request (.pathExists device) with
  | false => return .error (.deviceNotFound device)
  | true =>
    match ← Action.request (.pathExists mountPoint) with
    | false => return .error (.directoryNotFound mountPoint)
    | true =>
      -- What an earlier attempt left mounted is in the way of this one.
      match ← ensureUnmounted mountPoint with
      | .error e => return .error e
      | .ok () => mountReadonly device mountPoint filesystem options

/-- Unmount and report a failure. -/
def unmount (m : ScopedMount) : Action α (Except MountError Unit) := do
  match ← Action.request (.unmount m.mountPoint) with
  | .error e => return .error (.unmount m.mountPoint e)
  | .ok () => return .ok ()

/-- Unmount and log a failure. -/
def drop (m : ScopedMount) : Action α Unit := do
  match ← Action.request (.unmount m.mountPoint) with
  | .error e => Action.tell (.warn s!"Failed to unmount {m.mountPoint.quote}: {e.text}")
  | .ok () => return ()

end ScopedMount

end SlotUpdate
