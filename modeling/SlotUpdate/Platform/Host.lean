import SlotUpdate.Boot.Host
import SlotUpdate.Mount.System
import SlotUpdate.Platform.Action
import SlotUpdate.Platform.Launcher

/-!
# The platform of a host

The platform that the program itself runs on: the slots and services of a host, the calls of the
system for mounting, and a launcher of programs.
-/

namespace SlotUpdate

/-- A host and the programs that run on it. -/
structure HostPlatform where
  /-- The host. -/
  host : Host
  /-- The programs. -/
  launcher : Launcher

namespace HostPlatform

/-- A host on which nothing runs. -/
def ofHost (host : Host) : HostPlatform := ⟨host, .initial host.files⟩

/-- Reply with the outcome of a call on the host. -/
def call (p : HostPlatform) (c : BootCall) : Logged (Except BootError Unit × HostPlatform) := do
  let (answer, host) ← p.host.answer c
  return (answer.result.map fun _ => (), { p with host := host })

/-- Reply with what a call of the launcher gives. -/
def withLauncher {ρ : Type} (p : HostPlatform) (called : Logged (ρ × Launcher)) :
    Logged (ρ × HostPlatform) := do
  let (answer, launcher) ← called
  return (answer, { p with launcher := launcher })

/-- Reply to a request. `pollTime` is how long one wait takes at most, in microseconds. -/
def reply {α : Type} (pollTime : Nat) (r : Request α) (p : HostPlatform) :
    Logged (r.Reply × HostPlatform) :=
  match r with
  | .isVirtualAb => pure (p.host.slots.config.virtualAb, p)
  | .mapAll => p.call .mapAll
  | .unmapAll => p.call .unmapAll
  | .finishUpdate powerwash => p.call (.finishUpdate powerwash)
  | .setActive slot => p.call (.setActive slot)
  | .schedulePowerwash => p.call .schedulePowerwash
  | .cancelPowerwash => p.call .cancelPowerwash
  | .warmReset on => do
    let (_, p) ← p.call (.warmReset on)
    return ((), p)
  | .vbmetaDigest reset => p.call (.vbmetaDigest reset)
  | .mountOptions partition => pure (p.host.slots.config.optionsFor partition, p)
  | .pathExists path => pure (p.host.files.hasPath path, p)
  | .isMountPoint path => pure (SystemMounter.isMountPoint p.host.files path, p)
  | .setReadonly device _ => do return (← SystemMounter.setReadonly p.host.files device, p)
  | .mount device mountPoint filesystem options => do
    return (← SystemMounter.mount p.host.files device mountPoint filesystem options, p)
  | .unmount mountPoint => pure (SystemMounter.unmount p.host.files mountPoint, p)
  | .readText path => pure ((p.host.files.readText path).toOption, p)
  | .readProgram path => pure ((p.host.files.read path).toOption, p)
  | .progress _ => pure ((), p)
  | .complete _ => pure ((), p)
  | .spawn argv statusFd => p.withLauncher (p.launcher.spawn argv statusFd)
  | .setNonblocking pid => p.withLauncher (pure (.ok (), p.launcher.setNonblocking pid))
  | .awaitStatus pid => p.withLauncher (p.launcher.awaitStatus pollTime pid)
  | .pause => p.withLauncher (p.launcher.pause pollTime)
  | .readStatus pid once => p.withLauncher (pure (p.launcher.readStatus pid once))
  | .tryWait pid => p.withLauncher (pure (p.launcher.tryWait pid))
  | .signal pid signal => p.withLauncher (p.launcher.signal pid signal)
  | .release pid => p.withLauncher (pure ((), p.launcher.release pid))

/-- The platform. -/
def platform {α : Type} (pollTime : Nat) : Platform α HostPlatform := ⟨reply pollTime⟩

end HostPlatform

end SlotUpdate
