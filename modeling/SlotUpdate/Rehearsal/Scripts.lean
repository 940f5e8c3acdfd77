import SlotUpdate.Postinstall.Drive
import SlotUpdate.Platform.Launcher
import SlotUpdate.Rehearsal.Memory

/-!
# Rehearsals with running programs

A whole attempt on a platform whose programs run: the launcher is that of rehearsals, and all else
is a platform in memory.
-/

namespace SlotUpdate

/-- A platform in memory and a launcher. -/
structure ScriptedPlatform (α : Type) where
  /-- The platform. -/
  memory : Memory α
  /-- The launcher. -/
  launcher : Launcher
  /-- The messages of the launcher so far. -/
  printed : List LogLine

namespace ScriptedPlatform

variable {α : Type}

/-- A platform whose programs are in its files. -/
def ofMemory (memory : Memory α) : ScriptedPlatform α := ⟨memory, .initial memory.files, []⟩

/-- Reply with what a call of the launcher gives. -/
def withLauncher {ρ : Type} (s : ScriptedPlatform α) (called : Logged (ρ × Launcher)) :
    Logged (ρ × ScriptedPlatform α) := do
  let (answer, launcher) ← called
  return (answer, { s with launcher := launcher, printed := s.printed ++ called.log })

/-- Reply to a request. `pollTime` is how long one wait takes at most, in microseconds. -/
def reply (pollTime : Nat) (r : Request α) (s : ScriptedPlatform α) :
    Logged (r.Reply × ScriptedPlatform α) :=
  match r with
  | .spawn argv statusFd => s.withLauncher (s.launcher.spawn argv statusFd)
  | .setNonblocking pid => s.withLauncher (pure (.ok (), s.launcher.setNonblocking pid))
  | .awaitStatus pid => s.withLauncher (s.launcher.awaitStatus pollTime pid)
  | .pause => s.withLauncher (s.launcher.pause pollTime)
  | .readStatus pid once => s.withLauncher (pure (s.launcher.readStatus pid once))
  | .tryWait pid => s.withLauncher (pure (s.launcher.tryWait pid))
  | .signal pid signal => s.withLauncher (s.launcher.signal pid signal)
  | .release pid => s.withLauncher (pure ((), s.launcher.release pid))
  | r =>
    let (answer, memory) := s.memory.reply r
    pure (answer, { s with memory := memory })

/-- The platform. -/
def platform (pollTime : Nat) : Platform α (ScriptedPlatform α) := ⟨reply pollTime⟩

/-- How many times an attempt waits at most. -/
def maxRounds : Nat := 20000

/-- What an attempt with running programs gave. -/
structure Ran (α : Type) where
  /-- The runner after the attempt, before it was given up. -/
  runner : Runner
  /-- The platform at the end. -/
  after : ScriptedPlatform α
  /-- The exchanges, in order. -/
  exchanges : List (Exchange α)
  /-- The messages, in order. -/
  log : List LogLine

variable [ProgressNumber α]

/-- Make an attempt, give the runner up, and wait for every program to end. The control messages
have arrived before the first wait. -/
def run (s : ScriptedPlatform α) (config : PostinstallConfig) (plan : InstallPlan)
    (controls : List Control) : Ran α :=
  let attempt : Action α Runner := do
    let runner := Runner.new config
    let after ← runner.run plan (controls :: List.replicate maxRounds [])
    let runner := match after with
      | .ok r => r
      | .error _ => runner
    -- The answer shows the runner as the attempt left it.
    let _ ← runner.shutDown
    return runner
  let o := attempt.run (platform (config.pollIntervalMs.toNat * 1000)) s
  let rest := o.state.withLauncher do return ((), ← o.state.launcher.finishAll)
  ⟨o.result, rest.value.2, o.exchanges, o.log ++ rest.log⟩

end ScriptedPlatform

end SlotUpdate
