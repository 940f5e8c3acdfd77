import SlotUpdate.ErrorCode
import SlotUpdate.Log
import SlotUpdate.Progress.Number
import SlotUpdate.SystemError

/-!
# The status protocol of recovery

Recovery shows the progress of an update and the reason of its failure. It reads one command a
line. A reporter sends a value only if it differs by more than half a percent from the last value
that it sent. Each command goes to a `CommandWriter`, whose failures are logged and passed over.
-/

namespace SlotUpdate

open ProgressNumber

variable {α σ : Type} [ProgressNumber α]

/-- What a reporter to recovery remembers. -/
structure RecoveryReporter (α : Type) where
  /-- The last value that was sent. -/
  lastSent : Option α

/-- What is reported to recovery. -/
inductive RecoveryEvent (α : Type) where
  /-- The work is done to this share. -/
  | progress (share : α)
  /-- The work is over. -/
  | complete (code : ErrorCode)

namespace RecoveryReporter

/-- A reporter that has sent nothing. -/
def initial : RecoveryReporter α := ⟨none⟩

/-- The difference above which a value is sent. -/
def threshold : α := ofLiteral (.number false 5 (-3))

/-- Whether a value is sent: the first one is, and then those that differ enough from the last one
that was. -/
def isDue (r : RecoveryReporter α) (share : α) : Bool :=
  match r.lastSent with
  | none => true
  -- Written so that an undefined difference counts as one that is large.
  | some last => !decide (abs (share - last) ≤ threshold)

/-- The command that shows a share of progress. -/
def progressLine (share : α) : String :=
  "set_progress " ++ hundredths share

/-- The command that shows why the work failed. -/
def failureLine (code : ErrorCode) : String :=
  s!"ui_print Error applying update: {code.number} ({code.name})"

/-- The command for an event, if there is one, and the reporter after it. -/
def report (r : RecoveryReporter α) : RecoveryEvent α → RecoveryReporter α × Option String
  | .progress share =>
    if r.isDue share then (⟨some share⟩, some (progressLine share)) else (r, none)
  | .complete code => (r, if code.isSuccess then none else some (failureLine code))

/-- The commands for a sequence of events. -/
def commands (r : RecoveryReporter α) : List (RecoveryEvent α) → List String
  | [] => []
  | e :: rest => (r.report e).2.toList ++ commands (r.report e).1 rest

/-- The warning about a command that cannot be written. -/
def writeFailure (cause : String) : LogLine :=
  .warn ("Failed to write recovery status: " ++ cause)

end RecoveryReporter

/-- Where commands are written. The writer has a state of type `σ`, which a failure may change as
well. -/
structure CommandWriter (σ : Type) where
  /-- Write a text. -/
  write : String → σ → Except SystemError Unit × σ
  /-- Pass on what was written. -/
  flush : σ → Except SystemError Unit × σ

namespace CommandWriter

/-- Write a command as a line and pass it on. The first failure ends this and is logged. -/
def send (w : CommandWriter σ) (command : String) (s : σ) : Logged σ :=
  match w.write (command ++ "\n") s with
  | (.error cause, s) => ⟨s, [RecoveryReporter.writeFailure cause.text]⟩
  | (.ok (), s) => match w.flush s with
    | (.error cause, s) => ⟨s, [RecoveryReporter.writeFailure cause.text]⟩
    | (.ok (), s) => ⟨s, []⟩

/-- A text that is added to, or that nothing can be added to. -/
def text (fails : Bool) : CommandWriter String where
  write added s := if fails then (.error ⟨.other, "write failed"⟩, s) else (.ok (), s ++ added)
  flush s := (.ok (), s)

end CommandWriter

namespace RecoveryReporter

/-- Report an event: send the command for it, if there is one. -/
def tell (r : RecoveryReporter α) (w : CommandWriter σ) (e : RecoveryEvent α) (s : σ) :
    Logged (RecoveryReporter α × σ) :=
  match r.report e with
  | (r, some command) => do return (r, ← w.send command s)
  | (r, none) => return (r, s)

/-- Report events in order. -/
def tellAll (r : RecoveryReporter α) (w : CommandWriter σ) :
    List (RecoveryEvent α) → σ → Logged (RecoveryReporter α × σ)
  | [], s => return (r, s)
  | e :: rest, s => do
    let (r, s) ← r.tell w e s
    tellAll r w rest s

/-- What writing a command leaves in an empty text that can be added to, or not. -/
def written (fails : Bool) (command : Option String) : String :=
  match command with
  | some command => ((CommandWriter.text fails).send command "").value
  | none => ""

end RecoveryReporter

end SlotUpdate
