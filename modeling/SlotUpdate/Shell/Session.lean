import SlotUpdate.Shell.Arithmetic
import SlotUpdate.Shell.Lookup
import SlotUpdate.Shell.Parse
import SlotUpdate.Shell.Signal

/-!
# Running programs

A session is a program that runs: the shell with what is left of its script, or a utility. It keeps
its descriptors, what it does on signals, and until when it sleeps. This module holds its state, how
signals and writes act on it, and how words are expanded; the commands are in
`SlotUpdate.Shell.Step`.
-/

namespace SlotUpdate.Shell

/-- Where a descriptor leads. -/
inductive Channel where
  /-- Nowhere: it reads as empty and takes any write. -/
  | nothing
  /-- To a file that is read. -/
  | contents (bytes : Bytes)
  /-- To the log of what programs print. -/
  | output
  /-- To the status pipe. -/
  | status
  deriving Repr, DecidableEq

/-- The descriptors of a program and where they lead. -/
abbrev Descriptors := List (Nat × Channel)

/-- A piece of work of a script. -/
inductive Job where
  /-- Run a command. -/
  | run (command : Command)
  /-- Run a utility. -/
  | utility (name : String) (arguments : List String)
  /-- After the test of a loop: run its body, or end with the status of the last round. -/
  | check (expected : Bool) (test body : List Command) (last : Int)
  /-- After the body of a loop: test again. -/
  | again (expected : Bool) (test body : List Command)
  /-- Go on with the next value of a loop over values. -/
  | next (name : String) (values : List String) (body : List Command)
  /-- After the test of a conditional: choose. -/
  | choose (yes no : List Command)
  /-- After a command: run another one if success is as expected. -/
  | follow (expected : Bool) (command : Command)
  /-- Turn success and failure around. -/
  | negate
  /-- Let the descriptors be as they were before. -/
  | restore (descriptors : Descriptors)
  /-- Let the status be as it was before. -/
  | setStatus (status : Int)
  /-- Say why there is no script, and end. -/
  | fail (text : String)
  /-- End the script. -/
  | quit (status : Int)

/-- A program that runs. -/
structure Session where
  /-- Its number. -/
  pid : Int
  /-- Its name, as it knows it. -/
  name : String
  /-- Its arguments. -/
  arguments : List String
  /-- Its variables. -/
  bindings : List (String × String)
  /-- The status of its last command. -/
  status : Int
  /-- Its descriptors. -/
  descriptors : Descriptors
  /-- What it does next. -/
  work : List Job
  /-- What it does on signals: the commands to run, or nothing for an empty text. -/
  handlers : List (Signal × String)
  /-- The signals whose commands are still to run. -/
  pending : List Signal
  /-- The signals that came while it was stopped. -/
  held : List Signal
  /-- Until when it sleeps. -/
  wakes : Option Nat
  /-- Whether it is stopped. -/
  stopped : Bool
  /-- Its exit code, once it has ended. -/
  ended : Option Int
  /-- What it wrote and where, in order. -/
  written : List (Channel × Bytes)

/-- What a program sees of its surroundings. -/
structure Surroundings where
  /-- The files. -/
  files : FileTree
  /-- The time in microseconds. -/
  now : Nat
  /-- Whether its status pipe is still read. -/
  heard : Bool

namespace Session

/-- A program before its first step. -/
def new (pid : Int) (name : String) (arguments : List String) (descriptors : Descriptors)
    (work : List Job) : Session where
  pid := pid
  name := name
  arguments := arguments
  bindings := []
  status := 0
  descriptors := descriptors
  work := work
  handlers := []
  pending := []
  held := []
  wakes := none
  stopped := false
  ended := none
  written := []

/-- End a program. Its descriptors close. -/
def finish (s : Session) (code : Int) : Session :=
  { s with ended := some code, work := [], wakes := none, descriptors := [] }

/-! ## Signals -/

/-- The commands that a program runs on a signal, if it has chosen any. -/
def handler? (s : Session) (n : Signal) : Option String :=
  (s.handlers.find? (·.1 == n)).map (·.2)

/-- A signal takes effect on a program that is not stopped. -/
def take (s : Session) (n : Signal) : Session :=
  if s.ended.isSome then s
  else if n = Signal.kill then s.finish (Signal.exitCode n)
  else if n = Signal.stop then { s with stopped := true }
  else match s.handler? n with
    -- An empty text means that the signal is ignored.
    | some "" => s
    | some _ => { s with pending := s.pending ++ [n] }
    | none => match Signal.usualEffect n with
      | .ends => s.finish (Signal.exitCode n)
      | .stops => { s with stopped := true }
      | .nothing => s

/-- Send a signal to a program. While it is stopped, only a signal that ends it or lets it go on
takes effect at once. -/
def deliver (s : Session) (n : Signal) : Session :=
  if s.stopped then
    if n = Signal.resume then
      -- The signals that waited take effect in the order in which they came.
      s.held.foldl take { s with stopped := false, held := [] }
    else if n = Signal.kill then s.take n
    else { s with held := s.held ++ [n] }
  else s.take n

/-! ## Writing -/

/-- Where a descriptor leads. -/
def channel? (s : Session) (fd : Nat) : Option Channel :=
  (s.descriptors.find? (·.1 == fd)).map (·.2)

/-- Let a descriptor lead somewhere, or close it. -/
def lead (s : Session) (fd : Nat) (channel : Option Channel) : Session :=
  { s with
    descriptors := (channel.map (fd, ·)).toList ++ s.descriptors.filter (·.1 != fd) }

/-- Write to a descriptor and say whether that succeeds. A write to a status pipe that nobody reads
raises a signal. -/
def write (s : Session) (around : Surroundings) (fd : Nat) (bytes : Bytes) : Session × Bool :=
  if bytes = [] then (s, true)
  else match s.channel? fd with
    | some .output => ({ s with written := s.written ++ [(.output, bytes)] }, true)
    | some .status =>
      if around.heard then ({ s with written := s.written ++ [(.status, bytes)] }, true)
      -- If the signal is ignored, the write just fails.
      else (s.take Signal.pipe, false)
    | some .nothing => (s, true)
    | some (.contents _) | none => (s, false)

/-- Write a message about a fault. -/
def complain (s : Session) (around : Surroundings) (line : Nat) (text : String) : Session :=
  (s.write around 2 (Utf8.encode s!"{s.name}: {line}: {text}\n")).1

/-! ## Words -/

/-- The value of a parameter. A name with `:-` in it has a value for the case that there is none
before it. -/
def parameter (s : Session) (name : String) : String :=
  match name with
  | "#" => toString s.arguments.length
  | "?" => toString s.status
  | "$" => toString s.pid
  | "0" => s.name
  | "@" | "*" => " ".intercalate s.arguments
  | _ =>
    let bare := name.toList.takeWhile (· != ':')
    let value :=
      if bare ≠ [] ∧ bare.all Char.isDigit then
        s.arguments.getD (bare.foldl (fun n d => 10 * n + (d.toNat - '0'.toNat)) 0 - 1) ""
      else ((s.bindings.find? (·.1 == String.ofList bare)).map (·.2)).getD ""
    match name.toList.drop bare.length with
    | ':' :: '-' :: usual => if value = "" then String.ofList usual else value
    | _ => value

/-- Set a variable. -/
def setVariable (s : Session) (name value : String) : Session :=
  { s with bindings := (name, value) :: s.bindings.filter (·.1 != name) }

/-- Fields that are being put together. -/
structure Fields where
  /-- The fields that are complete. -/
  complete : List String
  /-- The field that goes on. -/
  current : Option String

namespace Fields

/-- Go on with a text. -/
def add (f : Fields) (s : String) : Fields := { f with current := some (f.current.getD "" ++ s) }

/-- End the current field. -/
def close (f : Fields) : Fields := ⟨f.complete ++ f.current.toList, none⟩

/-- Go on with a text that is split at blanks. -/
def addSplit (f : Fields) (s : String) : Fields :=
  s.toList.foldl (fun f c => if c.isWhitespace then f.close else f.add (String.singleton c)) f

/-- Go on with texts that are fields of their own. -/
def addEach (f : Fields) : List String → Fields
  | [] => f
  | [s] => f.add s
  | s :: rest => addEach (f.add s).close rest

end Fields

mutual

/-- Expand the parts of a word. It fails where an expression has no value. -/
def expandParts (s : Session) (f : Fields) : List Part → Option Fields
  | [] => some f
  | part :: rest => do expandParts s (← expandPart s f part) rest

/-- Expand one part of a word. -/
def expandPart (s : Session) (f : Fields) : Part → Option Fields
  | .text t => some (f.add t)
  | .parameter "@" true => some (f.addEach s.arguments)
  | .parameter name true => some (f.add (s.parameter name))
  | .parameter name false => some (f.addSplit (s.parameter name))
  | .arithmetic inner => do
    let inside ← expandParts s ⟨[], none⟩ inner
    let n ← Arithmetic.evaluate? s.parameter (" ".intercalate inside.close.complete)
    return f.add (toString n)

end

/-- The fields that words give. -/
def expand (s : Session) (words : List Word) : Option (List String) :=
  words.foldlM (fun fields w => do
    return fields ++ (← s.expandParts ⟨[], none⟩ w).close.complete) []

/-- A word with its parameters in quotes. -/
def quoteParameters (w : Word) : Word :=
  w.map fun
    | .parameter name _ => .parameter name true
    | part => part

/-- The text that a word gives where it is not split. -/
def expandText (s : Session) (w : Word) : Option String := do
  return " ".intercalate (← s.expand [quoteParameters w])

end Session

end SlotUpdate.Shell
