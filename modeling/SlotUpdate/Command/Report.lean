import SlotUpdate.Log

/-!
# Reports of commands

A command gives a result or the failure that ends it, and on the way it prints lines and logs
messages. A failure is a chain of texts: what failed first, and below it what lies behind. A command
can also crash, which ends the program at once.
-/

namespace SlotUpdate.Command

/-- Why a command has no result. -/
inductive Failure where
  /-- It failed: the text says what failed, and the causes what lies behind it, the nearest
  first. -/
  | failed (text : String) (causes : List String)
  /-- It crashed. -/
  | crashed (text : String)
  deriving Repr, DecidableEq

namespace Failure

/-- A failure as the cause of another one. A crash has no context. -/
def within (f : Failure) (context : String) : Failure :=
  match f with
  | failed text causes => failed context (text :: causes)
  | crashed text => crashed text

/-- Put a text in front of the first line of a text and blanks in front of the others. -/
def indentLines (first blanks text : String) : String :=
  first ++ String.intercalate ("\n" ++ blanks) (text.splitOn "\n")

/-- A number right-aligned in five places. -/
def place (n : Nat) : String :=
  let digits := toString n
  String.ofList (List.replicate (5 - digits.length) ' ') ++ digits

/-- The lines of the causes, which are numbered if there are several. -/
def causeLines : List String → List String
  | [] => []
  | [cause] => [indentLines "    " "    " cause]
  | causes => causes.mapIdx fun i cause => indentLines (place i ++ ": ") "       " cause

/-- A text with the causes of what it says. -/
def render (text : String) (causes : List String) : String :=
  if causes = [] then text
  else "\n".intercalate (text :: "" :: "Caused by:" :: causeLines causes)

/-- The exit code of the program. -/
def exitCode : Failure → UInt8
  | failed _ _ => 1
  | crashed _ => 101

end Failure

/-- What a command does. -/
structure Report (α : Type) where
  /-- The result, or why there is none. -/
  result : Except Failure α
  /-- The lines that it prints, in order. -/
  printed : List String
  /-- The messages that it logs, in order. -/
  log : List LogLine

namespace Report

variable {α β ε : Type}

/-- Go on with the result of a command, unless it failed. -/
def bind (r : Report α) (f : α → Report β) : Report β :=
  match r.result with
  | .error e => ⟨.error e, r.printed, r.log⟩
  -- The first failure ends the chain, and what was printed and logged before it stays.
  | .ok a => ⟨(f a).result, r.printed ++ (f a).printed, r.log ++ (f a).log⟩

/-- A command that prints nothing, and one command after the other. -/
instance : Monad Report where
  pure a := ⟨.ok a, [], []⟩
  bind := bind

/-- Print a line. -/
def print (line : String) : Report Unit := ⟨.ok (), [line], []⟩

/-- Log a message. -/
def note (line : LogLine) : Report Unit := ⟨.ok (), [], [line]⟩

/-- Fail. -/
def fail (f : Failure) : Report α := ⟨.error f, [], []⟩

/-- Take a result over, with its messages. A failure is told by its texts. -/
def take (failure : ε → Failure) (x : Except ε α) (log : List LogLine) : Report α :=
  ⟨x.mapError failure, [], log⟩

/-- Say what a command was about if it failed. -/
def context (r : Report α) (text : String) : Report α :=
  { r with result := r.result.mapError (·.within text) }

/-- Print the line that says how far things are. -/
def status (text : String) : Report Unit := print s!"\x1b[1m[*] {text}\x1b[0m"

/-- Print a warning. -/
def warning (text : String) : Report Unit := print s!"\x1b[1;31m[WARNING] {text}\x1b[0m"

end Report

end SlotUpdate.Command
