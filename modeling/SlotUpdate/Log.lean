/-!
# Log messages

A step of the program answers a value and the log messages it wrote on the way, in order: `Logged`
pairs them, and its monad runs one step after the other and joins their messages.
-/

namespace SlotUpdate

/-- The severity of a log message, from the least to the most severe. -/
inductive LogLevel where
  /-- Finest detail. -/
  | trace
  /-- Detail for finding faults. -/
  | debug
  /-- Normal progress. -/
  | info
  /-- Something unexpected that does not end the step. -/
  | warn
  /-- A failure. -/
  | error
  deriving Repr, DecidableEq, Inhabited

namespace LogLevel

/-- The place of a severity in the order. -/
def rank : LogLevel → Nat
  | .trace => 0
  | .debug => 1
  | .info => 2
  | .warn => 3
  | .error => 4

/-- The upper-case name of a severity. -/
def name : LogLevel → String
  | .trace => "TRACE"
  | .debug => "DEBUG"
  | .info => "INFO"
  | .warn => "WARN"
  | .error => "ERROR"

end LogLevel

/-- A log message. -/
structure LogLine where
  /-- Its severity. -/
  level : LogLevel
  /-- Its text. -/
  text : String
  deriving Repr, DecidableEq

namespace LogLine

/-- A message of level `debug`. -/
abbrev debug (text : String) : LogLine := ⟨.debug, text⟩

/-- A message of level `info`. -/
abbrev info (text : String) : LogLine := ⟨.info, text⟩

/-- A message of level `warn`. -/
abbrev warn (text : String) : LogLine := ⟨.warn, text⟩

/-- A message of level `error`. -/
abbrev error (text : String) : LogLine := ⟨.error, text⟩

end LogLine

/-- A value and the messages written while it was computed. -/
structure Logged (α : Type) where
  /-- The value. -/
  value : α
  /-- The messages, in order. -/
  log : List LogLine

namespace Logged

/-- One computation after the other; their messages follow each other too. -/
instance : Monad Logged where
  pure a := ⟨a, []⟩
  bind x f := ⟨(f x.value).value, x.log ++ (f x.value).log⟩

/-- Write one message. -/
def tell (line : LogLine) : Logged Unit := ⟨(), [line]⟩

/-- Write messages. -/
def tellAll (lines : List LogLine) : Logged Unit := ⟨(), lines⟩

/-- A plain value is itself. -/
@[simp] theorem value_pure {α : Type} (a : α) : (pure a : Logged α).value = a := rfl

/-- A plain value logs nothing. -/
@[simp] theorem log_pure {α : Type} (a : α) : (pure a : Logged α).log = [] := rfl

/-- The value of two computations is that of the second. -/
@[simp] theorem value_bind {α β : Type} (x : Logged α) (f : α → Logged β) :
    (x >>= f).value = (f x.value).value := rfl

/-- Two computations log what each of them logs, in order. -/
@[simp] theorem log_bind {α β : Type} (x : Logged α) (f : α → Logged β) :
    (x >>= f).log = x.log ++ (f x.value).log := rfl

end Logged

end SlotUpdate
