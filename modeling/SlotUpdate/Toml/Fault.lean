import SlotUpdate.Text.Quoted

/-!
# Faults of TOML documents

What is wrong with a document, and where. Readers know how much of a text is left, so a stretch of
the text is given by the numbers of characters left at its two ends. `Fault.render` shows the line
in which a fault lies, with a mark below the stretch.
-/

namespace SlotUpdate.Toml

/-- A stretch of a text. -/
structure Stretch where
  /-- How many characters are left at its start. -/
  before : Nat
  /-- How many characters are left at its end. -/
  after : Nat
  deriving Repr, DecidableEq

/-- The stretch from one rest of a text to a later one. -/
def Stretch.between (start stop : List Char) : Stretch := ⟨start.length, stop.length⟩

/-- The first character of the rest of a text, or its end. -/
def Stretch.here (rest : List Char) : Stretch := ⟨rest.length, rest.length - 1⟩

/-- What was read, and where it stands. -/
structure Placed (α : Type) where
  /-- What was read. -/
  value : α
  /-- Where it stands. -/
  place : Stretch
  deriving Repr, DecidableEq

/-- Why a part of a document that can be read cannot be used. -/
inductive Cause where
  /-- A table has a name already. The table is given by the names that lead to it, if it has a
  header. -/
  | duplicate (name : String) (table : Option (List String))
  /-- A key leads through a value that is no table. -/
  | notTable (path : List String) (kind : String)
  /-- There is no such character, day or time. -/
  | outOfRange
  /-- Values nest too deep, or a key has too many names. -/
  | tooDeep
  /-- A whole number is too large. -/
  | tooLarge
  /-- A whole number is too small. -/
  | tooSmall
  /-- There is no setting of this name. -/
  | unknownName (name : String) (known : List String)
  /-- A value has the wrong kind. -/
  | wrongKind (found expected : String)
  /-- A value has the right kind, but is out of range. -/
  | wrongValue (found expected : String)
  deriving Repr, DecidableEq

/-- A name in the quotes of messages. -/
def backquoted (s : String) : String := s!"`{s}`"

/-- A choice of names. -/
def choice : List String → String
  | [a] => backquoted a
  | [a, b] => backquoted a ++ " or " ++ backquoted b
  | names => "one of " ++ ", ".intercalate (names.map backquoted)

/-- The text of a cause. -/
def Cause.message : Cause → String
  | .duplicate name none => "duplicate key " ++ backquoted name
  | .duplicate name (some []) => "duplicate key " ++ backquoted name ++ " in document root"
  | .duplicate name (some path) =>
    "duplicate key " ++ backquoted name ++ " in table " ++ backquoted (".".intercalate path)
  | .notTable path kind =>
    "dotted key " ++ backquoted (".".intercalate path) ++
      s!" attempted to extend non-table type ({kind})"
  | .outOfRange => "value is out of range"
  | .tooDeep => "recursion limit exceeded"
  | .tooLarge => "number too large to fit in target type"
  | .tooSmall => "number too small to fit in target type"
  | .unknownName name known => "unknown field " ++ backquoted name ++ ", expected " ++ choice known
  | .wrongKind found expected => s!"invalid type: {found}, expected {expected}"
  | .wrongValue found expected => s!"invalid value: {found}, expected {expected}"

/-- What is wrong with a document. -/
structure Fault where
  /-- Where it is wrong. -/
  place : Stretch
  /-- The kind of the part that is malformed, if one is known. -/
  part : Option String
  /-- What may stand there. -/
  expected : List String
  /-- Why what stands there cannot be used. -/
  cause : Option Cause
  deriving Repr, DecidableEq

namespace Fault

/-- A part is malformed in front of the rest of a text. -/
def malformed (rest : List Char) (part : String) (expected : List String) : Fault :=
  ⟨.here rest, some part, expected, none⟩

/-- Something else must stand in front of the rest of a text. -/
def misplaced (rest : List Char) (expected : List String) : Fault :=
  ⟨.here rest, none, expected, none⟩

/-- What starts in front of the rest of a text cannot be used. -/
def unusable (rest : List Char) (cause : Cause) : Fault :=
  ⟨.here rest, none, [], some cause⟩

/-- A fault that lies in a part of this kind. -/
def inside (f : Fault) (part : String) : Fault := { f with part := f.part <|> some part }

/-- The text of a fault. -/
def message (f : Fault) : String :=
  "\n".intercalate <|
    (f.part.map ("invalid " ++ ·)).toList ++
    (if f.expected = [] then [] else ["expected " ++ ", ".intercalate f.expected]) ++
    (f.cause.map Cause.message).toList

/-! ## Showing the place -/

/-- How many bytes characters take. -/
def byteCount (cs : List Char) : Nat := cs.foldl (fun n c => n + c.utf8Size) 0

/-- The characters in front of a place on its line. At the very end of a text, a line break that
ends the text belongs to the line. -/
def lineStart (front : List Char) (atEnd : Bool) : List Char :=
  match atEnd, front.reverse with
  | true, '\n' :: before => (before.takeWhile (· != '\n')).reverse ++ ['\n']
  | _, reversed => (reversed.takeWhile (· != '\n')).reverse

/-- How far into its line a place is. In front of a character outside of ASCII the bytes count, and
elsewhere the characters. -/
def column (start rest : List Char) : Nat :=
  match rest with
  | c :: _ => if c.toNat < 128 then start.length else byteCount start
  | [] => start.length

/-- The text of a fault with the line in which it lies and a mark below its place. -/
def render (f : Fault) (text : List Char) : String :=
  let front := text.take (text.length - f.place.before)
  let rest := text.drop front.length
  let start := lineStart front rest.isEmpty
  let line := (front.take (front.length - start.length)).count '\n'
  let content := (text.splitOn '\n').getD line []
  let col := column start rest
  let marked := min (byteCount (rest.take (f.place.before - f.place.after)))
    (byteCount content - col)
  let number := toString (line + 1)
  let blanks (n : Nat) : String := String.ofList (List.replicate n ' ')
  let margin := blanks (number.length + 1) ++ "|"
  "\n".intercalate [
    s!"TOML parse error at line {number}, column {col + 1}",
    margin,
    number ++ " | " ++ String.ofList content,
    margin ++ blanks (col + 1) ++ String.ofList (List.replicate (max 1 marked) '^'),
    f.message,
    ""]

end Fault

end SlotUpdate.Toml
