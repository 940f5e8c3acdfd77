import SlotUpdate.Toml.Scalar

/-!
# Reading TOML

`parse` gives the table of a text that is a TOML document, or says what is wrong with it. A value, a
line and a document each have their reader; what the lines mean together is the work of `Document`.
-/

namespace SlotUpdate.Toml

/-- How deep values may nest. -/
def maxDepth : Nat := 79

/-- A text without the blanks, line breaks and comments at its front. A comment must end with a
line break. -/
def skipLines : List Char → Except Fault (List Char)
  | [] => .ok []
  | '\r' :: '\n' :: rest => skipLines rest
  | '#' :: rest => go rest
  | c :: rest =>
    if isGap c || c == '\n' then skipLines rest
    else if c = '\r' then .error (.misplaced (c :: rest) [])
    else .ok (c :: rest)
where
  /-- Skip from within a comment. -/
  go : List Char → Except Fault (List Char)
    | [] => .error (.misplaced [] [])
    | '\r' :: '\n' :: rest => skipLines rest
    | c :: rest =>
      if c = '\n' then skipLines rest
      else if isPlain c then go rest
      else .error (.misplaced (c :: rest) [])

/-- What stands after the character that closes a part. -/
def afterClose (close : Char) (part : String) (cs : List Char) : Except Fault (List Char) :=
  if cs.head? = some close then .ok cs.tail
  else .error (.malformed cs part [backquoted (String.singleton close)])

/-- Read items with commas between them up to a closing character. `item?` reads one item if one
starts there, and `mayFollow` says whether items go on after a comma. -/
def items {α : Type} (item? : List Char → Except Fault (Option α × List Char))
    (mayFollow : List Char → Bool) (close : Char) (part : String) (cs : List Char) :
    Except Fault (List α × List Char) :=
  match item? cs with
  | .error e => .error e
  | .ok (none, rest) => (afterClose close part rest).map ([], ·)
  | .ok (some x, rest) =>
    match rest with
    | ',' :: after =>
      -- The length bounds the recursion: an item and a comma take at least one character.
      if mayFollow after ∧ after.length < cs.length then
        (items item? mayFollow close part after).map fun (xs, rest) => (x :: xs, rest)
      else (afterClose close part rest).map ([x], ·)
    | _ => (afterClose close part rest).map ([x], ·)
termination_by cs.length

/-- What may stand after a name of a key before a value. -/
def keyEnds : List String := [".", "="].map backquoted

/-- Read a key, an equals sign and a value. -/
def pair (value : Reader Value) : Reader (Key × Placed Value) := fun cs => do
  let (k, rest) ← key cs
  match rest with
  | '=' :: rest =>
    let (v, rest) ← placed value (skipGap rest)
    return ((k, v), rest)
  | _ => throw (.misplaced rest keyEnds)

/-- Whether a value starts at the front of a text. -/
def startsValue : List Char → Bool
  | [] => false
  | c :: rest => "\"'[\x7b".toList.contains c || startsScalar (c :: rest)

/-- Read a value that nests at most as deep as the number says. -/
def value : Nat → Reader Value
  | _, [] => .error (.misplaced [] [])
  | depth, c :: rest =>
    if c = '"' ∨ c = '\'' then
      (text (c :: rest)).map fun (s, rest) => (.text (String.ofList s), rest)
    else if c = '[' then match depth with
      | 0 => .error (.unusable (c :: rest) .tooDeep)
      | depth + 1 =>
        let item? (cs : List Char) : Except Fault (Option (Placed Value) × List Char) := do
          let cs ← skipLines cs
          if startsValue cs then
            let (v, rest) ← placed (value depth) cs
            return (some v, ← skipLines rest)
          else return (none, cs)
        (items item? (fun _ => true) ']' "array" rest).map fun (vs, rest) => (.array vs, rest)
    else if c = '\x7b' then match depth with
      | 0 => .error (.unusable (c :: rest) .tooDeep)
      | depth + 1 => do
        let mayFollow (cs : List Char) : Bool := startsName (skipGap cs)
        let item? (cs : List Char) : Except Fault (Option (Key × Placed Value) × List Char) :=
          if mayFollow cs then
            (pair (value depth) cs).map fun (entry, rest) => (some entry, skipGap rest)
          else .ok (none, skipGap cs)
        let (entries, after) ← items item? mayFollow '\x7d' "inline table" rest
        -- The entries are put together only when the closing brace is there.
        let table := entries.foldlM (fun table (k, v) =>
          Entries.addDotted none [] .header k.name v k.path table) ([] : Entries)
        return (.table .braces (← table.mapError (.unusable rest)), after)
    else scalar (c :: rest)

/-- What may stand after a value or a header. -/
def lineEnds : List String := ["newline", backquoted "#"]

/-- What stands after the end of a line, which may have blanks and a comment before it. -/
def endLine (expected : List String) (cs : List Char) : Except Fault (List Char) :=
  let afterComment := match skipGap cs with
    | '#' :: rest => rest.dropWhile isPlain
    | rest => rest
  match afterComment, afterBreak? afterComment with
  | [], _ => .ok []
  | _, some rest => .ok rest
  | rest, none => .error (.misplaced rest expected)

/-- Read a header after its opening brackets up to the end of its line. `start` is where the header
starts. -/
def header (start : List Char) (close : String) (cs : List Char) :
    Except Fault ((Key × Stretch) × List Char) := do
  let (k, rest) ← key cs
  match afterWord? close rest with
  | none => throw (.misplaced rest (["." , close].map backquoted))
  | some after => return ((k, .between start after), ← endLine lineEnds after)

/-- Read one line, or one key with a value that takes several lines, into a document. -/
def line (d : Document) (cs : List Char) : Except Fault (Document × List Char) :=
  let inHeader {α : Type} (x : Except Fault α) : Except Fault α :=
    x.mapError (·.inside "table header")
  match cs with
  | ['['] => .error (.malformed cs "table header" [])
  | '[' :: '[' :: rest => inHeader do
    let ((k, place), rest) ← header cs "]]" rest
    return (← (d.openNext k place).mapError (.unusable cs), rest)
  | '[' :: rest => inHeader do
    let ((k, place), rest) ← header cs "]" rest
    return (← (d.openTable k place).mapError (.unusable cs), rest)
  | '#' :: _ => do return (d, ← endLine [] cs)
  | '\n' :: rest => .ok (d, rest)
  | '\r' :: '\n' :: rest => .ok (d, rest)
  | '\r' :: _ => .error (.misplaced cs [])
  | cs => do
    let ((k, v), rest) ← pair (value maxDepth) cs
    let rest ← endLine lineEnds rest
    return (← (d.add k v).mapError (.unusable cs), rest)

/-- Read the lines of a text into a document. -/
def lines (d : Document) (cs : List Char) : Except Fault Document :=
  match skipGap cs with
  | [] => .ok d
  | start => match line d start with
    | .error e => .error e
    | .ok (d, rest) =>
      -- A line takes at least one character.
      if rest.length < cs.length then lines d rest else .error (.misplaced rest [])
termination_by cs.length

/-- A text without the mark of its byte order at its front. -/
def skipMark : List Char → List Char
  | '\ufeff' :: rest => rest
  | cs => cs

/-- The table that a text writes. -/
def parse (s : String) : Except Fault Entries :=
  (lines .empty (skipMark s.toList)).map (·.root)

end SlotUpdate.Toml
