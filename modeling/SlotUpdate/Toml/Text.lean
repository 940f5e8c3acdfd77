import SlotUpdate.Toml.Value

/-!
# Texts and names in TOML

A reader takes what it reads off the front of a text and gives back the rest, or fails with the
place of the fault. A line ends with a newline, which may have a carriage return before it.
-/

namespace SlotUpdate.Toml

/-- Reads from the front of a text: what was read, and the rest. -/
abbrev Reader (α : Type) := List Char → Except Fault (α × List Char)

/-- What was read from the front of a text, with its place. -/
def placed {α : Type} (read : Reader α) : Reader (Placed α) := fun cs =>
  (read cs).map fun (a, rest) => (⟨a, .between cs rest⟩, rest)

/-- Whether a character is blank within a line. -/
def isGap (c : Char) : Bool :=
  c == ' ' || c == '\t'

/-- Whether a character may stand in comments and texts: no control character but the tab. -/
def isPlain (c : Char) : Bool :=
  c == '\t' || (' ' ≤ c && c != '\x7f')

/-- A text without the blanks at its front. -/
def skipGap (cs : List Char) : List Char :=
  cs.dropWhile isGap

/-- What stands after the line break at the front of a text. -/
def afterBreak? : List Char → Option (List Char)
  | '\n' :: rest => some rest
  | '\r' :: '\n' :: rest => some rest
  | _ => none

/-- What stands after a line break is shorter. -/
theorem length_lt_of_afterBreak? {cs rest : List Char} (h : afterBreak? cs = some rest) :
    rest.length < cs.length := by
  unfold afterBreak? at h
  split at h <;> simp only [Option.some.injEq, reduceCtorEq] at h
  all_goals subst h; simp only [List.length_cons]; omega

/-- A text without the line break at its front. -/
def skipBreak (cs : List Char) : List Char :=
  (afterBreak? cs).getD cs

/-- A text without the blanks and line breaks at its front. -/
def skipSpace : List Char → List Char
  | '\r' :: '\n' :: rest => skipSpace rest
  | c :: rest => if isGap c || c == '\n' then skipSpace rest else c :: rest
  | [] => []

/-- Blanks and line breaks do not make a text longer. -/
theorem length_skipSpace_le (cs : List Char) : (skipSpace cs).length ≤ cs.length := by
  fun_induction skipSpace cs <;> simp only [List.length_cons, List.length_nil] at * <;> omega

/-! ## Escapes -/

/-- The value of a digit in a base up to sixteen. -/
def digit? (base : Nat) (c : Char) : Option Nat :=
  let n :=
    if '0' ≤ c && c ≤ '9' then c.toNat - '0'.toNat
    else if 'a' ≤ c && c ≤ 'f' then c.toNat - 'a'.toNat + 10
    else if 'A' ≤ c && c ≤ 'F' then c.toNat - 'A'.toNat + 10
    else base
  if n < base then some n else none

/-- Whether a character is a digit in a base. -/
def isDigitOf (base : Nat) (c : Char) : Bool := (digit? base c).isSome

/-- The number that digits write in a base. -/
def number? (base : Nat) (cs : List Char) : Option Nat :=
  cs.foldlM (fun n c => (digit? base c).map (base * n + ·)) 0

/-- The character of a number. Numbers of surrogates have none. -/
def charOfNat? (n : Nat) : Option Char :=
  if h : n.isValidChar then some (Char.ofNatAux n h) else none

/-- The character that a letter stands for after a backslash. -/
def escaped? : Char → Option Char
  | 'b' => some '\x08'
  | 'f' => some '\x0c'
  | 'n' => some '\n'
  | 'r' => some '\r'
  | 't' => some '\t'
  | '"' => some '"'
  | '\\' => some '\\'
  | _ => none

/-- The letters that may stand after a backslash, as messages name them. -/
def escapeLetters : List String :=
  ["b", "f", "n", "r", "t", "u", "U", "\\", "\""].map backquoted

/-- Read the character that hexadecimal digits of a fixed number stand for. -/
def hexEscape (count : Nat) : Reader Char := fun cs =>
  let part := s!"unicode {count}-digit hex code"
  let digits := cs.take count
  match if digits.length = count then number? 16 digits else none with
  | none => .error (.malformed cs part [])
  | some n => match charOfNat? n with
    | none => .error ((Fault.unusable cs .outOfRange).inside part)
    | some c => .ok (c, cs.drop count)

/-- Digits do not make the rest of a text longer. -/
theorem length_le_of_hexEscape {count : Nat} {cs rest : List Char} {x : Char}
    (h : hexEscape count cs = .ok (x, rest)) : rest.length ≤ cs.length := by
  simp only [hexEscape] at h
  split at h
  · simp at h
  · split at h
    · simp at h
    · simp only [Except.ok.injEq, Prod.mk.injEq] at h
      rw [← h.2, List.length_drop]
      omega

/-- Read the character that an escape stands for, after the backslash and the given letter. -/
def escape (letter : Char) : Reader Char := fun cs =>
  match letter with
  | 'u' => hexEscape 4 cs
  | 'U' => hexEscape 8 cs
  | c => match escaped? c with
    | some x => .ok (x, cs)
    | none => .error (.malformed cs "escape sequence" escapeLetters)

/-- An escape does not make the rest of a text longer. -/
theorem length_le_of_escape {letter x : Char} {cs rest : List Char}
    (h : escape letter cs = .ok (x, rest)) : rest.length ≤ cs.length := by
  unfold escape at h
  split at h
  · exact length_le_of_hexEscape h
  · exact length_le_of_hexEscape h
  · split at h
    · simp only [Except.ok.injEq, Prod.mk.injEq] at h
      exact Nat.le_of_eq (congrArg List.length h.2.symm)
    · simp at h

/-! ## Texts -/

/-- Put a character in front of a text that was read. -/
def prepend (c : Char) (read : Except Fault (List Char × List Char)) :
    Except Fault (List Char × List Char) :=
  read.map fun (s, rest) => (c :: s, rest)

/-- Read a text in double quotes, after the first of them. -/
def quotedText (cs : List Char) : Except Fault (List Char × List Char) :=
  match cs with
  | '"' :: rest => .ok ([], rest)
  | '\\' :: letter :: rest =>
    match h : escape letter rest with
    | .error e => .error e
    | .ok (x, after) =>
      have := length_le_of_escape h
      prepend x (quotedText after)
  | c :: rest =>
    if isPlain c && c != '\\' then prepend c (quotedText rest)
    else .error (.malformed (c :: rest) "basic string" [])
  | [] => .error (.malformed [] "basic string" [])
termination_by cs.length

/-- What stands after a backslash that joins lines: blanks, a line break, and more of both. -/
def afterJoin? (cs : List Char) : Option (List Char) :=
  (afterBreak? (skipGap cs)).map skipSpace

/-- What stands after a backslash that joins lines is shorter. -/
theorem length_lt_of_afterJoin? {cs rest : List Char} (h : afterJoin? cs = some rest) :
    rest.length < cs.length := by
  obtain ⟨after, ha, rfl⟩ := Option.map_eq_some_iff.1 h
  have h1 := length_lt_of_afterBreak? ha
  have h2 := (List.dropWhile_suffix isGap (l := cs)).length_le
  have h3 := length_skipSpace_le after
  -- The blanks before the break, the break and the space behind it are all gone.
  simp only [skipGap] at h1
  omega

/-- Read a text in double quotes over several lines, after the first quotes. Up to two quotes may
stand before the three that end it. A backslash at the end of a line joins the next text to it. -/
def quotedLines (cs : List Char) : Except Fault (List Char × List Char) :=
  match cs with
  | '"' :: '"' :: '"' :: '"' :: '"' :: rest => .ok (['"', '"'], rest)
  | '"' :: '"' :: '"' :: '"' :: rest => .ok (['"'], rest)
  | '"' :: '"' :: '"' :: rest => .ok ([], rest)
  | '\\' :: letter :: rest =>
    match g : afterJoin? (letter :: rest) with
    | some after =>
      have := length_lt_of_afterJoin? g
      quotedLines after
    -- A backslash that joins no lines starts an escape.
    | none => match h : escape letter rest with
      | .error e => .error e
      | .ok (x, after) =>
        have := length_le_of_escape h
        prepend x (quotedLines after)
  | '\r' :: '\n' :: rest => prepend '\n' (quotedLines rest)
  | c :: rest =>
    if (isPlain c && c != '\\') || c == '\n' then prepend c (quotedLines rest)
    else .error (.malformed (c :: rest) "multiline basic string" [])
  | [] => .error (.malformed [] "multiline basic string" [])
termination_by cs.length
decreasing_by all_goals simp_all only [List.length_cons]; omega

/-- Read a text in single quotes, after the first of them. -/
def literalText : Reader (List Char)
  | '\'' :: rest => .ok ([], rest)
  | c :: rest =>
    if isPlain c then prepend c (literalText rest)
    else .error (.malformed (c :: rest) "literal string" [])
  | [] => .error (.malformed [] "literal string" [])

/-- Read a text in single quotes over several lines, after the first quotes. Up to two quotes may
stand before the three that end it. -/
def literalLines : Reader (List Char)
  | '\'' :: '\'' :: '\'' :: '\'' :: '\'' :: rest => .ok (['\'', '\''], rest)
  | '\'' :: '\'' :: '\'' :: '\'' :: rest => .ok (['\''], rest)
  | '\'' :: '\'' :: '\'' :: rest => .ok ([], rest)
  | '\r' :: '\n' :: rest => prepend '\n' (literalLines rest)
  | c :: rest =>
    if isPlain c || c == '\n' then prepend c (literalLines rest)
    else .error (.malformed (c :: rest) "multiline literal string" [])
  | [] => .error (.malformed [] "multiline literal string" [])

/-- The fault of a value of no known kind, which is taken for a text without quotes. -/
def unquoted (cs : List Char) : Fault :=
  .malformed cs "string" (["\"", "'"].map backquoted)

/-- Read a text in any of its four forms. -/
def text : Reader (List Char)
  | '"' :: '"' :: '"' :: rest => quotedLines (skipBreak rest)
  | '"' :: rest => quotedText rest
  | '\'' :: '\'' :: '\'' :: rest => literalLines (skipBreak rest)
  | '\'' :: rest => literalText rest
  | cs => .error (unquoted cs)

/-! ## Names -/

/-- Whether a character may stand in a name without quotes. -/
def isBare (c : Char) : Bool :=
  ('0' ≤ c && c ≤ '9') || ('a' ≤ c && c ≤ 'z') || ('A' ≤ c && c ≤ 'Z') || c == '-' || c == '_'

/-- Whether a name starts at the front of a text. -/
def startsName : List Char → Bool
  | c :: _ => c == '"' || c == '\'' || isBare c
  | [] => false

/-- Read a name: in quotes on one line, or bare. -/
def name : Reader (List Char)
  | '"' :: rest => quotedText rest
  | '\'' :: rest => literalText rest
  | cs =>
    if startsName cs then .ok (cs.takeWhile isBare, cs.dropWhile isBare)
    else .error (.malformed cs "key" [])

/-- The most names that a key has. -/
def maxNames : Nat := 79

/-- Read the names of a key, with dots between them and blanks around each name. A dot that no name
follows is left. `limit` bounds how many names are read. -/
def names : (limit : Nat) → Reader (List (Placed String))
  | 0, cs => .ok ([], cs)
  | limit + 1, cs => do
    let (word, rest) ← placed name (skipGap cs)
    let first := ⟨String.ofList word.value, word.place⟩
    match skipGap rest with
    | '.' :: after =>
      -- The dot belongs to the key only if a name follows it.
      if startsName (skipGap after) then
        let (more, rest) ← names limit after
        return (first :: more, rest)
      else return ([first], '.' :: after)
    | rest => return ([first], rest)

/-- Read a key. -/
def key : Reader Key := fun cs => do
  let (read, rest) ← (names cs.length.succ cs).mapError (·.inside "key")
  match read.getLast? with
  | some last =>
    if maxNames < read.length then throw (.unusable cs .tooDeep)
    else return (⟨read.dropLast, last⟩, rest)
  | none => throw (.malformed cs "key" [])

end SlotUpdate.Toml
