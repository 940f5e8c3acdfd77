import SlotUpdate.Shell.Syntax

/-!
# Tokens of a shell script

A script is cut into words and operators. A word keeps how it was quoted only as far as this
matters: for its parts, and for whether it can be a reserved word or an assignment, which quotes and
parameters prevent.
-/

namespace SlotUpdate.Shell

/-- What a token is. -/
inductive TokenKind where
  /-- A word and how it is written. -/
  | word (parts : Word) (written : String)
  /-- The end of a line. -/
  | newline
  /-- An operator between commands. -/
  | operator (symbol : String)
  /-- The operator of a redirection and its descriptor. -/
  | redirect (descriptor : Nat) (symbol : String)

/-- A token. -/
structure Token where
  /-- What it is. -/
  kind : TokenKind
  /-- The line that it starts on, from one. -/
  line : Nat

namespace Token

/-- Whether a character is a blank between words. -/
def isBlank (c : Char) : Bool := c == ' ' || c == '\t'

/-- Whether a character ends a word. -/
def endsWord (c : Char) : Bool :=
  isBlank c || c == '\n' || c == ';' || c == '&' || c == '|' || c == '<' || c == '>' ||
    c == '(' || c == ')'

/-- Whether a character may stand in the name of a variable. -/
def isNameChar (c : Char) : Bool := c.isAlphanum || c == '_'

/-- Put a character in front of parts. -/
def prepend (c : Char) : Word → Word
  | .text s :: rest => .text (String.ofList (c :: s.toList)) :: rest
  | parts => .text (String.singleton c) :: parts

/-- Where parts of a word stand. -/
inductive Place where
  /-- Outside of quotes. -/
  | bare
  /-- In double quotes. -/
  | quotes
  /-- In an arithmetic expression, in so many parentheses. -/
  | sum (depth : Nat)
  deriving DecidableEq

/-- The name of a parameter that is written after a dollar sign, and the rest. -/
def parameterName? : List Char → Option (String × List Char)
  | '{' :: rest =>
    let name := rest.takeWhile (· != '}')
    match rest.drop name.length with
    | _ :: after => some (String.ofList name, after)
    | [] => none
  | c :: rest =>
    if c.isDigit || "#?$!@*-".toList.contains c then some (String.singleton c, rest)
    else if isNameChar c then
      some (String.ofList (c :: rest.takeWhile isNameChar), rest.dropWhile isNameChar)
    else none
  | [] => none

/-- Read the parts of a word up to its end, to a closing quote or to closing parentheses. The
number bounds how many steps are taken. -/
def parts : Nat → Place → List Char → Option (Word × List Char)
  | 0, _, _ => none
  | _, .bare, [] => some ([], [])
  | _, _, [] => none
  | fuel + 1, .bare, '\'' :: rest =>
    let inside := rest.takeWhile (· != '\'')
    match rest.drop inside.length with
    | [] => none
    | _ :: after => do
      let (more, after) ← parts fuel .bare after
      return (.text (String.ofList inside) :: more, after)
  | fuel + 1, .bare, '"' :: rest => do
    let (inside, after) ← parts fuel .quotes rest
    let (more, after) ← parts fuel .bare after
    return (.text "" :: inside ++ more, after)
  | _, .quotes, '"' :: rest => some ([], rest)
  -- Two closing parentheses end the expression only outside of its own.
  | _, .sum 0, ')' :: ')' :: rest => some ([], rest)
  | fuel + 1, .sum depth, ')' :: rest => do
    let (more, after) ← parts fuel (.sum (depth - 1)) rest
    return (prepend ')' more, after)
  | fuel + 1, .sum depth, '(' :: rest => do
    let (more, after) ← parts fuel (.sum (depth + 1)) rest
    return (prepend '(' more, after)
  | fuel + 1, place, '$' :: '(' :: '(' :: rest => do
    let (inside, after) ← parts fuel (.sum 0) rest
    let (more, after) ← parts fuel place after
    return (.arithmetic inside :: more, after)
  | fuel + 1, place, '$' :: rest =>
    match parameterName? rest with
    | some (name, after) => do
      let (more, after) ← parts fuel place after
      return (.parameter name (place ≠ .bare) :: more, after)
    | none => do
      let (more, after) ← parts fuel place rest
      return (prepend '$' more, after)
  | fuel + 1, place, '\\' :: '\n' :: rest => parts fuel place rest
  | fuel + 1, place, '\\' :: c :: rest => do
    let (more, after) ← parts fuel place rest
    -- In quotes a backslash stands for itself except before what it can protect.
    if place = .bare || "$\\\"".toList.contains c then
      return (.text (String.singleton c) :: more, after)
    else return (prepend '\\' (prepend c more), after)
  | fuel + 1, place, c :: rest =>
    if place = .bare ∧ endsWord c then some ([], c :: rest)
    else do
      let (more, after) ← parts fuel place rest
      return (prepend c more, after)

/-- The operator at the front of a text and the rest. -/
def operator? : List Char → Option (String × List Char)
  | '&' :: '&' :: rest => some ("&&", rest)
  | '|' :: '|' :: rest => some ("||", rest)
  | c :: rest =>
    if c = ';' ∨ c = '&' ∨ c = '|' ∨ c = '(' ∨ c = ')' then some (String.singleton c, rest)
    else none
  | [] => none

/-- The operator of a redirection at the front of a text and the rest. -/
def redirection? : List Char → Option (String × List Char)
  | '>' :: '&' :: rest => some (">&", rest)
  | '>' :: '>' :: rest => some (">>", rest)
  | '>' :: rest => some (">", rest)
  | '<' :: '&' :: rest => some ("<&", rest)
  | '<' :: rest => some ("<", rest)
  | _ => none

/-- The descriptor that a redirection is about unless it names one. -/
def usualDescriptor (symbol : String) : Nat :=
  if symbol.startsWith "<" then 0 else 1

/-- Cut a script into tokens. The first number bounds how many steps are taken, the second one is
the number of the line. -/
def scan : Nat → Nat → List Char → Option (List Token)
  | 0, _, _ => none
  | _, _, [] => some []
  | fuel + 1, line, c :: rest =>
    let cs := c :: rest
    if isBlank c then scan fuel line rest
    else if c = '\n' then do return ⟨.newline, line⟩ :: (← scan fuel (line + 1) rest)
    else if c = '#' then scan fuel line (rest.dropWhile (· != '\n'))
    else match redirection? cs, operator? cs with
    | some (symbol, rest), _ => do
      return ⟨.redirect (usualDescriptor symbol) symbol, line⟩ :: (← scan fuel line rest)
    | none, some (symbol, rest) => do
      return ⟨.operator symbol, line⟩ :: (← scan fuel line rest)
    | none, none => do
      let (word, after) ← parts (cs.length + 1) .bare cs
      let written := cs.take (cs.length - after.length)
      let next := line + written.count '\n'
      let asWord : Token := ⟨.word word (String.ofList written), line⟩
      match written, redirection? after with
      | [d], some (symbol, rest) =>
        -- One digit right before the operator is a descriptor; anything longer is an argument.
        if d.isDigit then
          return ⟨.redirect (d.toNat - '0'.toNat) symbol, line⟩ :: (← scan fuel next rest)
        else return asWord :: (← scan fuel next after)
      | _, _ => return asWord :: (← scan fuel next after)

/-- The tokens of a script. -/
def ofScript? (script : String) : Option (List Token) :=
  scan (script.length + 1) 1 script.toList

end Token

end SlotUpdate.Shell
