import SlotUpdate.Shell.Token

/-!
# Reading shell scripts

`parse?` gives the commands of a script. Every reader takes tokens off the front of a list; a number
bounds how deep commands nest and how many follow each other.
-/

namespace SlotUpdate.Shell

/-- The variable and the first part of the value of a word that is an assignment. -/
def assignment? (parts : Word) (written : String) : Option (String × Word) :=
  let name := written.toList.takeWhile Token.isNameChar
  match written.toList.drop name.length, parts with
  | '=' :: _, .text s :: rest =>
    if name = [] ∨ name.head?.any Char.isDigit then none
    else some (String.ofList name, .text (String.ofList (s.toList.drop (name.length + 1))) :: rest)
  | _, _ => none

/-- Whether the next token is a reserved word or an operator. -/
def startsWith (symbol : String) : List Token → Bool
  | ⟨.word _ written, _⟩ :: _ => written == symbol
  | ⟨.operator s, _⟩ :: _ => s == symbol
  | _ => false

/-- The tokens after a reserved word or an operator. -/
def expect? (symbol : String) (ts : List Token) : Option (List Token) :=
  if startsWith symbol ts then some ts.tail else none

/-- The tokens after the ends of lines at the front. -/
def skipNewlines : List Token → List Token
  | ⟨.newline, _⟩ :: rest => skipNewlines rest
  | ts => ts

/-- The tokens after what ends a command: a semicolon or the end of a line, if there is one. -/
def skipSeparator (ts : List Token) : List Token :=
  skipNewlines (if startsWith ";" ts then ts.tail else ts)

/-- The redirection that its operator and its target make. -/
def redirectionOf (fd : Nat) (symbol : String) (target : Word) : Redirection :=
  if symbol = ">&" ∨ symbol = "<&" then .duplicate fd target else .file fd (symbol = "<") target

/-- Read a simple command. -/
def simple (c : SimpleCommand) : List Token → Option (SimpleCommand × List Token)
  | ⟨.word parts written, _⟩ :: rest =>
    -- Only words before the name of the command can be assignments.
    match if c.words.isEmpty then assignment? parts written else none with
    | some a => simple { c with assignments := c.assignments ++ [a] } rest
    | none => simple { c with words := c.words ++ [parts] } rest
  | ⟨.redirect fd symbol, _⟩ :: ⟨.word parts _, _⟩ :: rest =>
    simple { c with redirections := c.redirections ++ [redirectionOf fd symbol parts] } rest
  | ⟨.redirect _ _, _⟩ :: _ => none
  | rest =>
    if c.words.isEmpty && c.assignments.isEmpty && c.redirections.isEmpty then none
    else some (c, rest)

/-- Read the redirections after a command that is not simple. -/
def redirections : List Token → List Redirection × List Token
  | ⟨.redirect fd symbol, _⟩ :: ⟨.word parts _, _⟩ :: rest =>
    let (rs, rest) := redirections rest
    (redirectionOf fd symbol parts :: rs, rest)
  | rest => ([], rest)

/-- A command with the redirections after it. -/
def withRedirections (c : Command) (ts : List Token) : Command × List Token :=
  match redirections ts with
  | ([], rest) => (c, rest)
  | (rs, rest) => (.redirected c rs, rest)

/-- The reserved words that end a list of commands. -/
def closers : List String := ["then", "elif", "else", "fi", "do", "done", "\x7d"]

/-- Read words up to the end of a command. -/
def wordsOf : List Token → List Word × List Token
  | ⟨.word parts _, _⟩ :: rest => let (ws, rest) := wordsOf rest; (parts :: ws, rest)
  | rest => ([], rest)

mutual

/-- Read commands up to a reserved word that ends a list of commands, or to the end. -/
def list : Nat → List Token → Option (List Command × List Token)
  | 0, _ => none
  | fuel + 1, ts =>
    let ts := skipNewlines ts
    if ts.isEmpty || closers.any (startsWith · ts) then some ([], ts)
    else do
      let (c, rest) ← chain fuel ts
      match rest with
      | [] => return ([c], [])
      | ⟨.newline, _⟩ :: _ =>
        let (cs, rest) ← list fuel rest
        return (c :: cs, rest)
      | _ =>
        if startsWith ";" rest then
          let (cs, rest) ← list fuel rest.tail
          return (c :: cs, rest)
        else if closers.any (startsWith · rest) then return ([c], rest)
        else none

/-- Read commands that depend on the success of those before them. -/
def chain : Nat → List Token → Option (Command × List Token)
  | 0, _ => none
  | fuel + 1, ts => do
    let (c, rest) ← command fuel ts
    links fuel c rest

/-- Read what follows a command and depends on its success. -/
def links : Nat → Command → List Token → Option (Command × List Token)
  | 0, _, _ => none
  | fuel + 1, c, ts =>
    if startsWith "&&" ts then do
      let (next, rest) ← command fuel (skipNewlines ts.tail)
      links fuel (.andThen c next) rest
    else if startsWith "||" ts then do
      let (next, rest) ← command fuel (skipNewlines ts.tail)
      links fuel (.orElse c next) rest
    else some (c, ts)

/-- Read one command. -/
def command : Nat → List Token → Option (Command × List Token)
  | 0, _ => none
  | fuel + 1, ts =>
    if startsWith "!" ts then do
      let (c, rest) ← command fuel ts.tail
      return (.negate c, rest)
    else if startsWith "\x7b" ts then do
      let (body, rest) ← list fuel ts.tail
      return withRedirections (.group body) (← expect? "\x7d" rest)
    else if startsWith "while" ts || startsWith "until" ts then do
      let (test, rest) ← list fuel ts.tail
      let (body, rest) ← list fuel (← expect? "do" rest)
      return withRedirections (.loop (startsWith "while" ts) test body) (← expect? "done" rest)
    else if startsWith "if" ts then do
      let (c, rest) ← conditional fuel ts.tail
      return withRedirections c (← expect? "fi" rest)
    else if startsWith "for" ts then
      match ts.tail with
      | ⟨.word _ name, _⟩ :: rest => do
        let (values, rest) := wordsOf (← expect? "in" rest)
        let (body, rest) ← list fuel (← expect? "do" (skipSeparator rest))
        return withRedirections (.each name values body) (← expect? "done" rest)
      | _ => none
    else do
      let (c, rest) ← simple ⟨(ts.head?.map (·.line)).getD 1, [], [], []⟩ ts
      return (.simple c, rest)

/-- Read a conditional after the word that opens it, up to the word that closes it. -/
def conditional : Nat → List Token → Option (Command × List Token)
  | 0, _ => none
  | fuel + 1, ts => do
    let (test, rest) ← list fuel ts
    let (yes, rest) ← list fuel (← expect? "then" rest)
    if startsWith "elif" rest then
      let (no, rest) ← conditional fuel rest.tail
      return (.branch test yes [no], rest)
    else if startsWith "else" rest then
      let (no, rest) ← list fuel rest.tail
      return (.branch test yes no, rest)
    else return (.branch test yes [], rest)

end

/-- The commands of a script. -/
def parse? (script : String) : Option (List Command) := do
  let ts ← Token.ofScript? script
  match ← list (4 * ts.length + 4) ts with
  | (cs, []) => return cs
  | _ => none

end SlotUpdate.Shell
