/-!
# Shell scripts

The programs of partitions are shell scripts in rehearsals. This is the part of the shell's language
that they use: simple commands with redirections, lists, conditionals and loops.
-/

namespace SlotUpdate.Shell

/-- A part of a word. -/
inductive Part where
  /-- Text that stands for itself. -/
  | text (s : String)
  /-- The value of a parameter. Without quotes it is split at blanks. -/
  | parameter (name : String) (quoted : Bool)
  /-- The value of an arithmetic expression. -/
  | arithmetic (expression : List Part)

/-- A word: its parts, with nothing between them. -/
abbrev Word := List Part

/-- A change of where a descriptor leads. -/
inductive Redirection where
  /-- It leads where another descriptor leads, or nowhere for a dash. -/
  | duplicate (descriptor : Nat) (target : Word)
  /-- It leads to a file, for reading or for writing. -/
  | file (descriptor : Nat) (reads : Bool) (path : Word)

/-- A simple command. -/
structure SimpleCommand where
  /-- The line that it starts on, from one. -/
  line : Nat
  /-- The variables that it sets. -/
  assignments : List (String × Word)
  /-- Its name and arguments. -/
  words : List Word
  /-- Its redirections, in order. -/
  redirections : List Redirection

/-- A command. -/
inductive Command where
  /-- A simple command. -/
  | simple (command : SimpleCommand)
  /-- Repeat the body as long as success of the test is as expected. -/
  | loop (expected : Bool) (test body : List Command)
  /-- Choose by the success of the test. -/
  | branch (test yes no : List Command)
  /-- Repeat the body with the variable of a name set to each value. -/
  | each (name : String) (values : List Word) (body : List Command)
  /-- Commands in braces. -/
  | group (body : List Command)
  /-- A command with redirections that hold for all of it. -/
  | redirected (command : Command) (redirections : List Redirection)
  /-- The second one only if the first one succeeds. -/
  | andThen (first second : Command)
  /-- The second one only if the first one fails. -/
  | orElse (first second : Command)
  /-- Turn success and failure around. -/
  | negate (command : Command)

end SlotUpdate.Shell
