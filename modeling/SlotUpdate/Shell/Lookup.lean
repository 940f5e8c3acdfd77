import SlotUpdate.Files

/-!
# Finding programs

Which program a name stands for: a file of the tree whose first line names an interpreter, the
shell, or one of a few utilities of the system. A file can be run if it starts with the mark of
such a line.
-/

namespace SlotUpdate.Shell

/-- A program that can be run. -/
inductive Program where
  /-- The shell. -/
  | shell
  /-- A utility of the system, with arguments that come before those of the caller. -/
  | utility (name : String) (arguments : List String)
  /-- A script for the shell. -/
  | script (text : String)
  deriving Repr, DecidableEq

namespace Program

/-- The utilities that are known. -/
def utilities : List String := ["sleep", "cat", "true", "false", "echo", "printf", "test"]

/-- The program of the system with a name. -/
def ofName? (name : String) : Option Program :=
  if name = "sh" then some .shell
  else if utilities.contains name then some (.utility name [])
  else none

/-- The program of the system at a path. -/
def ofSystemPath? (p : Path) : Option Program :=
  if !p.isAbsolute then none
  else match p.parts with
    | ["bin", name] | ["usr", "bin", name] => ofName? name
    | _ => none

/-- The path of the interpreter and the argument in the first line of a script. -/
def interpreter? (text : String) : Option (Path × List String) :=
  match text.toList with
  | '#' :: '!' :: rest =>
    let isBlank (c : Char) : Bool := c == ' ' || c == '\t'
    let line := (rest.takeWhile (· != '\n')).dropWhile isBlank
    let name := line.takeWhile fun c => !isBlank c
    let argument := (line.drop name.length).dropWhile isBlank
    some (⟨String.ofList name⟩, if argument = [] then [] else [String.ofList argument])
  | _ => none

/-- The program of a file. -/
def ofFile (files : FileTree) (path : String) : Except SystemError Program := do
  match ← files.stat ⟨path⟩ with
  | .file contents =>
    let text := Utf8.decodeLossy contents
    match interpreter? text with
    | none => throw .denied
    | some (interpreter, arguments) =>
      if interpreter.text = "" then return .script text
      else match ofSystemPath? interpreter with
        | some .shell => return .script text
        | some (.utility name _) => return .utility name (arguments ++ [path])
        | _ => match files.stat interpreter with
          | .error e => throw e
          | .ok _ => throw .denied
  | _ => throw .denied

/-- The program that a name or path stands for. The directories that programs are looked for in have
entries for themselves and for the directory above, which cannot be run. -/
def find (files : FileTree) (name : String) : Except SystemError Program :=
  if name = "." ∨ name = ".." then .error .denied
  else if name.toList.contains '/' then
    match ofSystemPath? ⟨name⟩ with
    | some p => .ok p
    | none => ofFile files name
  else match ofName? name with
    | some p => .ok p
    | none => .error .noEntry

end Program

end SlotUpdate.Shell
