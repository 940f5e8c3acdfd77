import SlotUpdate.Command.Needs

/-!
# The program

Reads the files that a command looks at, carries the command out, and writes what it leaves behind.
-/

namespace SlotUpdate

/-- The code of the system for reading a directory as a file. -/
def directoryCode : UInt32 := 21

/-- Take what stands at a path of the system over into a tree. -/
def fetch (t : FileTree) (p : Path) : IO FileTree := do
  match ← (IO.FS.readBinFile p.text).toBaseIO with
  | .ok bytes => return t.insertAt p (.file bytes.toList)
  | .error (.inappropriateType _ code _) =>
    return if code = directoryCode then t.insertAt p .directory else t
  | .error _ => return t

/-- The files that a command line looks at. -/
def fetchFor (line : Command.CommandLine) : IO FileTree := do
  match line with
  | .invoke i =>
    let named ← (Command.namedFiles i).foldlM fetch FileTree.empty
    (Command.furtherFiles i named).foldlM fetch named
  | _ => return FileTree.empty

/-- Write a file of a tree to the system, or remove it there. -/
def store (t : FileTree) (p : Path) : IO Unit := do
  match t.read p with
  | .ok bytes => IO.FS.writeBinFile p.text ⟨bytes.toArray⟩
  | .error _ => IO.FS.removeFile p.text

/-- Write the request for a powerwash as a command leaves it behind. -/
def storeFor (line : Command.CommandLine) (before after : FileTree) : IO Unit := do
  match line with
  | .invoke i =>
    match (Command.knownConfig i before).device.powerwashFile with
    | some p => if before ≠ after then store after p
    | none => return ()
  | _ => return ()

end SlotUpdate

/-- Carry out what the arguments ask for. -/
def main (arguments : List String) : IO UInt32 := do
  let line := SlotUpdate.Command.CommandLine.parse arguments
  let files ← SlotUpdate.fetchFor line
  let outcome := SlotUpdate.Command.run arguments files
  SlotUpdate.storeFor line files outcome.files
  (← IO.getStdout).putStr outcome.output
  (← IO.getStderr).putStr outcome.errors
  return outcome.exitCode.toUInt32
