import SlotUpdate.Command.Payload
import SlotUpdate.Command.Postinstall

/-!
# The command line

`run` gives what the program writes and its exit code, by its arguments and the files that it finds.
Results go to the output; log messages and the failure that ended a command go to the error stream.
-/

namespace SlotUpdate.Command

/-- What the program leaves behind. -/
structure Outcome where
  /-- Its exit code. -/
  exitCode : UInt8
  /-- What it wrote to the output. -/
  output : String
  /-- What it wrote to the error stream. -/
  errors : String
  /-- The files. -/
  files : FileTree

/-- The answer to the question for the version. -/
def versionText : String := "abupdate 0.4.0\n"

/-- The answer to the question for help. -/
def helpText : String :=
  "Usage: abupdate [OPTIONS] <COMMAND>\n\nCommands:\n" ++
  "  payload      Inspect and verify payloads\n" ++
  "  postinstall  Run the postinstall programs of a payload\n"

/-- What is said about a command line that makes no sense. -/
def malformedText : String := "error: invalid arguments\n"

/-- A message as it is written. -/
def LogFormat.line (f : LogFormat) (l : LogLine) : String :=
  match f with
  | .short => l.text
  | .long => l.level.name ++ " " ++ l.text

/-- Lines, each with its end. -/
def joinLines (lines : List String) : String :=
  String.join (lines.map (· ++ "\n"))

/-- The settings that an invocation names. -/
def loadConfig (files : FileTree) (path : Option Path) : Report Config :=
  match path with
  | none => do
    Report.note (.debug "No config file specified. Using defaults.")
    return Config.default
  | some path =>
    let ofConfig (e : ConfigError) : Failure := .failed e.message e.causes
    (Report.take ofConfig (Config.load files path) []).context
      ("Failed to load config: " ++ path.quote)

/-- Do what an invocation asks for. Gives the files afterwards. -/
def carryOutTask (task : Task) (config : Config) (files : FileTree) : Report Unit × FileTree :=
  match task with
  | .info input => (showInfo files input, files)
  | .verify o => (verifyPayload files o, files)
  | .postinstall o => postinstall o config files

/-- Carry an invocation out. Gives the files afterwards. -/
def invoke (i : Invocation) (files : FileTree) : Report Unit × FileTree :=
  let loaded := loadConfig files i.config
  match loaded.result with
  | .error e => (⟨.error e, loaded.printed, loaded.log⟩, files)
  | .ok config =>
    let (report, files) := carryOutTask i.task config files
    (loaded.bind fun _ => report, files)

/-- The messages of a report: those that are logged and the failure at the end. -/
def messagesOf (r : Report Unit) : List LogLine :=
  r.log ++ match r.result with
    | .error (.failed text causes) => [.error (Failure.render text causes)]
    | _ => []

/-- What a crash leaves on the error stream, whatever is logged. -/
def crashLines (r : Report Unit) : List String :=
  match r.result with
  | .error (.crashed text) => [text]
  | _ => []

/-- The exit code of the program that ends with a report. -/
def exitCodeOf (r : Report Unit) : UInt8 :=
  match r.result with
  | .ok () => 0
  | .error e => e.exitCode

/-- The program, by its arguments and the files that it finds. -/
def run (arguments : List String) (files : FileTree) : Outcome :=
  match CommandLine.parse arguments with
  | .version => ⟨0, versionText, "", files⟩
  | .help => ⟨0, helpText, "", files⟩
  | .malformed => ⟨2, "", malformedText, files⟩
  | .invoke i =>
    let (report, files) := invoke i files
    let shown := (messagesOf report).filter fun l => i.logLevel.rank ≤ l.level.rank
    ⟨exitCodeOf report, joinLines report.printed,
      joinLines (shown.map i.logFormat.line ++ crashLines report), files⟩

end SlotUpdate.Command
