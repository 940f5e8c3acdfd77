import SlotUpdate.Log
import SlotUpdate.Path

/-!
# Arguments of the command line

The command line names a command and gives options. An option has a long name, perhaps a short one,
and a value unless it is a switch. The options about logging and configuration may stand anywhere;
of several, the one nearest to the end of the chain of commands counts.
-/

namespace SlotUpdate.Command

/-- The files with the trusted keys. -/
structure KeyFiles where
  /-- The certificates. -/
  certificates : List Path
  /-- The public keys. -/
  publicKeys : List Path
  deriving Repr, DecidableEq

/-- Where a metadata signature is given. -/
inductive SignatureSource where
  /-- On the command line. -/
  | text (signature : String)
  /-- In a file. -/
  | file (path : Path)
  deriving Repr, DecidableEq

/-- The options for verifying the metadata of a payload. -/
structure VerifyOptions where
  /-- The payload. -/
  input : Path
  /-- The trusted keys. -/
  keys : KeyFiles
  /-- The signature of the metadata. -/
  signature : Option SignatureSource
  /-- The properties of the payload. -/
  properties : Option Path
  deriving Repr, DecidableEq

/-- The options for running postinstall programs. -/
structure PostinstallOptions where
  /-- The payload. -/
  payload : Path
  /-- The trusted keys. -/
  keys : KeyFiles
  /-- The signature of the metadata. -/
  signature : Option String
  /-- The properties of the payload. -/
  properties : Option Path
  /-- The only partition whose program runs. -/
  partition : Option String
  /-- Where the payload came from. -/
  downloadUrl : Option String
  /-- Whether recovery is told of the progress. -/
  recoveryStatus : Bool
  /-- Whether the written partitions are not compared with the manifest. -/
  skipVerification : Bool
  deriving Repr, DecidableEq

/-- What is to be done. -/
inductive Task where
  /-- Show the metadata of a payload. -/
  | info (input : Path)
  /-- Verify the metadata of a payload. -/
  | verify (options : VerifyOptions)
  /-- Run postinstall programs. -/
  | postinstall (options : PostinstallOptions)
  deriving Repr, DecidableEq

/-- How log messages are written. -/
inductive LogFormat where
  /-- The text alone. -/
  | short
  /-- The level and the text. -/
  | long
  deriving Repr, DecidableEq

/-- What the command line asks for. -/
structure Invocation where
  /-- What is to be done. -/
  task : Task
  /-- The least severe level that is logged. -/
  logLevel : LogLevel
  /-- How messages are written. -/
  logFormat : LogFormat
  /-- The configuration file. -/
  config : Option Path
  deriving Repr, DecidableEq

/-- What a command line is. -/
inductive CommandLine where
  /-- A request. -/
  | invoke (invocation : Invocation)
  /-- The question for the version. -/
  | version
  /-- The question for help. -/
  | help
  /-- Nothing that makes sense. -/
  | malformed
  deriving Repr, DecidableEq

/-! ## Options -/

/-- The values that an option takes. -/
inductive OptionValue where
  /-- None: it is a switch. -/
  | switch
  /-- Any text. -/
  | text
  /-- A path, which is not empty. -/
  | path
  /-- A level of messages. -/
  | level
  /-- A format of messages. -/
  | format
  deriving Repr, DecidableEq

/-- An option. -/
structure OptionSpec where
  /-- The long name. -/
  name : String
  /-- The short name. -/
  short : Option Char
  /-- Its values. -/
  value : OptionValue
  /-- Whether it may be given several times. -/
  repeats : Bool
  deriving Repr, DecidableEq

/-- The level of a name. -/
def level? (s : String) : Option LogLevel :=
  [LogLevel.trace, .debug, .info, .warn, .error].find? (·.name.toLower == s)

/-- The format of a name. -/
def format? (s : String) : Option LogFormat :=
  match s with
  | "short" => some .short
  | "long" => some .long
  | _ => none

/-- Whether a text is a value of an option. -/
def OptionValue.admits (v : OptionValue) (s : String) : Bool :=
  match v with
  | .switch => false
  | .text => true
  | .path => s ≠ ""
  | .level => (level? s).isSome
  | .format => (format? s).isSome

/-- The options that may stand anywhere. -/
def globalOptions : List OptionSpec :=
  [⟨"log-level", none, .level, false⟩, ⟨"log-format", none, .format, false⟩,
   ⟨"config", none, .path, false⟩]

/-- The options that give the trusted keys. -/
def keyOptions : List OptionSpec :=
  [⟨"cert", none, .path, true⟩, ⟨"public-key", none, .path, true⟩]

/-- The option that gives the payload to look at. -/
def inputOption : OptionSpec := ⟨"input", some 'i', .path, false⟩

/-- The options of a command, given by the names that lead to it. -/
def ownOptions : List String → List OptionSpec
  | ["payload", "info"] => [inputOption]
  | ["payload", "verify"] =>
    inputOption :: keyOptions ++
      [⟨"metadata-signature", none, .text, false⟩,
       ⟨"metadata-signature-file", none, .path, false⟩, ⟨"properties", none, .path, false⟩]
  | ["postinstall"] =>
    ⟨"payload", some 'p', .path, false⟩ :: keyOptions ++
      [⟨"metadata-signature", none, .text, false⟩, ⟨"properties", none, .path, false⟩,
       ⟨"partition", none, .text, false⟩, ⟨"download-url", none, .text, false⟩,
       ⟨"recovery-status", none, .switch, false⟩, ⟨"skip-verification", none, .switch, false⟩]
  | _ => []

/-- The commands below a command. -/
def commandsBelow : List String → List String
  | [] => ["payload", "postinstall"]
  | ["payload"] => ["info", "verify"]
  | _ => []

/-! ## Reading -/

/-- An option that was given: the command that it follows, its name and its value. -/
structure Given where
  /-- The names that lead to the command. -/
  command : List String
  /-- The long name of the option. -/
  name : String
  /-- The value, empty for a switch. -/
  value : String
  deriving Repr, DecidableEq

/-- What an argument is, given the one after it. -/
inductive Argument where
  /-- An option. -/
  | option (spec : OptionSpec) (value : String) (usesNext : Bool)
  /-- A command below. -/
  | command (name : String)
  /-- The mark after which no option stands. -/
  | escape
  /-- The question for help about a command. -/
  | helpOn
  /-- An end of the reading. -/
  | ends (line : CommandLine)

/-- Whether an argument looks like an option. -/
def looksLikeOption (s : String) : Bool :=
  match s.toList with
  | '-' :: _ :: _ => true
  | _ => false

/-- An option whose value stands in the same argument or in the next one. -/
def withValue (spec : OptionSpec) (value : Option String) (next : Option String) : Argument :=
  let admitted (v : String) (usesNext : Bool) : Argument :=
    if spec.value.admits v then .option spec v usesNext else .ends .malformed
  match spec.value, value, next with
  | .switch, none, _ => .option spec "" false
  | .switch, some _, _ => .ends .malformed
  | _, some v, _ => admitted v false
  -- A value that starts with a dash has to stand in the argument of its option.
  | _, none, some v => if looksLikeOption v then .ends .malformed else admitted v true
  | _, none, none => .ends .malformed

/-- Read an argument with a long name. -/
def longArgument (command : List String) (body : List Char) (next : Option String) : Argument :=
  let name := String.ofList (body.takeWhile (· != '='))
  let value := match body.dropWhile (· != '=') with
    | _ :: v => some (String.ofList v)
    | [] => none
  if name = "help" ∧ value = none then .ends .help
  else if name = "version" ∧ value = none ∧ command = [] then .ends .version
  else match (ownOptions command ++ globalOptions).find? (·.name == name) with
    | some spec => withValue spec value next
    | none => .ends .malformed

/-- Read an argument with a short name. -/
def shortArgument (command : List String) (c : Char) (more : List Char) (next : Option String) :
    Argument :=
  if c = 'h' then .ends .help
  else if c = 'V' ∧ command = [] then .ends .version
  else match (ownOptions command).find? (·.short == some c) with
    | some spec =>
      let value := match more with
        | [] => none
        | '=' :: v => some (String.ofList v)
        | v => some (String.ofList v)
      withValue spec value next
    | none => .ends .malformed

/-- Read an argument. -/
def argument (command : List String) (s : String) (next : Option String) : Argument :=
  match s.toList with
  | ['-', '-'] => .escape
  | '-' :: '-' :: body => longArgument command body next
  | '-' :: c :: more => shortArgument command c more next
  | _ =>
    if (commandsBelow command).contains s then .command s
    else if s = "help" ∧ commandsBelow command ≠ [] then .helpOn
    else .ends .malformed

/-- Whether names lead from one command to another one, or to the command for help. -/
def leadsOn (command : List String) : List String → Bool
  | [] => true
  | name :: rest =>
    if (commandsBelow command).contains name then leadsOn (command ++ [name]) rest
    else name == "help" && commandsBelow command ≠ [] && rest.isEmpty

/-- Read arguments after a command. Gives the last command and all options, or how reading ends
early. -/
def scan (command : List String) (given : List Given) :
    List String → Except CommandLine (List String × List Given)
  | [] => .ok (command, given)
  | s :: rest =>
    match argument command s rest.head? with
    | .ends line => .error line
    | .helpOn => .error (if leadsOn command rest then .help else .malformed)
    | .escape => if rest = [] then .ok (command, given) else .error .malformed
    | .command name => scan (command ++ [name]) given rest
    | .option spec value usesNext =>
      -- The same option may stand once for each command of the chain.
      let isAgain := given.any fun g => g.command == command && g.name == spec.name
      if isAgain && !spec.repeats then .error .malformed
      else
        let given := given ++ [⟨command, spec.name, value⟩]
        match usesNext, rest with
        | true, _ :: rest => scan command given rest
        | _, rest => scan command given rest

/-! ## Requests -/

/-- The values of an option, in order. -/
def valuesOf (given : List Given) (name : String) : List String :=
  (given.filter (·.name == name)).map (·.value)

/-- The value of an option, if it is given. -/
def valueOf? (given : List Given) (name : String) : Option String :=
  (valuesOf given name).getLast?

/-- The path that an option gives. -/
def pathOf? (given : List Given) (name : String) : Option Path :=
  (valueOf? given name).map Path.mk

/-- The files with the trusted keys, of which there must be one. -/
def keysOf? (given : List Given) : Option KeyFiles :=
  let certificates := (valuesOf given "cert").map Path.mk
  let publicKeys := (valuesOf given "public-key").map Path.mk
  if certificates.isEmpty && publicKeys.isEmpty then none else some ⟨certificates, publicKeys⟩

/-- Where the metadata signature is given, in one of two ways at most. -/
def signatureOf? (given : List Given) : Option (Option SignatureSource) :=
  match valueOf? given "metadata-signature", pathOf? given "metadata-signature-file" with
  | some _, some _ => none
  | some s, none => some (some (.text s))
  | none, some p => some (some (.file p))
  | none, none => some none

/-- What a command with its options is to do. -/
def taskOf? (command : List String) (given : List Given) : Option Task :=
  match command with
  | ["payload", "info"] => do return .info (← pathOf? given "input")
  | ["payload", "verify"] => do
    return .verify ⟨← pathOf? given "input", ← keysOf? given, ← signatureOf? given,
      pathOf? given "properties"⟩
  | ["postinstall"] => do
    return .postinstall ⟨← pathOf? given "payload", ← keysOf? given,
      valueOf? given "metadata-signature", pathOf? given "properties",
      valueOf? given "partition", valueOf? given "download-url",
      (valueOf? given "recovery-status").isSome, (valueOf? given "skip-verification").isSome⟩
  | _ => none

/-- What a command line asks for. -/
def CommandLine.parse (arguments : List String) : CommandLine :=
  match scan [] [] arguments with
  | .error line => line
  | .ok (command, given) => match taskOf? command given with
    | none => .malformed
    | some task => .invoke ⟨task,
        ((valueOf? given "log-level").bind level?).getD .info,
        ((valueOf? given "log-format").bind format?).getD .short,
        pathOf? given "config"⟩

end SlotUpdate.Command
