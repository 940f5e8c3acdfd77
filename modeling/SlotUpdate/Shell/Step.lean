import SlotUpdate.Decimal.Literal
import SlotUpdate.Shell.Printf
import SlotUpdate.Shell.Session

/-!
# Steps of programs

`Session.step` takes one step of a program, and `Session.settle` goes on until the program sleeps,
is stopped or has ended. Steps take no time; only sleeping does.
-/

namespace SlotUpdate.Shell.Session

/-- Put commands in front of what is left to do. -/
def push (s : Session) (commands : List Command) : Session :=
  { s with work := commands.map .run ++ s.work }

/-- Set the status of the last command. -/
def setStatus (s : Session) (status : Int) : Session := { s with status := status }

/-- The status of success and of failure. -/
def statusOf (ok : Bool) : Int := if ok then 0 else 1

/-- Whether the last command succeeded. -/
def succeeded (s : Session) : Bool := s.status == 0

/-! ## Redirections -/

/-- Why a redirection is not made. -/
inductive RedirectionFault where
  /-- Its target is not the number of a descriptor. This ends the script. -/
  | malformed
  /-- Its target cannot be used, for the given reason. -/
  | unusable (reason : String)

/-- What the shell says about a redirection that is not made. -/
def RedirectionFault.text : RedirectionFault → String
  | malformed => "Syntax error: Bad fd number"
  | unusable reason => reason

/-- Where a redirection leads, or what is wrong with it. A descriptor to duplicate has one digit. -/
def target (s : Session) (around : Surroundings) :
    Redirection → Option (Nat × Except RedirectionFault (Option Channel))
  | .duplicate fd w => do
    let t ← s.expandText w
    match t.toList with
    | ['-'] => return (fd, .ok none)
    | [d] =>
      if d.isDigit then
        match s.channel? (d.toNat - '0'.toNat) with
        | some c => return (fd, .ok (some c))
        | none => return (fd, .error (.unusable s!"{t}: Bad file descriptor"))
      else return (fd, .error .malformed)
    | _ => return (fd, .error .malformed)
  | .file fd reads w => do
    let t ← s.expandText w
    match around.files.stat ⟨t⟩ with
    | .ok .device => return (fd, .ok (some .nothing))
    | .ok (.file contents) =>
      return (fd, .ok (some (if reads then .contents contents else .nothing)))
    | .ok .directory =>
      if reads then return (fd, .ok (some .nothing))
      else return (fd, .error (.unusable s!"cannot create {t}: Is a directory"))
    | .error _ =>
      if reads then return (fd, .error (.unusable s!"cannot open {t}: No such file"))
      else match around.files.write ⟨t⟩ [] with
        | .ok _ => return (fd, .ok (some .nothing))
        | .error _ => return (fd, .error (.unusable s!"cannot create {t}: Directory nonexistent"))

/-- Redirect descriptors, one after the other, and say whether that succeeds. -/
def redirect (s : Session) (around : Surroundings) (line : Nat) :
    List Redirection → Session × Bool
  | [] => (s, true)
  | r :: rest => match s.target around r with
    | none => (s, false)
    | some (fd, .ok channel) => redirect (s.lead fd channel) around line rest
    | some (_, .error fault) =>
      let s := s.complain around line fault.text
      match fault with
      | .malformed => ({ s with work := [.quit 2] }, false)
      | .unusable _ => (s, false)

/-! ## Utilities and commands of the shell -/

/-- The length of a sleep in microseconds. -/
def duration? (s : String) : Option Nat :=
  match Decimal.read? s.toList with
  | some (.number false m e) =>
    let scaled := e + 6
    some (if 0 ≤ scaled then m * Nat.pow 10 scaled.toNat else m / Nat.pow 10 (-scaled).toNat)
  | _ => none

/-- Write the output of a command and set its status. `name` is the command, for the message if it
cannot write. -/
def emit (s : Session) (around : Surroundings) (line : Nat) (name : String) (bytes : Bytes) :
    Session :=
  match s.write around 1 bytes with
  | (s, true) => s.setStatus 0
  | (s, false) =>
    if s.ended.isSome then s
    else (s.complain around line s!"{name}: {name}: I/O error").setStatus 1

/-- What `cat` reads for an argument. -/
def catInput (s : Session) (around : Surroundings) (name : String) : Except SystemError Bytes :=
  if name = "-" then match s.channel? 0 with
    | some .nothing => .ok []
    | some (.contents bytes) => .ok bytes
    | _ => .error .badDescriptor
  else around.files.read ⟨name⟩

/-- Run `cat` on its arguments, and say whether all could be read and written. -/
def runCat (s : Session) (around : Surroundings) : List String → Session × Bool
  | [] => (s, true)
  | name :: rest => match s.catInput around name with
    | .ok bytes =>
      let (s, written) := s.write around 1 bytes
      let (s, others) := runCat s around rest
      (s, written && others)
    | .error e =>
      let s := (s.write around 2 (Utf8.encode s!"cat: {name}: {e.plainText}\n")).1
      ((runCat s around rest).1, false)

/-- The comparison of numbers that an operator of a test stands for. -/
def comparison? : String → Option (Int → Int → Bool)
  | "-eq" => some fun x y => x = y
  | "-ne" => some fun x y => x ≠ y
  | "-lt" => some fun x y => x < y
  | "-le" => some fun x y => x ≤ y
  | "-gt" => some fun x y => x > y
  | "-ge" => some fun x y => x ≥ y
  | _ => none

/-- The number that an argument writes, or the complaint that it writes none. -/
def numberArgument (s : String) : Except String Int :=
  match Arithmetic.number? s with
  | some n => .ok n
  | none => .error s!"Illegal number: {s}"

/-- Whether a test holds, or what is wrong with it. -/
def test (files : FileTree) : List String → Except String Bool
  | [] => .ok false
  | [a] => .ok (a ≠ "")
  | ["!", a] => .ok (a = "")
  | ["-n", a] => .ok (a ≠ "")
  | ["-z", a] => .ok (a = "")
  | ["-e", a] => .ok (files.hasPath ⟨a⟩)
  | ["-d", a] => .ok (match files.stat ⟨a⟩ with | .ok .directory => true | _ => false)
  | ["-f", a] => .ok (match files.stat ⟨a⟩ with | .ok (.file _) => true | _ => false)
  | [a, "=", b] => .ok (a = b)
  | [a, "!=", b] => .ok (a ≠ b)
  | [a, op, b] => match comparison? op with
    | some compare => do return compare (← numberArgument a) (← numberArgument b)
    | none => .error s!"{a}: unexpected operator"
  | a :: _ => .error s!"{a}: unexpected operator"

/-- Run a test under the name of its command. -/
def runTest (s : Session) (around : Surroundings) (line : Nat) (name : String)
    (arguments : List String) : Session :=
  match test around.files arguments with
  | .ok b => s.setStatus (statusOf b)
  | .error text => (s.complain around line s!"{name}: {text}").setStatus 2

/-- Run a utility. -/
def runUtility (s : Session) (around : Surroundings) (name : String) (arguments : List String) :
    Session :=
  match name with
  | "sleep" => match arguments.mapM duration? with
    | some (d :: ds) => { s with status := 0, wakes := some (around.now + ds.foldl (· + ·) d) }
    | _ => s.setStatus 1
  | "cat" =>
    let (s, all) := s.runCat around (if arguments.isEmpty then ["-"] else arguments)
    s.setStatus (statusOf all)
  | "echo" => match s.write around 1 (Printf.plainEcho arguments) with
    | (s, written) => s.setStatus (statusOf written)
  | "printf" => match s.write around 1 (Printf.printf (arguments.headD "") arguments.tail) with
    | (s, written) => s.setStatus (statusOf written)
  | "test" => match test around.files arguments with
    | .ok b => s.setStatus (statusOf b)
    | .error _ => s.setStatus 2
  | "false" => s.setStatus 1
  | _ => s.setStatus 0

/-- Choose what a signal does. -/
def setHandler (s : Session) (action : String) (n : Signal) : Session :=
  let others := s.handlers.filter (·.1 != n)
  { s with handlers := if action = "-" then others else (n, action) :: others }

/-- Run the command that chooses what signals do. -/
def runTrap (s : Session) : List String → Session
  | [] => s.setStatus 0
  | action :: names =>
    -- With a number in front, or alone, every argument is a signal to reset.
    let resets := names.isEmpty || (action ≠ "" && action.toList.all Char.isDigit)
    let (action, names) := if resets then ("-", action :: names) else (action, names)
    match names.mapM Signal.ofText? with
    | some signals => (signals.foldl (setHandler · action) s).setStatus 0
    | none => s.setStatus 1

/-- The signal and the targets of a command that sends one. -/
def killTargets : List String → Option Signal × List String
  | "-s" :: name :: rest => (Signal.ofText? name, rest)
  | first :: rest => match first.toList with
    | '-' :: name => (Signal.ofText? (String.ofList name), rest)
    | _ => (some Signal.terminate, first :: rest)
  | [] => (some Signal.terminate, [])

/-- Run the command that sends a signal. A program knows only itself. -/
def runKill (s : Session) (around : Surroundings) (line : Nat) (arguments : List String) :
    Session :=
  match killTargets arguments with
  | (some n, [target]) =>
    if target = toString s.pid then
      let s := s.setStatus 0
      if n = Signal.atExit then s else s.deliver n
    else (s.complain around line "kill: No such process\n").setStatus 1
  | _ => s.setStatus 2

/-- Leave the body of a loop: drop work up to what comes after the body, and that too if the loop
ends. -/
def leaveBody (s : Session) (ends : Bool) : List Job → Session
  | [] => { s with work := [] }
  | .again e t b :: rest =>
    { s with work := if ends then rest else .again e t b :: rest, status := 0 }
  | .next n vs b :: rest =>
    { s with work := if ends then rest else .next n vs b :: rest, status := 0 }
  | .restore ds :: rest => leaveBody { s with descriptors := ds } ends rest
  | _ :: rest => leaveBody s ends rest

/-- Become another program. What signals do is forgotten, but ignored ones stay ignored. -/
def become (s : Session) (files : FileTree) (program : Program) (name : String)
    (arguments : List String) : Session :=
  let s := { s with handlers := s.handlers.filter (·.2 == ""), bindings := [], status := 0 }
  let shell (name text : String) (arguments : List String) : Session :=
    { s with
      name := name
      arguments := arguments
      work := match parse? text with
        | some commands => commands.map .run
        | none => [.quit 2] }
  match program, arguments with
  | .utility u before, _ =>
    { s with name := name, work := [.utility u (before ++ arguments)] }
  | .script text, _ => shell name text arguments
  | .shell, [] => shell name "" []
  | .shell, ["-c"] => { s with name := name, work := [.fail "-c requires an argument"] }
  | .shell, "-c" :: text :: rest => shell (rest.headD name) text rest.tail
  | .shell, file :: rest => match files.readText ⟨file⟩ with
    | .ok text => shell file text rest
    | .error _ => { s with name := name, work := [.fail s!"cannot open {file}: No such file"] }

/-- The status that the shell reports for a program that cannot be run. -/
def missingStatus (e : SystemError) : Int := if e.kind = .notFound then 127 else 126

/-- What the shell says about a program that cannot be run. -/
def missingText (name : String) (e : SystemError) : String :=
  if e.kind = .notFound then s!"{name}: not found" else s!"{name}: Permission denied"

/-- The first number that is too large for an exit code. -/
def maxExit : Int := (1 <<< 31 : Nat)

/-- Run the command that ends a script. An exit code is a number without a sign. -/
def runExit (s : Session) (around : Surroundings) (line : Nat) : List String → Session
  | [] => { s with work := [.quit s.status] }
  | n :: _ => match (Arithmetic.number? n).filter fun code => 0 ≤ code ∧ code < maxExit with
    | some code => { s with work := [.quit code] }
    | none => { s.complain around line s!"exit: Illegal number: {n}" with work := [.quit 2] }

/-- Read a line of the input into variables. There is none, as the input of a script is empty. -/
def runRead (s : Session) (names : List String) : Session :=
  (names.foldl (fun s name => s.setVariable name "") s).setStatus 1

/-- Run a command by its name. -/
def runNamed (s : Session) (around : Surroundings) (line : Nat) (name : String)
    (arguments : List String) : Session :=
  match name with
  | ":" | "true" | "wait" => s.setStatus 0
  | "false" => s.setStatus 1
  | "echo" => s.emit around line name (Printf.echo arguments)
  | "printf" => s.emit around line name (Printf.printf (arguments.headD "") arguments.tail)
  | "test" => s.runTest around line name arguments
  | "[" =>
    if arguments.getLast? = some "]" then s.runTest around line name arguments.dropLast
    else (s.complain around line "[: missing ]").setStatus 2
  | "exit" => s.runExit around line arguments
  | "trap" => s.runTrap arguments
  | "kill" => s.runKill around line arguments
  | "read" => s.runRead arguments
  | "shift" => { s with arguments := s.arguments.tail, status := 0 }
  | "break" => s.leaveBody true s.work
  | "continue" => s.leaveBody false s.work
  | "eval" => match parse? (" ".intercalate arguments) with
    | some commands => (s.setStatus 0).push commands
    | none => { s with work := [.quit 2] }
  | _ => match Program.find around.files name with
    | .ok (.utility u before) => { s with work := .utility u (before ++ arguments) :: s.work }
    | .ok _ => s.setStatus 126
    | .error e => (s.complain around line (missingText name e)).setStatus (missingStatus e)

/-- Replace the program by another one. -/
def runExec (s : Session) (around : Surroundings) (line : Nat) : List String → Session
  | [] => s.setStatus 0
  | name :: arguments => match Program.find around.files name with
    | .ok program => s.become around.files program name arguments
    | .error e =>
      { s.complain around line ("exec: " ++ missingText name e) with
        work := [.quit (missingStatus e)] }

/-- Set the variables that a simple command sets. It fails where a value has none. -/
def assign (s : Session) : List (String × Word) → Option Session
  | [] => some s
  | (name, value) :: rest => do assign (s.setVariable name (← s.expandText value)) rest

/-- Run a simple command. Its redirections hold for it alone, but those of a replaced program hold
from then on. -/
def runSimple (s : Session) (around : Surroundings) (c : SimpleCommand) : Session :=
  match s.expand c.words, s.assign c.assignments with
  | some fields, some assigned =>
    let before := s.descriptors
    let s := { assigned with
      status := if fields.isEmpty then 0 else s.status }
    match s.redirect around c.line c.redirections, fields with
    -- A script does not survive a program replacement that could not be redirected.
    | (s, false), "exec" :: _ => { s with work := [.quit 2] }
    | (s, false), _ => { s with descriptors := before, status := 2 }
    | (s, true), [] => { s with descriptors := before }
    | (s, true), "exec" :: rest => s.runExec around c.line rest
    | (s, true), name :: arguments =>
      { s with work := .restore before :: s.work }.runNamed around c.line name arguments
  | _, _ =>
    { s.complain around c.line "arithmetic expression" with work := [.quit 2] }

/-! ## Steps -/

/-- Run a command. -/
def runCommand (s : Session) (around : Surroundings) : Command → Session
  | .simple c => s.runSimple around c
  | .loop expected test body =>
    { s with work := test.map .run ++ .check expected test body 0 :: s.work }
  | .branch test yes no => { s with work := test.map .run ++ .choose yes no :: s.work }
  | .each name values body => match s.expand values with
    | some fields => { s with work := .next name fields body :: s.work, status := 0 }
    | none => { s with work := [.quit 2] }
  | .group body => s.push body
  | .redirected c rs =>
    let before := s.descriptors
    match s.redirect around 1 rs with
    | (s, true) => { s with work := .run c :: .restore before :: s.work }
    | (s, false) => { s with descriptors := before, status := 2 }
  | .andThen a b => { s with work := .run a :: .follow true b :: s.work }
  | .orElse a b => { s with work := .run a :: .follow false b :: s.work }
  | .negate c => { s with work := .run c :: .negate :: s.work }

/-- End a script, after the commands that it chose to run at its end. -/
def quit (s : Session) (status : Int) : Session :=
  match (s.handler? Signal.atExit).bind parse? with
  -- The handler is taken away first, so that it runs once.
  | some (c :: cs) =>
    { (s.setHandler "-" Signal.atExit).setStatus status with
      work := (c :: cs).map .run ++ [.quit status] }
  | _ => s.finish (status % 256)

/-- Do a piece of work. -/
def runJob (s : Session) (around : Surroundings) : Job → Session
  | .run c => s.runCommand around c
  | .utility name arguments => s.runUtility around name arguments
  | .check expected test body last =>
    if s.succeeded = expected then
      { s with work := body.map .run ++ .again expected test body :: s.work, status := 0 }
    else s.setStatus last
  | .again expected test body =>
    { s with work := test.map .run ++ .check expected test body s.status :: s.work }
  | .next _ [] _ => s
  | .next name (value :: values) body =>
    { s.setVariable name value with
      work := body.map .run ++ .next name values body :: s.work }
  | .choose yes no =>
    let chosen := if s.succeeded then yes else no
    (s.setStatus 0).push chosen
  | .follow expected c => if s.succeeded = expected then s.push [c] else s
  | .negate => s.setStatus (statusOf !s.succeeded)
  | .restore descriptors => { s with descriptors := descriptors }
  | .setStatus status => s.setStatus status
  | .fail text => { s.complain around 0 text with work := [.quit 2] }
  | .quit status => s.quit status

/-- Run the commands that a program chose for a signal, and go on as before. -/
def handle (s : Session) (n : Signal) : Session :=
  match (s.handler? n).bind parse? with
  | some commands => { s with work := commands.map .run ++ .setStatus s.status :: s.work }
  | none => s

/-- Take one step: wake up, handle a signal, do a piece of work, or end. -/
def step (s : Session) (around : Surroundings) : Session :=
  match s.wakes, s.pending, s.work with
  -- Signals wait until a sleep is over, as the shell waits for the program that sleeps.
  | some _, _, _ => { s with wakes := none }
  | none, n :: rest, _ => { s with pending := rest }.handle n
  | none, [], job :: rest => { s with work := rest }.runJob around job
  | none, [], [] => s.quit s.status

/-- Whether a program takes no step for now. -/
def isAtRest (s : Session) (now : Nat) : Bool :=
  s.ended.isSome || s.stopped || s.wakes.any (now < ·)

/-- How many steps a program takes at most before it is looked at again. -/
def maxSteps : Nat := 200000

/-- Take steps until the program is at rest. The number bounds how many steps are taken. -/
def settleFor (around : Surroundings) : Nat → Session → Session
  | 0, s => s
  | fuel + 1, s => if s.isAtRest around.now then s else settleFor around fuel (s.step around)

/-- Take steps until the program is at rest. -/
def settle (s : Session) (around : Surroundings) : Session :=
  settleFor around maxSteps s

end SlotUpdate.Shell.Session
