/-!
# Signals

The numbers and names of signals, and what a signal does to a program that has not chosen anything
else.
-/

namespace SlotUpdate.Shell

/-- The number of a signal. -/
abbrev Signal := Nat

namespace Signal

/-- The names of the signals, from number one on. -/
def names : List String :=
  ["HUP", "INT", "QUIT", "ILL", "TRAP", "ABRT", "BUS", "FPE", "KILL", "USR1", "SEGV", "USR2",
   "PIPE", "ALRM", "TERM", "STKFLT", "CHLD", "CONT", "STOP", "TSTP", "TTIN", "TTOU", "URG",
   "XCPU", "XFSZ", "VTALRM", "PROF", "WINCH", "POLL", "PWR", "SYS"]

/-- The signal that ends a program in any case. -/
def kill : Signal := 9

/-- The signal of a write to a pipe that nobody reads. -/
def pipe : Signal := 13

/-- The signal that asks a program to end. -/
def terminate : Signal := 15

/-- The signal that lets a program go on after a stop. -/
def resume : Signal := 18

/-- The signal that stops a program in any case. -/
def stop : Signal := 19

/-- The number that stands for the end of a script in place of a signal. -/
def atExit : Signal := 0

/-- The signal of a name or number. -/
def ofText? (s : String) : Option Signal :=
  if s = "EXIT" then some atExit
  else if s ≠ "" ∧ s.toList.all Char.isDigit then
    let n := s.toList.foldl (fun n d => 10 * n + (d.toNat - '0'.toNat)) 0
    if n ≤ names.length then some n else none
  else
    let bare := if "SIG".toList.isPrefixOf s.toList then String.ofList (s.toList.drop 3) else s
    (names.findIdx? (· == bare)).map (· + 1)

/-- What a signal does to a program that has not chosen anything else. -/
inductive Effect where
  /-- It ends the program. -/
  | ends
  /-- It stops the program. -/
  | stops
  /-- Nothing. -/
  | nothing
  deriving DecidableEq

/-- The effect of a signal on a program that has not chosen anything else. -/
def usualEffect (n : Signal) : Effect :=
  if n ∈ [17, 18, 23, 28] then .nothing
  else if n ∈ [19, 20, 21, 22] then .stops
  else .ends

/-- The exit code that is reported for a program that a signal ended. -/
def exitCode (n : Signal) : Int := 128 + n

end Signal

end SlotUpdate.Shell
