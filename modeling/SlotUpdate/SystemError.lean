/-!
# Failures of the operating system

The failures that calls of the operating system report: their kind, which callers act on, and
their text.
-/

namespace SlotUpdate

/-- The kinds of failure that can be told apart. -/
inductive SystemErrorKind where
  /-- Nothing has the name. -/
  | notFound
  /-- Access is denied. -/
  | permissionDenied
  /-- The call was interrupted and can be repeated. -/
  | interrupted
  /-- Reading or writing would have to wait. -/
  | wouldBlock
  /-- An argument is malformed. -/
  | invalidInput
  /-- The data is malformed. -/
  | invalidData
  /-- The input ended too early. -/
  | unexpectedEof
  /-- A path leads through something that is no directory. -/
  | notADirectory
  /-- A directory stands where something else is needed. -/
  | isADirectory
  /-- A name is longer than the system admits. -/
  | invalidFilename
  /-- A failure that a stand-in reports. -/
  | other
  /-- Any other failure of the system. -/
  | uncategorized
  deriving Repr, DecidableEq

/-- A failure of the operating system. -/
structure SystemError where
  /-- Its kind. -/
  kind : SystemErrorKind
  /-- Its text. -/
  text : String
  deriving Repr, DecidableEq

/-- The name of a kind. -/
def SystemErrorKind.name : SystemErrorKind → String
  | .notFound => "NotFound"
  | .permissionDenied => "PermissionDenied"
  | .interrupted => "Interrupted"
  | .wouldBlock => "WouldBlock"
  | .invalidInput => "InvalidInput"
  | .invalidData => "InvalidData"
  | .unexpectedEof => "UnexpectedEof"
  | .notADirectory => "NotADirectory"
  | .isADirectory => "IsADirectory"
  | .invalidFilename => "InvalidFilename"
  | .other => "Other"
  | .uncategorized => "Uncategorized"

namespace SystemError

/-- The text without the number that follows it in parentheses. -/
def plainText (e : SystemError) : String :=
  let words := e.text.toList.takeWhile (· != '(')
  String.ofList (words.reverse.dropWhile (· == ' ')).reverse

/-- Nothing has the name. -/
def noEntry : SystemError := ⟨.notFound, "No such file or directory (os error 2)"⟩

/-- No process has the number. -/
def noProcess : SystemError := ⟨.uncategorized, "No such process (os error 3)"⟩

/-- The number stands for no descriptor. -/
def badDescriptor : SystemError := ⟨.uncategorized, "Bad file descriptor (os error 9)"⟩

/-- The caller lacks the privilege. -/
def notPermitted : SystemError :=
  ⟨.permissionDenied, "Operation not permitted (os error 1)"⟩

/-- The process is not a child. -/
def noChild : SystemError := ⟨.uncategorized, "No child processes (os error 10)"⟩

/-- Access is denied. -/
def denied : SystemError := ⟨.permissionDenied, "Permission denied (os error 13)"⟩

/-- A path leads through something that is no directory. -/
def notDirectory : SystemError := ⟨.notADirectory, "Not a directory (os error 20)"⟩

/-- A directory stands where a file is needed. -/
def isDirectory : SystemError := ⟨.isADirectory, "Is a directory (os error 21)"⟩

/-- The request does not apply to this kind of file. -/
def notTerminal : SystemError :=
  ⟨.uncategorized, "Inappropriate ioctl for device (os error 25)"⟩

/-- A name is too long. -/
def nameTooLong : SystemError := ⟨.invalidFilename, "File name too long (os error 36)"⟩

/-- The input ended before the buffer was full. -/
def endOfInput : SystemError := ⟨.unexpectedEof, "failed to fill whole buffer"⟩

/-- A text file is not UTF-8. -/
def notText : SystemError := ⟨.invalidData, "stream did not contain valid UTF-8"⟩

/-- A file name holds a NUL byte. -/
def nulInName : SystemError :=
  ⟨.invalidInput, "file name contained an unexpected NUL byte"⟩

/-- An argument of a program holds a NUL byte. -/
def nulInArgument : SystemError := ⟨.invalidInput, "nul byte found in provided data"⟩

/-- An argument of a system call holds a NUL byte at `position`. -/
def nulAt (position : Nat) : SystemError :=
  ⟨.invalidInput, s!"nul byte found in provided data at position: {position}"⟩

end SystemError

end SlotUpdate
