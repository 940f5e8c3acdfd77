import SlotUpdate.Boot.Device
import SlotUpdate.ErrorCode
import SlotUpdate.Path

/-!
# Requests to the platform

Everything that an attempt asks of its surroundings is a request: of the slots, of the mounter, of
the launcher of programs and of whoever watches the progress. Each request has its type of reply.
Shares of progress are numbers of a type `α`.
-/

namespace SlotUpdate

/-- The number of a process. -/
abbrev Pid := Int

/-- A signal to a program. -/
inductive ChildSignal where
  /-- Stop running for now. -/
  | stop
  /-- Go on after a stop. -/
  | resume
  /-- End. -/
  | terminate
  deriving Repr, DecidableEq

/-- The name of a signal. -/
def ChildSignal.name : ChildSignal → String
  | .stop => "Stop"
  | .resume => "Continue"
  | .terminate => "Terminate"

/-- The result of one read of a status pipe. -/
inductive StatusRead where
  /-- The program cannot write any more. -/
  | closed
  /-- Bytes that the program wrote. -/
  | data (bytes : Bytes)
  /-- Nothing; the read can be repeated. -/
  | interrupted
  /-- Nothing for now. -/
  | wouldBlock
  /-- A failure. -/
  | failed (cause : SystemError)
  deriving Repr, DecidableEq

/-- A request to the platform. -/
inductive Request (α : Type) where
  /-- Whether partitions that share space use snapshots. -/
  | isVirtualAb
  /-- Map the partitions that share space. -/
  | mapAll
  /-- Unmap them. -/
  | unmapAll
  /-- Commit the update of the partitions that share space. -/
  | finishUpdate (powerwash : Bool)
  /-- Boot a slot next. -/
  | setActive (slot : Slot)
  /-- Ask for a powerwash at the next boot. -/
  | schedulePowerwash
  /-- Take the request for a powerwash back. -/
  | cancelPowerwash
  /-- Choose whether the next reboot is warm. -/
  | warmReset (on : Bool)
  /-- Set the digest of the inactive slot, or clear it. -/
  | vbmetaDigest (reset : Bool)
  /-- The options for mounting a partition. -/
  | mountOptions (partition : String)
  /-- Whether a path names something. -/
  | pathExists (path : Path)
  /-- Whether something is mounted at a path. -/
  | isMountPoint (path : Path)
  /-- Make a device read-only, or writable. -/
  | setReadonly (device : Path) (on : Bool)
  /-- Mount a device for reading. -/
  | mount (device mountPoint : Path) (filesystem options : String)
  /-- Unmount what is mounted at a path. -/
  | unmount (mountPoint : Path)
  /-- The text of a file, if it can be read. -/
  | readText (path : Path)
  /-- The contents of a program file, if it can be read. -/
  | readProgram (path : Path)
  /-- Start a program whose status pipe has the given number there. -/
  | spawn (argv : List String) (statusFd : Int)
  /-- Let reads of a program's status pipe return at once. -/
  | setNonblocking (pid : Pid)
  /-- Wait for a while until a program's status pipe can be read, and say whether it can. -/
  | awaitStatus (pid : Pid)
  /-- Wait for a while. -/
  | pause
  /-- Read a program's status pipe while something is there, or once. -/
  | readStatus (pid : Pid) (once : Bool)
  /-- The exit code of a program, if it has exited. -/
  | tryWait (pid : Pid)
  /-- Send a signal to a program. -/
  | signal (pid : Pid) (signal : ChildSignal)
  /-- Forget a program that will not be waited for. -/
  | release (pid : Pid)
  /-- Tell how far the attempt is. -/
  | progress (share : α)
  /-- Tell how the attempt ended. -/
  | complete (code : ErrorCode)
  deriving DecidableEq

/-- What the platform replies to a request. -/
def Request.Reply {α : Type} : Request α → Type
  | .isVirtualAb | .pathExists _ => Bool
  | .mapAll | .unmapAll | .finishUpdate _ | .setActive _ | .schedulePowerwash | .cancelPowerwash
  | .vbmetaDigest _ => Except BootError Unit
  | .mountOptions _ => String
  | .isMountPoint _ | .awaitStatus _ => Except SystemError Bool
  | .setReadonly _ _ | .mount _ _ _ _ | .unmount _ | .setNonblocking _ | .signal _ _ =>
    Except SystemError Unit
  | .readText _ => Option String
  | .readProgram _ => Option Bytes
  | .spawn _ _ => Except SystemError Pid
  | .readStatus _ _ => List StatusRead
  | .tryWait _ => Except SystemError (Option Int)
  | .warmReset _ | .pause | .release _ | .progress _ | .complete _ => Unit

/-- A request and its reply. -/
structure Exchange (α : Type) where
  /-- The request. -/
  request : Request α
  /-- The reply. -/
  reply : request.Reply

end SlotUpdate
