import SlotUpdate.Chunks
import SlotUpdate.Platform.Request

/-!
# Status pipes

The status pipes of programs: what was written and not read yet, and whether more can come.
-/

namespace SlotUpdate

/-- The status pipe of a program. -/
structure StatusPipe where
  /-- What was written and not read yet. -/
  pending : Bytes
  /-- Whether more can be written. -/
  writable : Bool
  /-- Whether every read fails. -/
  broken : Bool
  deriving Repr, DecidableEq

namespace StatusPipe

/-- The most bytes that one read takes. -/
abbrev maxRead : Nat := 1024

/-- A pipe that nothing was written to. -/
def empty : StatusPipe := ⟨[], true, false⟩

/-- A pipe that cannot be read. -/
def unreadable : StatusPipe := ⟨[], false, true⟩

/-- Whether a read does not have to wait. -/
def isReady (p : StatusPipe) : Bool :=
  p.broken || !p.writable || !p.pending.isEmpty

/-- Write to a pipe. -/
def write (p : StatusPipe) (data : Bytes) : StatusPipe :=
  { p with pending := p.pending ++ data }

/-- Close the end for writing. -/
def close (p : StatusPipe) : StatusPipe :=
  { p with writable := false }

/-- The result of a read that finds nothing pending. -/
def emptyRead (p : StatusPipe) : StatusRead :=
  if p.writable then .wouldBlock else .closed

/-- Read once, or until a read finds nothing. -/
def read (p : StatusPipe) (once : Bool) : List StatusRead × StatusPipe :=
  if p.broken then ([.failed .isDirectory], p)
  else if p.pending = [] then ([p.emptyRead], p)
  -- A pipe with something in it gives that first, also after its end for writing has closed.
  else if once then
    ([.data (p.pending.take maxRead)], { p with pending := p.pending.drop maxRead })
  else
    ((chunks maxRead p.pending).map .data ++ [p.emptyRead], { p with pending := [] })

end StatusPipe

end SlotUpdate
