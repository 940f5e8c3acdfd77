import SlotUpdate.Log
import SlotUpdate.Text.Utf8

/-!
# Lines of a byte stream

A line buffer takes a byte stream in pieces and gives out its lines. What follows the last newline
is kept until the rest of its line arrives. A line of more than 4096 bytes is dropped, with a
warning when it grows too long.
-/

namespace SlotUpdate

/-- The length of the longest line that is kept. -/
def maxLineLength : Nat := 4096

/-- The beginning of a line whose end has not arrived. -/
structure LineBuffer where
  /-- The bytes of the line so far. -/
  pending : Bytes
  /-- Whether the line is too long and the rest of it is passed over. -/
  overflowed : Bool
  deriving Repr, DecidableEq

namespace LineBuffer

/-- No line has begun. -/
def empty : LineBuffer := ⟨[], false⟩

/-- The byte that ends a line. -/
def newline : UInt8 := 10

/-- The warning about a line that is too long. -/
def tooLong : LogLine :=
  .warn s!"Discarding status line longer than {maxLineLength} bytes"

/-- Append bytes without a newline to the line, and warn if it grows too long. -/
def append (b : LineBuffer) (piece : Bytes) : LineBuffer × List LogLine :=
  if b.overflowed then (b, [])
  else if maxLineLength < b.pending.length + piece.length then (⟨[], true⟩, [tooLong])
  else (⟨b.pending ++ piece, false⟩, [])

/-- The line that ends here, if it is kept. -/
def finished (b : LineBuffer) : List String :=
  if b.overflowed then [] else [Utf8.decodeLossy b.pending]

/-- What a push gives out. -/
structure Pushed where
  /-- The buffer after it. -/
  buffer : LineBuffer
  /-- The lines that ended. -/
  lines : List String
  /-- The warnings. -/
  log : List LogLine

/-- Take pieces of the stream that are separated by newlines. -/
def pushPieces (b : LineBuffer) : List Bytes → Pushed
  | [] => ⟨b, [], []⟩
  | [last] =>
    let (b, log) := b.append last
    ⟨b, [], log⟩
  | piece :: rest =>
    let (b, log) := b.append piece
    -- Every newline ends what is wrong with a line.
    let after := pushPieces empty rest
    ⟨after.buffer, b.finished ++ after.lines, log ++ after.log⟩

/-- Take the next bytes of the stream. -/
def push (b : LineBuffer) (data : Bytes) : Pushed :=
  b.pushPieces (data.splitOn newline)

end LineBuffer

end SlotUpdate
