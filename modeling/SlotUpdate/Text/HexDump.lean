import SlotUpdate.Bytes
import SlotUpdate.Chunks
import SlotUpdate.Log

/-!
# Hex dumps

A dump shows sixteen bytes a line, each line after the offset of its first byte.
-/

namespace SlotUpdate.HexDump

/-- An offset as at least eight hexadecimal digits. -/
def offsetText (n : Nat) : String :=
  if n < UInt32.size then (Bytes.ofNat 4 n).toHex
  else String.ofList (Nat.toDigits 16 n)

/-- One line: the offset and the bytes, each followed by a space. -/
def line (offset : Nat) (bytes : Bytes) : String :=
  "0x" ++ offsetText offset ++ " : " ++
    String.ofList (bytes.flatMap fun b => Bytes.hexPair b ++ [' '])

/-- The lines of chunks that start at `offset`. -/
def linesFrom (offset : Nat) : List Bytes → List String
  | [] => []
  | c :: rest => line offset c :: linesFrom (offset + 16) rest

/-- The dump of a byte string. -/
def lines (data : Bytes) : List String :=
  linesFrom 0 (chunks 16 data)

/-- The log messages that show a byte string: its length, then its dump. -/
def logLines (data : Bytes) : List LogLine :=
  .error s!"Logging array of length: {data.length}" :: (lines data).map .error

end SlotUpdate.HexDump
