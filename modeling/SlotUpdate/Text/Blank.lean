/-!
# Blank characters

Blank characters are those with the Unicode property `White_Space`. They are trimmed off the ends
of a text, and a text is split into its lines.
-/

namespace SlotUpdate.Text

/-- Whether a character has the Unicode property `White_Space`. -/
def isBlank (c : Char) : Bool :=
  let n := c.toNat
  n == 0x20 || (0x09 ≤ n && n ≤ 0x0D) || n == 0x85 || n == 0xA0 || n == 0x1680 ||
    (0x2000 ≤ n && n ≤ 0x200A) || n == 0x2028 || n == 0x2029 || n == 0x202F || n == 0x205F ||
    n == 0x3000

/-- A character list without the blank characters at its front. -/
def trimStartChars (cs : List Char) : List Char :=
  cs.dropWhile isBlank

/-- A text without the blank characters at both ends. -/
def trim (s : String) : String :=
  String.ofList (trimStartChars (trimStartChars s.toList).reverse).reverse

/-- Split at newlines, drop one carriage return before each of them, and drop an empty last
line. -/
def linesChars (cs : List Char) : List (List Char) :=
  let pieces := cs.splitOn '\n'
  let complete := pieces.dropLast.map fun l =>
    if l.getLast? = some '\r' then l.dropLast else l
  -- The last piece has no newline behind it, so it keeps its carriage return.
  match pieces.getLast? with
  | some [] => complete
  | some l => complete ++ [l]
  | none => complete

/-- The lines of a text: a newline, with a carriage return before it if there is one, ends a
line, and the end of the text ends the last one. -/
def lines (s : String) : List String :=
  (linesChars s.toList).map String.ofList

end SlotUpdate.Text
