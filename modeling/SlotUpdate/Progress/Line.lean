import SlotUpdate.Decimal.Literal
import SlotUpdate.Text.Blank

/-!
# Progress lines

A program reports progress with lines of a keyword and a number. Blanks between the two are
optional, and what follows the number does not matter: of all beginnings of at most 64 characters
of what follows the keyword, the longest that is a decimal literal counts.
-/

namespace SlotUpdate.ProgressLine

open Decimal

/-- The word that a progress line starts with. -/
def keyword : List Char := "global_progress".toList

/-- The longest literal that is looked for. -/
def maxLiteralLength : Nat := 64

/-- The longest beginning of at most `n` characters that is a literal, with its value. -/
def longestLiteral? (cs : List Char) : (n : Nat) → Option Literal
  | 0 => none
  | n + 1 => match read? (cs.take (n + 1)) with
    | some l => some l
    | none => longestLiteral? cs n

/-- The number that a line reports. Every line without the keyword or without a number after it
reports nothing. -/
def read? (line : String) : Option Literal :=
  let cs := line.toList
  if keyword.isPrefixOf cs then
    let rest := Text.trimStartChars (cs.drop keyword.length)
    match longestLiteral? rest (min rest.length maxLiteralLength) with
    -- A literal that is not a number ends the search all the same.
    | some .notANumber => none
    | r => r
  else none

end SlotUpdate.ProgressLine
