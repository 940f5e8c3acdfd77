import SlotUpdate.Bytes
import SlotUpdate.Text.Printable

/-!
# Quoted text

A quoted text stands between double quotes. The double quote, the backslash and the usual control
characters have an escape of one letter; any other character that does not show itself is written
as its hexadecimal code point between braces. The single quote stands for itself.
-/

namespace SlotUpdate.Text

/-- The hexadecimal digits of a number without leading zeros. -/
def hexDigits (n : Nat) : List Char :=
  if n < 16 then [Bytes.hexDigit n] else hexDigits (n / 16) ++ [Bytes.hexDigit (n % 16)]

/-- How one character is written inside double quotes. -/
def escapeChar (c : Char) : List Char :=
  match c with
  | '"' => ['\\', '"']
  | '\\' => ['\\', '\\']
  | '\n' => ['\\', 'n']
  | '\r' => ['\\', 'r']
  | '\t' => ['\\', 't']
  | '\x00' => ['\\', '0']
  | c =>
    if isPrintable c then [c]
    else ['\\', 'u', Char.ofNat 0x7B] ++ hexDigits c.toNat ++ [Char.ofNat 0x7D]

/-- A text between double quotes, with escapes. -/
def quote (s : String) : String :=
  String.ofList ('"' :: s.toList.flatMap escapeChar ++ ['"'])

/-- A list of quoted texts between brackets, separated by commas. -/
def quoteList (ss : List String) : String :=
  "[" ++ ", ".intercalate (ss.map quote) ++ "]"

end SlotUpdate.Text
