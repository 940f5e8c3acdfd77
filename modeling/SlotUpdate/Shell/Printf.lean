import SlotUpdate.Text.Utf8

/-!
# Formatted output

What the commands `echo` and `printf` write: texts in which a backslash opens an escape, and a
format that is used again until no argument is left.
-/

namespace SlotUpdate.Shell.Printf

/-- The bytes of a character. -/
def bytesOf (c : Char) : Bytes := Utf8.encode (String.singleton c)

/-- The byte that a letter stands for after a backslash. -/
def escapedByte? : Char → Option UInt8
  | 'a' => some 7
  | 'b' => some 8
  | 'f' => some 12
  | 'n' => some 10
  | 'r' => some 13
  | 't' => some 9
  | 'v' => some 11
  | '\\' => some 92
  | _ => none

/-- Whether a character is an octal digit. -/
def isOctal (c : Char) : Bool := '0' ≤ c && c ≤ '7'

/-- The byte of octal digits. -/
def octalByte (ds : List Char) : UInt8 :=
  UInt8.ofNat (ds.foldl (fun n d => 8 * n + (d.toNat - '0'.toNat)) 0)

/-- What a text with escapes writes. -/
structure Escaped where
  /-- The bytes. -/
  bytes : Bytes
  /-- Whether an escape ends all output. -/
  stops : Bool

/-- Put bytes in front. -/
def Escaped.after (e : Escaped) (bytes : Bytes) : Escaped := { e with bytes := bytes ++ e.bytes }

/-- Write a text with escapes. With `zeroed`, an octal number has a zero in front of its digits. -/
def unescape (zeroed : Bool) (cs : List Char) : Escaped :=
  match cs with
  | [] => ⟨[], false⟩
  | '\\' :: 'c' :: rest => if zeroed then ⟨[], true⟩ else (unescape zeroed rest).after [92, 99]
  | '\\' :: c :: rest =>
    let digits := if zeroed then (rest.takeWhile isOctal).take 3
      else ((c :: rest).takeWhile isOctal).take 3
    if zeroed ∧ c = '0' then
      (unescape zeroed (rest.drop digits.length)).after [octalByte digits]
    else if !zeroed ∧ isOctal c then
      (unescape zeroed (rest.drop (digits.length - 1))).after [octalByte digits]
    else match escapedByte? c with
      | some b => (unescape zeroed rest).after [b]
      | none => (unescape zeroed rest).after (bytesOf '\\' ++ bytesOf c)
  | c :: rest => (unescape zeroed rest).after (bytesOf c)
termination_by cs.length
decreasing_by all_goals simp only [List.length_cons, List.length_drop]; omega

/-- How an argument is written. -/
structure Conversion where
  /-- Whether the blanks that fill the field stand behind the argument. -/
  leftAligned : Bool
  /-- Whether zeros fill the field of a number. -/
  zeroFilled : Bool
  /-- The least number of bytes. -/
  width : Nat
  /-- The most bytes of a text, or the least digits of a number. -/
  precision : Option Nat
  /-- The kind of argument. -/
  letter : Char

/-- A piece of a format. -/
inductive Piece where
  /-- Text with escapes. -/
  | text (cs : List Char)
  /-- The next argument. -/
  | argument (conversion : Conversion)

/-- The number of decimal digits. -/
def digitsNumber (ds : List Char) : Nat :=
  ds.foldl (fun n d => 10 * n + (d.toNat - '0'.toNat)) 0

/-- Read a conversion behind its percent sign, and give the number of characters that it takes. -/
def conversion? (cs : List Char) : Option (Conversion × Nat) :=
  let flags := cs.takeWhile ("-0+ #".toList.contains ·)
  let afterFlags := cs.drop flags.length
  let width := afterFlags.takeWhile Char.isDigit
  let afterWidth := afterFlags.drop width.length
  let (precision, taken) := match afterWidth with
    | '.' :: rest =>
      let digits := rest.takeWhile Char.isDigit
      (some (digitsNumber digits), digits.length + 1)
    | _ => (none, 0)
  match afterWidth.drop taken with
  | [] => none
  | letter :: _ =>
    some (⟨flags.contains '-', flags.contains '0', digitsNumber width, precision, letter⟩,
      flags.length + width.length + taken + 1)

/-- Put a text in front of pieces. -/
def textBefore (cs : List Char) : List Piece → List Piece
  | .text more :: rest => .text (cs ++ more) :: rest
  | rest => .text cs :: rest

/-- The pieces of a format. -/
def pieces (cs : List Char) : List Piece :=
  match cs with
  | [] => []
  | '%' :: '%' :: rest => .text ['%'] :: pieces rest
  | '%' :: rest =>
    match conversion? rest with
    | some (conversion, taken) => .argument conversion :: pieces (rest.drop taken)
    | none => textBefore ['%'] (pieces rest)
  | '\\' :: c :: rest => textBefore ['\\', c] (pieces rest)
  | c :: rest => textBefore [c] (pieces rest)
termination_by cs.length
decreasing_by all_goals simp only [List.length_cons, List.length_drop]; omega

namespace Conversion

/-- The fill that brings a text to the width. -/
def fill (c : Conversion) (byte : UInt8) (length : Nat) : Bytes :=
  List.replicate (c.width - length) byte

/-- Bring a text to the width with blanks. -/
def pad (c : Conversion) (bytes : Bytes) : Bytes :=
  let blanks := c.fill 32 bytes.length
  if c.leftAligned then bytes ++ blanks else blanks ++ bytes

/-- Write a number with the given sign and digits. Zeros stand between the two. -/
def writeNumber (c : Conversion) (sign : String) (digits : List Char) : Bytes :=
  let zeros := List.replicate (c.precision.getD 1 - digits.length) '0'
  let number := Utf8.encode (String.ofList (zeros ++ digits))
  let front := Utf8.encode sign
  if c.zeroFilled && !c.leftAligned && c.precision.isNone then
    front ++ c.fill 48 (front.length + number.length) ++ number
  else c.pad (front ++ number)

/-- The base in which a letter writes numbers, if it writes any. -/
def base? : Char → Option Nat
  | 'd' | 'i' | 'u' => some 10
  | 'o' => some 8
  | 'x' | 'X' => some 16
  | _ => none

/-- Write an argument. -/
def write (c : Conversion) (argument : String) : Bytes :=
  match base? c.letter with
  | some base =>
    let (sign, number) := match argument.toList with
      | '-' :: ds => ("-", digitsNumber (ds.takeWhile Char.isDigit))
      | '+' :: ds | ds => ("", digitsNumber (ds.takeWhile Char.isDigit))
    let digits := Nat.toDigits base number
    c.writeNumber sign (if c.letter = 'X' then digits.map Char.toUpper else digits)
  | none =>
    let bytes :=
      if c.letter = 'b' then (unescape true argument.toList).bytes
      else if c.letter = 'c' then (argument.toList.take 1).flatMap bytesOf
      else Utf8.encode argument
    c.pad (match c.precision with
      | some most => bytes.take most
      | none => bytes)

end Conversion

/-- Use a format once. Gives the bytes and the arguments that are left. -/
def formatOnce : List Piece → List String → Bytes × List String
  | [], args => ([], args)
  | .text cs :: rest, args =>
    let (bytes, args) := formatOnce rest args
    ((unescape false cs).bytes ++ bytes, args)
  | .argument conversion :: rest, args =>
    let (bytes, left) := formatOnce rest args.tail
    (conversion.write (args.headD "") ++ bytes, left)

/-- Use a format as long as it takes arguments and there are some. -/
def formatAll : Nat → List Piece → List String → Bytes
  | 0, _, _ => []
  | fuel + 1, format, args =>
    let (bytes, left) := formatOnce format args
    if left.isEmpty ∨ left.length = args.length then bytes
    else bytes ++ formatAll fuel format left

/-- What `printf` writes. -/
def printf (format : String) (args : List String) : Bytes :=
  formatAll (args.length + 1) (pieces format.toList) args

/-- What the shell's `echo` writes. -/
def echo (args : List String) : Bytes :=
  let (newline, args) := match args with
    | "-n" :: rest => (false, rest)
    | _ => (true, args)
  let written := unescape true (" ".intercalate args).toList
  if newline && !written.stops then written.bytes ++ [10] else written.bytes

/-- What the program `echo` writes, which takes escapes as they stand. -/
def plainEcho : List String → Bytes
  | "-n" :: args => Utf8.encode (" ".intercalate args)
  | args => Utf8.encode (" ".intercalate args) ++ [10]

end SlotUpdate.Shell.Printf
