import SlotUpdate.Base64
import SlotUpdate.Chunks

/-!
# Armoured files

Keys and certificates come as base64 text between a line that begins and a line that ends it, both
with a label. The strict form has lines of exactly 64 symbols, the last one shorter. `rewrap`
brings certificates in any other wrapping into that form, and `Block.read?` reads it.
-/

namespace SlotUpdate.Pem

/-- The bytes of an ASCII text. -/
def ascii (s : String) : Bytes := s.toList.map fun c => UInt8.ofNat c.toNat

/-- The byte that ends a line. -/
def newline : UInt8 := 10

/-- The byte that may stand before the end of a line. -/
def carriageReturn : UInt8 := 13

/-- How many symbols a line has. -/
abbrev lineWidth : Nat := 64

/-! ## Wrapping -/

/-- Whether a byte is a blank of ASCII. -/
def isAsciiBlank (b : UInt8) : Bool :=
  b == 32 || b == 9 || b == 10 || b == 12 || b == 13

/-- What the first line of a certificate starts with. -/
def certificateBegin : Bytes := ascii "-----BEGIN CERTIFICATE-----"

/-- What the last line of a certificate starts with. -/
def certificateEnd : Bytes := ascii "-----END CERTIFICATE-----"

/-- A line without the blanks at its end. -/
def trimLine (line : Bytes) : Bytes :=
  (line.reverse.dropWhile isAsciiBlank).reverse

/-- A kind of line of a certificate file. -/
inductive Line where
  /-- A line without text. -/
  | blank
  /-- A line that begins a certificate. -/
  | begins (text : Bytes)
  /-- A line that ends a certificate. -/
  | ends (text : Bytes)
  /-- Any other line. -/
  | other (text : Bytes)
  deriving Repr, DecidableEq

/-- The kind of a line. -/
def Line.ofBytes (line : Bytes) : Line :=
  let text := trimLine line
  if text = [] then .blank
  else if certificateBegin.isPrefixOf text then .begins text
  else if certificateEnd.isPrefixOf text then .ends text
  else .other text

/-- A base64 text in lines of the right width, each with its end. -/
def wrap (symbols : Bytes) : Bytes :=
  (chunks lineWidth symbols).flatMap (· ++ [newline])

/-- Rewrap the certificates in lines. `inside` holds the base64 text of a certificate whose last
line has not come, or nothing outside of one. Fails if the last one has no last line. -/
def rewrapLines (symbols : Bytes) (inside : Bool) : List Line → Option Bytes
  | [] => if inside then none else some []
  | .blank :: rest => rewrapLines symbols inside rest
  -- Text of a certificate that has not ended is kept.
  | .begins text :: rest => (rewrapLines symbols true rest).map ((text ++ [newline]) ++ ·)
  | .ends text :: rest =>
    (rewrapLines [] false rest).map ((wrap symbols ++ text ++ [newline]) ++ ·)
  | .other text :: rest =>
    rewrapLines (if inside then symbols ++ text else symbols) inside rest

/-- Rewrap the certificates of a file, and leave out all that stands outside of them. Fails if the
last one has no last line. -/
def rewrap (file : Bytes) : Option Bytes :=
  rewrapLines [] false ((file.splitOn newline).map Line.ofBytes)

/-! ## Reading -/

/-- Why a file is not in the strict form. -/
inductive Error where
  /-- No line begins the text, or a NUL byte stands before it. -/
  | preamble
  /-- The line that begins the text is malformed. -/
  | beginLine
  /-- The label is malformed. -/
  | label
  /-- The line that ends the text is missing or has another label. -/
  | endLine
  /-- The text is not base64 in lines of the right width. -/
  | text
  /-- The label is not the expected one. -/
  | otherLabel (expected : String)
  deriving Repr, DecidableEq

/-- The text of an error. -/
def Error.message : Error → String
  | preamble => "PEM error: PEM preamble contains invalid data (NUL byte)"
  | beginLine => "PEM error: PEM error in pre-encapsulation boundary"
  | label => "PEM error: PEM type label invalid"
  | endLine => "PEM error: PEM error in post-encapsulation boundary"
  | text => "PEM error: PEM Base64 error: invalid Base64 encoding"
  | otherLabel expected =>
    "PEM error: unexpected PEM type label: expecting \"BEGIN " ++ expected ++ "\""

/-- What stands before the label of the first line. -/
def beginMark : Bytes := ascii "-----BEGIN "

/-- What stands before the label of the last line. -/
def endMark : Bytes := ascii "-----END "

/-- What stands after the label of both. -/
def dashes : Bytes := ascii "-----"

/-- What follows the first mark at the start of a line. No NUL byte may stand before it. -/
def afterPreamble? (atLineStart : Bool) : Bytes → Option Bytes
  | [] => none
  | b :: rest =>
    if atLineStart && beginMark.isPrefixOf (b :: rest) then
      some ((b :: rest).drop beginMark.length)
    else if b = 0 then none
    else afterPreamble? (b == newline) rest

/-- Take one end of line off the front. -/
def dropLineEnd? : Bytes → Option Bytes
  | b :: c :: rest =>
    if b = carriageReturn ∧ c = newline then some rest
    else if b = newline ∨ b = carriageReturn then some (c :: rest)
    else none
  | [b] => if b = newline ∨ b = carriageReturn then some [] else none
  | [] => none

/-- Take one end of line off the end. -/
def dropLastLineEnd? (bytes : Bytes) : Option Bytes :=
  match bytes.reverse with
  | b :: c :: rest =>
    if b = newline ∧ c = carriageReturn then some rest.reverse
    else if b = newline ∨ b = carriageReturn then some (c :: rest).reverse
    else none
  | [b] => if b = newline ∨ b = carriageReturn then some [] else none
  | [] => none

/-- Take a text off the end. -/
def dropSuffix? (suffix bytes : Bytes) : Option Bytes :=
  if suffix.isSuffixOf bytes then some (bytes.take (bytes.length - suffix.length)) else none

/-- The symbols of a text whose lines but the last have exactly the right width. -/
def symbols? (text : Bytes) : Option Bytes :=
  if _h : text.length ≤ lineWidth then some text
  else do
    let rest ← dropLineEnd? (text.drop lineWidth)
    if _hr : rest.length < text.length then
      return text.take lineWidth ++ (← symbols? rest)
    else none
termination_by text.length

/-- A labelled base64 text. -/
structure Block where
  /-- The label. -/
  label : Bytes
  /-- The symbols of the text. -/
  symbols : Bytes
  deriving Repr, DecidableEq

/-- Read a file in the strict form. -/
def Block.read? (file : Bytes) : Except Error Block := do
  let some afterMark := afterPreamble? true file | throw .preamble
  -- The label ends at the first dash.
  let label := afterMark.takeWhile (· != 45)
  let some afterLabel := if dashes.isPrefixOf (afterMark.drop label.length)
    then dropLineEnd? (afterMark.drop (label.length + dashes.length)) else none
    | throw .label
  let some body := dropSuffix? dashes ((dropLastLineEnd? afterLabel).getD afterLabel)
    | throw .beginLine
  let some body := (dropSuffix? label body).bind (dropSuffix? endMark) | throw .endLine
  let some text := dropLastLineEnd? body | throw .endLine
  -- What is left between the two marked lines is the text.
  if text = [] then throw .text
  match symbols? text with
  | some symbols => return ⟨label, symbols⟩
  | none => throw .text

namespace Block

/-- Fail unless the label is the expected one. -/
def expect (b : Block) (label : String) : Except Error Unit :=
  if b.label = ascii label then .ok () else .error (.otherLabel label)

/-- The symbols of the last group, of at most four. -/
def lastGroup (b : Block) : Bytes :=
  b.symbols.drop ((b.symbols.length - 1) / 4 * 4)

/-- The number of bytes that the text stands for, by the number of its symbols and by its last
group. -/
def size? (b : Block) : Option Nat :=
  match Base64.decode b.lastGroup with
  | .ok last => some ((b.symbols.length - 1) / 4 * 3 + last.length)
  | .error _ => none

/-- The first `n` bytes. What follows the groups that hold them does not matter. -/
def take? (b : Block) (n : Nat) : Option Bytes :=
  match Base64.decode (b.symbols.take ((n + 2) / 3 * 4)) with
  | .ok bytes => if n ≤ bytes.length then some (bytes.take n) else none
  | .error _ => none

/-- All bytes. -/
def bytes? (b : Block) : Option Bytes :=
  (Base64.decode b.symbols).toOption

end Block

end SlotUpdate.Pem
