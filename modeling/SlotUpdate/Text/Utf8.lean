import SlotUpdate.Bytes

/-!
# UTF-8

`encode` writes a text, `decode?` reads bytes that are exactly a written text, and `decodeLossy`
reads any bytes: each maximal piece that begins a character without completing it, and each byte
that begins none, becomes one replacement character.

`scan` is the shared step. It looks at the front of a byte string and says how many bytes belong
to the character there, or how many bytes the damaged piece has. The admitted second bytes of a
character depend on its first byte, which excludes overlong forms, surrogates and values above
`10FFFF`.
-/

namespace SlotUpdate.Utf8

/-- The replacement character, which stands for a damaged piece. -/
def replacement : Char := Char.ofNat 0xFFFD

/-- Whether a byte continues a character. -/
def isContinuation (b : UInt8) : Bool :=
  0x80 ≤ b && b ≤ 0xBF

/-- Whether `b` may follow the first byte `a` of a character of three bytes. -/
def isSecondOfThree (a b : UInt8) : Bool :=
  if a = 0xE0 then 0xA0 ≤ b && b ≤ 0xBF
  else if a = 0xED then 0x80 ≤ b && b ≤ 0x9F
  else isContinuation b

/-- Whether `b` may follow the first byte `a` of a character of four bytes. -/
def isSecondOfFour (a b : UInt8) : Bool :=
  if a = 0xF0 then 0x90 ≤ b && b ≤ 0xBF
  else if a = 0xF4 then 0x80 ≤ b && b ≤ 0x8F
  else isContinuation b

/-- The payload of a continuation byte. -/
def low6 (b : UInt8) : Nat :=
  b.toNat % 64

/-- What stands at the front of a byte string. -/
inductive Scan where
  /-- The string is empty. -/
  | done
  /-- A character and the bytes after it. -/
  | char (c : Char) (rest : Bytes)
  /-- A damaged piece and the bytes after it. -/
  | damaged (rest : Bytes)

/-- Read the front of a byte string. -/
def scan : Bytes → Scan
  | [] => .done
  | a :: rest =>
    -- One byte stands for itself; C0 and C1 could only start overlong forms.
    if a < 0x80 then .char (Char.ofNat a.toNat) rest
    else if 0xC2 ≤ a && a ≤ 0xDF then
      match rest with
      | b :: r => if isContinuation b then
          .char (Char.ofNat (a.toNat % 32 * 64 + low6 b)) r
        else .damaged rest
      | [] => .damaged []
    -- Three bytes. The second one tells overlong forms and surrogates.
    else if 0xE0 ≤ a && a ≤ 0xEF then
      match rest with
      | b :: r => if isSecondOfThree a b then
          match r with
          | c :: s => if isContinuation c then
              .char (Char.ofNat (a.toNat % 16 * 4096 + low6 b * 64 + low6 c)) s
            else .damaged r
          | [] => .damaged []
        else .damaged rest
      | [] => .damaged []
    -- Four bytes. The second one tells overlong forms and values that are too large.
    else if 0xF0 ≤ a && a ≤ 0xF4 then
      match rest with
      | b :: r => if isSecondOfFour a b then
          match r with
          | c :: s => if isContinuation c then
              match s with
              | d :: t => if isContinuation d then
                  .char (Char.ofNat
                    (a.toNat % 8 * 262144 + low6 b * 4096 + low6 c * 64 + low6 d)) t
                else .damaged s
              | [] => .damaged []
            else .damaged r
          | [] => .damaged []
        else .damaged rest
      | [] => .damaged []
    -- A continuation byte, or one that stands in no text.
    else .damaged rest

/-- Every step of `scan` takes at least one byte. -/
theorem scan_char_length {b rest : Bytes} {c : Char} (h : scan b = .char c rest) :
    rest.length < b.length := by
  unfold scan at h
  repeat' split at h
  all_goals first
    | (cases h; simp only [List.length_cons]; omega)
    | cases h

/-- A damaged piece has at least one byte. -/
theorem scan_damaged_length {b rest : Bytes} (h : scan b = .damaged rest) :
    rest.length < b.length := by
  unfold scan at h
  repeat' split at h
  all_goals first
    | (cases h; simp only [List.length_cons, List.length_nil]; omega)
    | cases h

/-- The characters of a byte string, with a replacement character for each damaged piece. -/
def decodeLossyChars (b : Bytes) : List Char :=
  match _h : scan b with
  | .done => []
  | .char c rest => c :: decodeLossyChars rest
  | .damaged rest => replacement :: decodeLossyChars rest
termination_by b.length
decreasing_by
  · exact scan_char_length _h
  · exact scan_damaged_length _h

/-- The text of a byte string, with a replacement character for each damaged piece. -/
def decodeLossy (b : Bytes) : String :=
  String.ofList (decodeLossyChars b)

/-- The bytes of a text. -/
def encode (s : String) : Bytes :=
  s.toList.flatMap String.utf8EncodeChar

/-- The text whose bytes are `b`, if there is one. -/
def decode? (b : Bytes) : Option String :=
  String.fromUTF8? b.toByteArray

end SlotUpdate.Utf8
