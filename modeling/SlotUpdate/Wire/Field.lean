import SlotUpdate.Wire.Varint

/-!
# Fields of the wire format

A message is a sequence of fields. Each starts with a key, a variable-length integer that holds
the number of the field and the shape of its value. `readKey` and `readValue` read the two parts of
a field, `Value.write` and `writeKey` write them, and `skip` passes over a field that the message
does not know. A group is a run of fields between a start and an end key of one number; only `skip`
meets groups, and it admits as many inside one another as its budget says.
-/

namespace SlotUpdate.Wire

/-- The shape of a value. -/
inductive Shape where
  /-- A variable-length integer. -/
  | varint
  /-- Eight bytes. -/
  | eightBytes
  /-- A length and as many bytes. -/
  | delimited
  /-- The start of a group. -/
  | groupStart
  /-- The end of a group. -/
  | groupEnd
  /-- Four bytes. -/
  | fourBytes
  deriving Repr, DecidableEq

namespace Shape

/-- The number of a shape in a key. -/
def number : Shape → Nat
  | .varint => 0
  | .eightBytes => 1
  | .delimited => 2
  | .groupStart => 3
  | .groupEnd => 4
  | .fourBytes => 5

/-- The shape of a number. -/
def ofNumber? : Nat → Option Shape
  | 0 => some .varint
  | 1 => some .eightBytes
  | 2 => some .delimited
  | 3 => some .groupStart
  | 4 => some .groupEnd
  | 5 => some .fourBytes
  | _ => none

/-- The name of a shape in messages. -/
def name : Shape → String
  | .varint => "Varint"
  | .eightBytes => "SixtyFourBit"
  | .delimited => "LengthDelimited"
  | .groupStart => "StartGroup"
  | .groupEnd => "EndGroup"
  | .fourBytes => "ThirtyTwoBit"

/-- A shape is found by its number. -/
@[simp] theorem ofNumber?_number (s : Shape) : ofNumber? s.number = some s := by
  cases s <;> rfl

end Shape

/-- Why bytes are no message. -/
inductive Cause where
  /-- A variable-length integer is too long or cut off. -/
  | invalidVarint
  /-- A key is no 32-bit number. -/
  | invalidKey (key : Nat)
  /-- A key has a shape that does not exist. -/
  | invalidShape (number : Nat)
  /-- A key has the field number zero. -/
  | invalidNumber
  /-- A known field has another shape than it should. -/
  | wrongShape (actual expected : Shape)
  /-- The value is cut off. -/
  | underflow
  /-- Too many groups or messages stand inside one another. -/
  | recursionLimit
  /-- A group ends that was not the last to start. -/
  | unexpectedGroupEnd
  /-- A text field is not UTF-8. -/
  | notText
  deriving Repr, DecidableEq

/-- The text of a cause. -/
def Cause.message : Cause → String
  | .invalidVarint => "invalid varint"
  | .invalidKey key => s!"invalid key value: {key}"
  | .invalidShape number => s!"invalid wire type value: {number}"
  | .invalidNumber => "invalid tag value: 0"
  | .wrongShape actual expected =>
    s!"invalid wire type: {actual.name} (expected {expected.name})"
  | .underflow => "buffer underflow"
  | .recursionLimit => "recursion limit reached"
  | .unexpectedGroupEnd => "unexpected end group tag"
  | .notText => "invalid string value: data is not UTF-8 encoded"

/-- A failure to decode: its cause, and the message and field names on the way to it, the innermost
first. -/
structure DecodeError where
  /-- What is wrong. -/
  cause : Cause
  /-- Where it is wrong. -/
  path : List (String × String)
  deriving Repr, DecidableEq

/-- The text of a failure to decode. -/
def DecodeError.message (e : DecodeError) : String :=
  "failed to decode Protobuf message: " ++
    String.join (e.path.map fun (m, f) => s!"{m}.{f}: ") ++ e.cause.message

/-- A key: the number of a field and the shape of its value. -/
structure Key where
  /-- The field number. -/
  number : Nat
  /-- The shape of the value. -/
  shape : Shape
  deriving Repr, DecidableEq

/-- Read a variable-length integer. -/
def readVarint (b : Bytes) : Except Cause (UInt64 × Bytes) :=
  match Varint.read b with
  | some r => .ok r
  | none => .error .invalidVarint

/-- Read a key. -/
def readKey (b : Bytes) : Except Cause (Key × Bytes) := do
  let (n, rest) ← readVarint b
  if UInt32.size ≤ n.toNat then .error (.invalidKey n.toNat)
  else match Shape.ofNumber? (n.toNat % 8) with
    | none => .error (.invalidShape (n.toNat % 8))
    | some shape =>
      if n.toNat / 8 = 0 then .error .invalidNumber
      else .ok (⟨n.toNat / 8, shape⟩, rest)

/-- The bytes of a key. -/
def writeKey (k : Key) : Bytes :=
  Varint.write (UInt64.ofNat (8 * k.number + k.shape.number))

/-- How many bytes the key of a field takes. The shape has bits of its own, which do not count. -/
def keySize (number : Nat) : Nat :=
  Varint.size (UInt64.ofNat (8 * number))

/-- How many bytes a run of bytes takes with its length in front. -/
def delimitedSize (length : Nat) : Nat :=
  Varint.size (UInt64.ofNat length) + length

/-- The sum of sizes. -/
def totalSize (sizes : List Nat) : Nat :=
  sizes.foldr (· + ·) 0

/-- How many bytes the fields of one number take with their keys, for the sizes of their values. -/
def fieldsSize (number : Nat) (sizes : List Nat) : Nat :=
  keySize number * sizes.length + totalSize sizes

/-- The first `n` bytes and the rest. -/
def takeBytes (n : Nat) (b : Bytes) : Except Cause (Bytes × Bytes) :=
  if n ≤ b.length then .ok (b.take n, b.drop n) else .error .underflow

/-- A value as it is written. -/
inductive Value where
  /-- A variable-length integer. -/
  | varint (n : UInt64)
  /-- Eight bytes. -/
  | eightBytes (b : Bytes)
  /-- Bytes with their length in front. -/
  | delimited (b : Bytes)
  /-- A number of four bytes, the least significant first. -/
  | fourBytes (n : UInt32)
  deriving Repr, DecidableEq

/-- The shape of a value. -/
def Value.shape : Value → Shape
  | .varint _ => .varint
  | .eightBytes _ => .eightBytes
  | .delimited _ => .delimited
  | .fourBytes _ => .fourBytes

/-- The bytes of a value. -/
def Value.write : Value → Bytes
  | .varint n => Varint.write n
  | .eightBytes b => b
  | .delimited b => Varint.write (UInt64.ofNat b.length) ++ b
  | .fourBytes n => Bytes.ofNatLittle 4 n.toNat

/-- Read a value of a shape that is no group. -/
def readValue (shape : Shape) (b : Bytes) : Except Cause (Value × Bytes) :=
  match shape with
  | .varint => do
    let (n, rest) ← readVarint b
    return (.varint n, rest)
  | .eightBytes => do
    let (v, rest) ← takeBytes 8 b
    return (.eightBytes v, rest)
  | .delimited => do
    let (n, rest) ← readVarint b
    let (v, rest) ← takeBytes n.toNat rest
    return (.delimited v, rest)
  | .fourBytes => do
    let (v, rest) ← takeBytes 4 b
    return (.fourBytes (UInt32.ofNat (Bytes.toNatLittle v)), rest)
  | .groupStart | .groupEnd => .error .unexpectedGroupEnd

/-- Reading an integer takes at least one byte. -/
theorem readVarint_length_lt {n : UInt64} {b rest : Bytes} (h : readVarint b = .ok (n, rest)) :
    rest.length < b.length := by
  unfold readVarint at h
  split at h
  · next r hr => cases h; exact Varint.read_length_lt hr
  · cases h

/-- Reading a key takes at least one byte. -/
theorem readKey_length_lt {k : Key} {b rest : Bytes} (h : readKey b = .ok (k, rest)) :
    rest.length < b.length := by
  unfold readKey at h
  cases hv : readVarint b with
  | error e => simp [hv, bind, Except.bind] at h
  | ok r =>
    obtain ⟨n, rest'⟩ := r
    have hlt := readVarint_length_lt hv
    simp only [hv, bind, Except.bind] at h
    repeat' split at h
    all_goals first
      | (cases h; exact hlt)
      | cases h

/-- Cutting off bytes leaves no more than there were. -/
theorem takeBytes_length_le {n : Nat} {b v rest : Bytes} (h : takeBytes n b = .ok (v, rest)) :
    rest.length ≤ b.length := by
  unfold takeBytes at h
  split at h
  · cases h; simp
  · cases h

/-- Reading a value leaves no more than there was. -/
theorem readValue_length_le {s : Shape} {v : Value} {b rest : Bytes}
    (h : readValue s b = .ok (v, rest)) : rest.length ≤ b.length := by
  cases s with
  | varint =>
    simp only [readValue] at h
    cases hv : readVarint b with
    | error e => simp [hv, bind, Except.bind] at h
    | ok r =>
      obtain ⟨v', t⟩ := r
      simp only [hv, bind, Except.bind, pure, Except.pure, Except.ok.injEq, Prod.mk.injEq] at h
      have := readVarint_length_lt hv
      rw [← h.2]; omega
  | eightBytes =>
    simp only [readValue] at h
    cases hv : takeBytes 8 b with
    | error e => simp [hv, bind, Except.bind] at h
    | ok r =>
      obtain ⟨v', t⟩ := r
      simp only [hv, bind, Except.bind, pure, Except.pure, Except.ok.injEq, Prod.mk.injEq] at h
      have := takeBytes_length_le hv
      rw [← h.2]; exact this
  | fourBytes =>
    simp only [readValue] at h
    cases hv : takeBytes 4 b with
    | error e => simp [hv, bind, Except.bind] at h
    | ok r =>
      obtain ⟨v', t⟩ := r
      simp only [hv, bind, Except.bind, pure, Except.pure, Except.ok.injEq, Prod.mk.injEq] at h
      have := takeBytes_length_le hv
      rw [← h.2]; exact this
  | delimited =>
    simp only [readValue] at h
    cases hv : readVarint b with
    | error e => simp [hv, bind, Except.bind] at h
    | ok r =>
      obtain ⟨n, t⟩ := r
      have h1 := readVarint_length_lt hv
      simp only [hv, bind, Except.bind] at h
      cases hw : takeBytes n.toNat t with
      | error e => simp [hw] at h
      | ok q =>
        obtain ⟨v', t'⟩ := q
        have h2 := takeBytes_length_le hw
        simp only [hw, pure, Except.pure, Except.ok.injEq, Prod.mk.injEq] at h
        rw [← h.2]; omega
  | groupStart => simp [readValue] at h
  | groupEnd => simp [readValue] at h

/-- Pass over what remains of groups that have started. `opened` holds their numbers, the last one
first, and `budget` says how many more may start. -/
def skipGroups (budget : Nat) (opened : List Nat) (b : Bytes) : Except Cause Bytes :=
  match opened with
  | [] => .ok b
  | innermost :: outer =>
    match _hk : readKey b with
    | .error e => .error e
    | .ok (key, rest) =>
      if key.shape = .groupEnd then
        -- A group gives its place in the budget back when it ends.
        if key.number = innermost then skipGroups (budget + 1) outer rest
        else .error .unexpectedGroupEnd
      else if budget = 0 then .error .recursionLimit
      else if key.shape = .groupStart then
        skipGroups (budget - 1) (key.number :: innermost :: outer) rest
      else match _hv : readValue key.shape rest with
        | .error e => .error e
        | .ok (_, rest) => skipGroups budget (innermost :: outer) rest
termination_by b.length
decreasing_by
  · exact readKey_length_lt _hk
  · exact readKey_length_lt _hk
  · exact Nat.lt_of_le_of_lt (readValue_length_le _hv) (readKey_length_lt _hk)

/-- Pass over the value of a field that the message does not know. `budget` says how many messages
and groups may stand inside one another here. -/
def skip (budget : Nat) (key : Key) (b : Bytes) : Except Cause Bytes :=
  if budget = 0 then .error .recursionLimit
  else match key.shape with
    | .groupStart => skipGroups (budget - 1) [key.number] b
    | .groupEnd => .error .unexpectedGroupEnd
    | shape => do
      let (_, rest) ← readValue shape b
      return rest

/-- Passing over groups leaves no more than there was. -/
theorem skipGroups_length_le {budget : Nat} {opened : List Nat} {b rest : Bytes}
    (h : skipGroups budget opened b = .ok rest) : rest.length ≤ b.length := by
  fun_induction skipGroups budget opened b with
  | case1 => cases h; exact Nat.le_refl _
  | case2 => cases h
  | case3 b budget outer key rest' hk hs ih =>
    have := readKey_length_lt hk
    have := ih h
    omega
  | case4 => cases h
  | case5 => cases h
  | case6 b budget innermost outer key rest' hk hs hb hg ih =>
    have := readKey_length_lt hk
    have := ih h
    omega
  | case7 => cases h
  | case8 b budget innermost outer key rest' hk hs hb hg v rest'' hv ih =>
    have := readKey_length_lt hk
    have := readValue_length_le hv
    have := ih h
    omega

/-- Passing over a field leaves no more than there was. -/
theorem skip_length_le {budget : Nat} {key : Key} {b rest : Bytes}
    (h : skip budget key b = .ok rest) : rest.length ≤ b.length := by
  unfold skip at h
  split at h
  · cases h
  · split at h
    · exact skipGroups_length_le h
    · cases h
    · cases hv : readValue key.shape b with
      | error e => simp [hv, bind, Except.bind] at h
      | ok r =>
        obtain ⟨v, t⟩ := r
        simp only [hv, bind, Except.bind, pure, Except.pure, Except.ok.injEq] at h
        rw [← h]
        exact readValue_length_le hv

end SlotUpdate.Wire
