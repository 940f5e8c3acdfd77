import SlotUpdate.Wire.Field
import SlotUpdate.Text.Utf8

/-!
# Messages of the wire format

A kind of message is described by the rules of its fields. A rule says the number and shape of a
field, how a value read is put into the message, which values the message holds for the field, and
how many bytes these take. `decode` and `encode` follow the same rules: decoding starts from the
empty message and puts in one field after the other, whatever their order, passing over fields
without a rule; encoding writes the held values in the order of the rules, which is that of the
numbers. `encodedSize` reckons the size of the bytes without writing them.
-/

namespace SlotUpdate.Wire

/-- The rule of one field of messages `M`. -/
structure FieldRule (M : Type) where
  /-- The field number. -/
  number : Nat
  /-- The field name, for messages. -/
  name : String
  /-- The shape of its values. -/
  shape : Shape
  /-- Put a value read into the message. The budget says how many messages and groups may stand
  inside one another in it. -/
  put : (budget : Nat) → Value → M → Except DecodeError M
  /-- The values that the message holds. -/
  held : M → List Value
  /-- How many bytes the fields of the message take, reckoned without writing them. -/
  size : M → Nat

/-- A kind of message: its name and the rules of its fields, by increasing number. -/
structure MessageKind (M : Type) where
  /-- The name, for messages. -/
  name : String
  /-- The message without fields. -/
  empty : M
  /-- The rules of the fields. -/
  rules : List (FieldRule M)

variable {M : Type}

/-- A failure that does not lie in a field of the message. -/
def DecodeError.ofCause (c : Cause) : DecodeError := ⟨c, []⟩

/-- Note the message and field in which a failure lies. -/
def DecodeError.within (e : DecodeError) (message field : String) : DecodeError :=
  { e with path := e.path ++ [(message, field)] }

/-- Read the field with key `key` from `b` and put it into the message. -/
def MessageKind.readField (kind : MessageKind M) (budget : Nat) (key : Key) (m : M) (b : Bytes) :
    Except DecodeError (M × Bytes) :=
  match kind.rules.find? (·.number == key.number) with
  | none => match skip budget key b with
    | .error c => .error (.ofCause c)
    | .ok rest => .ok (m, rest)
  | some rule =>
    -- A known field must have its shape: it is not passed over.
    if key.shape = rule.shape then
      match readValue key.shape b with
      | .error c => .error (DecodeError.within (.ofCause c) kind.name rule.name)
      | .ok (v, rest) => match rule.put budget v m with
        | .error e => .error (e.within kind.name rule.name)
        | .ok m => .ok (m, rest)
    else .error (DecodeError.within (.ofCause (.wrongShape key.shape rule.shape))
      kind.name rule.name)

/-- Reading a field leaves no more than there was. -/
theorem MessageKind.readField_length_le {kind : MessageKind M} {budget : Nat} {key : Key}
    {m m' : M} {b rest : Bytes} (h : kind.readField budget key m b = .ok (m', rest)) :
    rest.length ≤ b.length := by
  unfold MessageKind.readField at h
  split at h
  · split at h
    · cases h
    · next hs => cases h; exact skip_length_le hs
  · split at h
    · split at h
      · cases h
      · next hv => split at h
                   · cases h
                   · cases h; exact readValue_length_le hv
    · cases h

/-- Put the fields that `b` writes into the message, in order. -/
def MessageKind.merge (kind : MessageKind M) (budget : Nat) (m : M) (b : Bytes) :
    Except DecodeError M :=
  if b.isEmpty then .ok m
  else match _hk : readKey b with
    | .error c => .error (.ofCause c)
    | .ok (key, rest) => match _hf : kind.readField budget key m rest with
      | .error e => .error e
      | .ok (m', rest) => kind.merge budget m' rest
termination_by b.length
decreasing_by
  exact Nat.lt_of_le_of_lt (kind.readField_length_le _hf) (readKey_length_lt _hk)

/-- How many messages and groups may stand inside one another. -/
def nestingLimit : Nat := 100

/-- The message that bytes write. -/
def MessageKind.decode (kind : MessageKind M) (b : Bytes) : Except DecodeError M :=
  kind.merge nestingLimit kind.empty b

/-- The fields that a rule writes for a message. -/
def FieldRule.write (rule : FieldRule M) (m : M) : Bytes :=
  (rule.held m).flatMap fun v => writeKey ⟨rule.number, rule.shape⟩ ++ v.write

/-- The bytes of a message. -/
def MessageKind.encode (kind : MessageKind M) (m : M) : Bytes :=
  kind.rules.flatMap (·.write m)

/-- How many bytes a message takes, reckoned without writing it. -/
def MessageKind.encodedSize (kind : MessageKind M) (m : M) : Nat :=
  totalSize (kind.rules.map (·.size m))

/-! ## Rules for the kinds of fields -/

/-- A failure for a value of another shape than the rule's. -/
def mismatched (v : Value) (expected : Shape) : DecodeError :=
  .ofCause (.wrongShape v.shape expected)

/-- A field that holds an integer of at most 64 bits: `ofWord` and `toWord` convert it. -/
def FieldRule.integer {α : Type} (number : Nat) (name : String) (ofWord : UInt64 → α)
    (toWord : α → UInt64) (get : M → Option α) (set : M → α → M) : FieldRule M where
  number := number
  name := name
  shape := .varint
  put _ v m := match v with
    | .varint n => .ok (set m (ofWord n))
    | v => .error (mismatched v .varint)
  held m := (get m).toList.map fun a => .varint (toWord a)
  size m := fieldsSize number ((get m).toList.map fun a => Varint.size (toWord a))

/-- A field of 64 bits without sign. -/
def FieldRule.word64 (number : Nat) (name : String) (get : M → Option UInt64)
    (set : M → UInt64 → M) : FieldRule M :=
  .integer number name id id get set

/-- A field of 32 bits without sign; further bits are dropped. -/
def FieldRule.word32 (number : Nat) (name : String) (get : M → Option UInt32)
    (set : M → UInt32 → M) : FieldRule M :=
  .integer number name UInt64.toUInt32 UInt32.toUInt64 get set

/-- A field of 64 bits with sign. -/
def FieldRule.int64 (number : Nat) (name : String) (get : M → Option Int64)
    (set : M → Int64 → M) : FieldRule M :=
  .integer number name UInt64.toInt64 Int64.toUInt64 get set

/-- A field that is true unless it is zero. -/
def FieldRule.bool (number : Nat) (name : String) (get : M → Option Bool)
    (set : M → Bool → M) : FieldRule M :=
  .integer number name (· != 0) (fun b => if b then 1 else 0) get set

/-- A required field that holds the number of an enumeration: 32 bits with sign, written with its
sign extended. -/
def FieldRule.enumeration (number : Nat) (name : String) (get : M → Int32)
    (set : M → Int32 → M) : FieldRule M :=
  .integer number name (fun n => n.toUInt32.toInt32) (fun i => i.toInt64.toUInt64)
    (fun m => some (get m)) set

/-- A field of four bytes. -/
def FieldRule.fourBytes (number : Nat) (name : String) (get : M → Option UInt32)
    (set : M → UInt32 → M) : FieldRule M where
  number := number
  name := name
  shape := .fourBytes
  put _ v m := match v with
    | .fourBytes n => .ok (set m n)
    | v => .error (mismatched v .fourBytes)
  held m := (get m).toList.map .fourBytes
  size m := fieldsSize number ((get m).toList.map fun _ => 4)

/-- A field of bytes. -/
def FieldRule.bytes (number : Nat) (name : String) (get : M → Option Bytes)
    (set : M → Bytes → M) : FieldRule M where
  number := number
  name := name
  shape := .delimited
  put _ v m := match v with
    | .delimited b => .ok (set m b)
    | v => .error (mismatched v .delimited)
  held m := (get m).toList.map .delimited
  size m := fieldsSize number ((get m).toList.map fun b => delimitedSize b.length)

/-- A text field that may stand any number of times. -/
def FieldRule.texts (number : Nat) (name : String) (get : M → List String)
    (add : M → String → M) : FieldRule M where
  number := number
  name := name
  shape := .delimited
  put _ v m := match v with
    | .delimited b => match Utf8.decode? b with
      | some s => .ok (add m s)
      | none => .error (.ofCause .notText)
    | v => .error (mismatched v .delimited)
  held m := (get m).map fun s => .delimited (Utf8.encode s)
  size m := fieldsSize number ((get m).map fun s => delimitedSize s.utf8ByteSize)

/-- A text field. -/
def FieldRule.text (number : Nat) (name : String) (get : M → Option String)
    (set : M → String → M) : FieldRule M :=
  .texts number name (fun m => (get m).toList) set

/-- A required text field. -/
def FieldRule.requiredText (number : Nat) (name : String) (get : M → String)
    (set : M → String → M) : FieldRule M :=
  .texts number name (fun m => [get m]) set

/-- Merge the message that bytes write into `inner`, one level further inside. -/
def mergeInner {N : Type} (kind : MessageKind N) (budget : Nat) (inner : N) (b : Bytes) :
    Except DecodeError N :=
  if budget = 0 then .error (.ofCause .recursionLimit) else kind.merge (budget - 1) inner b

/-- A field that holds a message; when it stands several times, the messages are merged. -/
def FieldRule.message {N : Type} (number : Nat) (name : String) (kind : MessageKind N)
    (get : M → Option N) (set : M → N → M) : FieldRule M where
  number := number
  name := name
  shape := .delimited
  put budget v m := match v with
    | .delimited b => (mergeInner kind budget ((get m).getD kind.empty) b).map (set m)
    | v => .error (mismatched v .delimited)
  held m := (get m).toList.map fun n => .delimited (kind.encode n)
  size m := fieldsSize number ((get m).toList.map fun n => delimitedSize (kind.encodedSize n))

/-- A message field that may stand any number of times. -/
def FieldRule.messages {N : Type} (number : Nat) (name : String) (kind : MessageKind N)
    (get : M → List N) (add : M → N → M) : FieldRule M where
  number := number
  name := name
  shape := .delimited
  put budget v m := match v with
    | .delimited b => (mergeInner kind budget kind.empty b).map (add m)
    | v => .error (mismatched v .delimited)
  held m := (get m).map fun n => .delimited (kind.encode n)
  size m := fieldsSize number ((get m).map fun n => delimitedSize (kind.encodedSize n))

end SlotUpdate.Wire
