import SlotUpdate.Manifest
import SlotUpdate.Proofs.Text.Written

/-!
# Sizes that are reckoned

How many bytes a message takes is reckoned before it is written, and not by writing it: an integer
takes a group for every seven bits up to its highest one, a run of bytes its length and itself, and
a message what its fields take. The size that is reckoned is the number of bytes that are written
(`Manifest.encodedSize_eq`, `SignatureContainer.encodedSize_eq`).

For an integer the formula on the highest bit counts the groups (`Varint.length_write`), and the
three bits of a shape never need another group, since they fill up a multiple of eight
(`length_writeKey`). From there it is an induction over the kinds of messages that stand inside one
another: a kind is measured if its rules are (`MessageKind.measured_of_rules`), and a rule is if the
values that it holds are (`FieldRule.measured_of_items`).
-/

namespace SlotUpdate

/-! ## Integers -/

namespace Varint

/-- The lowest bit has no say in which bit of a positive number is the highest. -/
theorem log2_or_one {n : Nat} (h : n ≠ 0) : Nat.log2 (n ||| 1) = Nat.log2 n := by
  have hle : n ≤ n ||| 1 := Nat.left_le_or
  have hlow : (1 : Nat) < 2 ^ (Nat.log2 n + 1) := Nat.one_lt_two_pow (Nat.succ_ne_zero _)
  have hlt : n ||| 1 < 2 ^ (Nat.log2 n + 1) := Nat.or_lt_two_pow Nat.lt_log2_self hlow
  rw [Nat.log2_eq_iff (by omega)]
  exact ⟨Nat.le_trans (Nat.log2_self_le h) hle, hlt⟩

/-- Setting the lowest bit leaves a number below a power of two below it. -/
theorem log2_or_one_lt {n bits : Nat} (hbits : bits ≠ 0) (h : n < Nat.pow 2 bits) :
    Nat.log2 (n ||| 1) < bits := by
  have hne : n ||| 1 ≠ 0 := Nat.ne_of_gt (Nat.right_le_or (m := 1))
  rw [Nat.log2_lt hne]
  exact Nat.or_lt_two_pow h (Nat.one_lt_two_pow hbits)

/-- The highest bit of a number with more than one group is seven places above that of what is left
when a group is taken off. -/
theorem log2_div_group {n : Nat} (h : 128 ≤ n) : Nat.log2 n = Nat.log2 (n / 128) + 7 := by
  have hle : 2 ^ Nat.log2 (n / 128) ≤ n / 128 := Nat.log2_self_le (by omega)
  have hlt : n / 128 < 2 ^ (Nat.log2 (n / 128) + 1) := Nat.lt_log2_self
  rw [Nat.log2_eq_iff (by omega)]
  constructor
  · calc 2 ^ (Nat.log2 (n / 128) + 7) = 2 ^ Nat.log2 (n / 128) * 128 := Nat.pow_add _ _ _
      _ ≤ n := by omega
  · calc n < 2 ^ (Nat.log2 (n / 128) + 1) * 128 := by omega
      _ = 2 ^ (Nat.log2 (n / 128) + 7 + 1) := by rw [← Nat.pow_add 2 _ 7, Nat.add_right_comm]

/-- A number that fits has a group for every seven bits up to its highest one. -/
theorem length_writeGroups {groups n : Nat} (h : n < Nat.pow 128 (groups + 1)) :
    (writeGroups (groups + 1) n).length = Nat.log2 (n ||| 1) / 7 + 1 := by
  -- Each group takes the highest bit of what is left down by seven places, until one group is left.
  induction groups generalizing n with
  | zero =>
    have hlt : n < 128 := by simpa using h
    have hlog : Nat.log2 (n ||| 1) < 7 := log2_or_one_lt (by decide) hlt
    rw [writeGroups, if_pos hlt, List.length_singleton]
    omega
  | succ groups ih =>
    by_cases hlt : n < 128
    · have hlog : Nat.log2 (n ||| 1) < 7 := log2_or_one_lt (by decide) hlt
      rw [writeGroups, if_pos hlt, List.length_singleton]
      omega
    · have h : n < Nat.pow 128 (groups + 1) * 128 := h
      have hrest : n / 128 < Nat.pow 128 (groups + 1) := by omega
      have hlog := log2_div_group (Nat.le_of_not_lt hlt)
      rw [writeGroups, if_neg hlt, List.length_cons, ih hrest, log2_or_one (by omega),
        log2_or_one (by omega), hlog]
      omega

/-- An integer takes as many bytes as are reckoned from its highest bit. -/
theorem length_write (n : UInt64) : (write n).length = size n := by
  have hlt : n.toNat < Nat.pow 128 (9 + 1) := Nat.lt_trans n.toNat_lt (by decide)
  have hlog : Nat.log2 (n.toNat ||| 1) < 64 := log2_or_one_lt (by decide) n.toNat_lt
  -- Nine sixty-fourths stand for a seventh, which is exact as far as 64 bits go.
  rw [write, length_writeGroups hlt, size]
  omega

/-- Bits below the fourth one need no further group. -/
theorem length_writeGroups_add {groups n low : Nat} (h : low < 8) :
    (writeGroups groups (8 * n + low)).length = (writeGroups groups (8 * n)).length := by
  cases groups with
  | zero => rfl
  | succ groups =>
    have hquotient : (8 * n + low) / 128 = 8 * n / 128 := by omega
    by_cases hlt : 8 * n < 128
    · rw [writeGroups, writeGroups, if_pos hlt, if_pos (by omega)]
      rfl
    · rw [writeGroups, writeGroups, if_neg hlt, if_neg (by omega), hquotient]
      rfl

end Varint

namespace Wire

variable {M N α : Type}

/-! ## Fields -/

/-- A key takes as many bytes as are reckoned for its number. -/
theorem length_writeKey (key : Key) : (writeKey key).length = keySize key.number := by
  have hshape : key.shape.number < 8 := by cases key.shape <;> decide
  -- What does not fit in 64 bits is cut off in multiples of eight, so the shape stays as it is.
  have hlow : (8 * key.number + key.shape.number) % UInt64.size =
      8 * (key.number % (UInt64.size / 8)) + key.shape.number := by
    simp only [UInt64.size]
    omega
  have hmul : 8 * key.number % UInt64.size = 8 * (key.number % (UInt64.size / 8)) := by
    simp only [UInt64.size]
    omega
  rw [keySize, ← Varint.length_write, writeKey, Varint.write, Varint.write, UInt64.toNat_ofNat',
    UInt64.toNat_ofNat', hlow, hmul]
  exact Varint.length_writeGroups_add hshape

/-- A run of bytes takes as many bytes as are reckoned for its length. -/
theorem length_write_delimited (b : Bytes) :
    (Value.delimited b).write.length = delimitedSize b.length := by
  rw [Value.write, List.length_append, Varint.length_write, delimitedSize]

/-- A text has as many bytes as it says. -/
theorem length_encode_text (s : String) : (Utf8.encode s).length = s.utf8ByteSize := by
  have hbytes : (Utf8.encode s).toByteArray = s.toByteArray := by
    rw [Utf8.encode, ← List.utf8Encode, String.utf8Encode_toList]
  rw [← String.size_toByteArray, ← hbytes, List.size_toByteArray]

/-- The size that is reckoned for a field is that of the bytes that its rule writes. -/
def FieldRule.Measured (rule : FieldRule M) : Prop :=
  ∀ m, rule.size m = (rule.write m).length

/-- The size that is reckoned for messages of the kind is that of their bytes. -/
def MessageKind.Measured (kind : MessageKind M) : Prop :=
  ∀ m, kind.encodedSize m = (kind.encode m).length

/-- A kind is measured if its rules are. -/
theorem MessageKind.measured_of_rules {kind : MessageKind M}
    (h : ∀ rule ∈ kind.rules, rule.Measured) : kind.Measured := by
  intro m
  have hsizes : kind.rules.map (·.size m) = kind.rules.map fun rule => (rule.write m).length :=
    List.map_congr_left fun rule hrule => h rule hrule m
  rw [MessageKind.encodedSize, hsizes, MessageKind.encode, List.length_flatMap]
  rfl

/-- A rule is measured if it holds a value for each of some items and reckons with the sizes of
these. -/
theorem FieldRule.measured_of_items {rule : FieldRule M} (items : M → List α)
    (toValue : α → Value) (size : α → Nat) (hheld : ∀ m, rule.held m = (items m).map toValue)
    (hsize : ∀ m, rule.size m = fieldsSize rule.number ((items m).map size))
    (hvalue : ∀ a, (toValue a).write.length = size a) : rule.Measured := by
  intro m
  rw [hsize, FieldRule.write, hheld]
  generalize items m = as
  induction as with
  | nil => rfl
  | cons a as ih =>
    have hkey : (writeKey ⟨rule.number, rule.shape⟩).length = keySize rule.number :=
      length_writeKey _
    have hcons : fieldsSize rule.number ((a :: as).map size) =
        keySize rule.number + size a + fieldsSize rule.number (as.map size) := by
      simp only [fieldsSize, totalSize, List.map_cons, List.length_cons, List.foldr_cons,
        Nat.mul_succ]
      omega
    rw [hcons, ih, List.map_cons, List.flatMap_cons, List.length_append, List.length_append, hkey,
      hvalue]

namespace FieldRule.Measured

variable {number : Nat} {name : String}

/-- An integer is measured. -/
theorem integer {ofWord : UInt64 → α} {toWord : α → UInt64} {get : M → Option α}
    {set : M → α → M} : (FieldRule.integer number name ofWord toWord get set).Measured :=
  measured_of_items (fun m => (get m).toList) (fun a => .varint (toWord a)) _ (fun _ => rfl)
    (fun _ => rfl) fun a => Varint.length_write (toWord a)

/-- A field of four bytes is measured. -/
theorem fourBytes {get : M → Option UInt32} {set : M → UInt32 → M} :
    (FieldRule.fourBytes number name get set).Measured := by
  refine measured_of_items (fun m => (get m).toList) .fourBytes _ (fun _ => rfl) (fun _ => rfl)
    fun n => ?_
  rw [Value.write, Bytes.ofNatLittle, List.length_reverse, Bytes.length_ofNat]

/-- A field of bytes is measured. -/
theorem bytes {get : M → Option Bytes} {set : M → Bytes → M} :
    (FieldRule.bytes number name get set).Measured :=
  measured_of_items (fun m => (get m).toList) .delimited _ (fun _ => rfl) (fun _ => rfl)
    length_write_delimited

/-- Texts are measured. -/
theorem texts {get : M → List String} {add : M → String → M} :
    (FieldRule.texts number name get add).Measured := by
  refine measured_of_items get (fun s => .delimited (Utf8.encode s)) _ (fun _ => rfl)
    (fun _ => rfl) fun s => ?_
  rw [length_write_delimited, length_encode_text]

/-- A message of a measured kind is measured. -/
theorem message {kind : MessageKind N} (hkind : kind.Measured) {get : M → Option N}
    {set : M → N → M} : (FieldRule.message number name kind get set).Measured := by
  refine measured_of_items (fun m => (get m).toList) (fun n => .delimited (kind.encode n)) _
    (fun _ => rfl) (fun _ => rfl) fun n => ?_
  rw [length_write_delimited, hkind]

/-- Messages of a measured kind are measured. -/
theorem messages {kind : MessageKind N} (hkind : kind.Measured) {get : M → List N}
    {add : M → N → M} : (FieldRule.messages number name kind get add).Measured := by
  refine measured_of_items get (fun n => .delimited (kind.encode n)) _ (fun _ => rfl)
    (fun _ => rfl) fun n => ?_
  rw [length_write_delimited, hkind]

end FieldRule.Measured

end Wire

/-! ## Kinds of messages -/

open Wire
open Wire.FieldRule.Measured

/-- Runs of blocks are measured. -/
theorem Extent.measured : Extent.kind.Measured := by
  apply MessageKind.measured_of_rules
  simp only [Extent.kind, List.forall_mem_cons]
  exact ⟨integer, integer, List.forall_mem_nil _⟩

/-- Signatures are measured. -/
theorem Signature.measured : Signature.kind.Measured := by
  apply MessageKind.measured_of_rules
  simp only [Signature.kind, List.forall_mem_cons]
  exact ⟨integer, bytes, fourBytes, List.forall_mem_nil _⟩

/-- Signature containers are measured. -/
theorem SignatureContainer.measured : SignatureContainer.kind.Measured := by
  apply MessageKind.measured_of_rules
  simp only [SignatureContainer.kind, List.forall_mem_cons]
  exact ⟨messages Signature.measured, List.forall_mem_nil _⟩

/-- Sizes and digests are measured. -/
theorem PartitionInfo.measured : PartitionInfo.kind.Measured := by
  apply MessageKind.measured_of_rules
  simp only [PartitionInfo.kind, List.forall_mem_cons]
  exact ⟨integer, bytes, List.forall_mem_nil _⟩

/-- Steps of writing are measured. -/
theorem InstallOperation.measured : InstallOperation.kind.Measured := by
  apply MessageKind.measured_of_rules
  simp only [InstallOperation.kind, List.forall_mem_cons]
  exact ⟨integer, integer, integer, messages Extent.measured, integer, messages Extent.measured,
    integer, bytes, bytes, List.forall_mem_nil _⟩

/-- Partitions are measured. -/
theorem PartitionUpdate.measured : PartitionUpdate.kind.Measured := by
  apply MessageKind.measured_of_rules
  simp only [PartitionUpdate.kind, List.forall_mem_cons]
  exact ⟨texts, integer, texts, texts, messages Signature.measured, message PartitionInfo.measured,
    message PartitionInfo.measured, messages InstallOperation.measured, integer, texts,
    List.forall_mem_nil _⟩

/-- Groups of partitions are measured. -/
theorem DynamicPartitionGroup.measured : DynamicPartitionGroup.kind.Measured := by
  apply MessageKind.measured_of_rules
  simp only [DynamicPartitionGroup.kind, List.forall_mem_cons]
  exact ⟨texts, integer, texts, List.forall_mem_nil _⟩

/-- The update of groups is measured. -/
theorem DynamicPartitionMetadata.measured : DynamicPartitionMetadata.kind.Measured := by
  apply MessageKind.measured_of_rules
  simp only [DynamicPartitionMetadata.kind, List.forall_mem_cons]
  exact ⟨messages DynamicPartitionGroup.measured, integer, integer, texts, integer,
    List.forall_mem_nil _⟩

/-- Manifests are measured. -/
theorem Manifest.measured : Manifest.kind.Measured := by
  apply MessageKind.measured_of_rules
  simp only [Manifest.kind, List.forall_mem_cons]
  exact ⟨integer, integer, integer, integer, messages PartitionUpdate.measured, integer,
    message DynamicPartitionMetadata.measured, integer, texts, List.forall_mem_nil _⟩

/-- The size that is reckoned for a manifest is that of its bytes. -/
theorem Manifest.encodedSize_eq (m : Manifest) : m.encodedSize = m.encode.length :=
  Manifest.measured m

/-- The size that is reckoned for a signature container is that of its bytes. -/
theorem SignatureContainer.encodedSize_eq (c : SignatureContainer) :
    c.encodedSize = c.encode.length :=
  SignatureContainer.measured c

end SlotUpdate
