import Mathlib.Algebra.Order.BigOperators.Group.List
import Mathlib.Algebra.Order.Group.Nat
import SlotUpdate.Proofs.Except.Bind
import SlotUpdate.Proofs.Wire.Size

/-!
# How much longer messages become

Bytes may write a message in many ways, and the way in which it is written again may be longer: a
required field that was left out is written, and so is the sign of a number that was cut short. It
is at most sixteen times as long, whatever was read (`Manifest.encodedSize_le`,
`SignatureContainer.encodedSize_le`), so what is written for bytes of a sensible size can be counted
in 64 bits.

The factor is a generous one. A field that is read takes a byte for its key and what its value takes
at least (`Value.leastSize`), and when it is written its key and its length or its number take ten
bytes each at most. Every rule changes the bytes of its own field alone, so each kind of message
grows by what its rules allow (`FieldRule.growsIn_of_own`), and over the fields of a byte string,
one after the other, this adds up to the whole (`MessageKind.grows_of_rules`).
-/

namespace SlotUpdate.Wire

variable {M N α : Type}

/-! ## What is read -/

/-- How many bytes a value takes at least, however its number or its length is written. -/
def Value.leastSize : Value → Nat
  | .varint _ => 1
  | .eightBytes b => b.length
  | .delimited b => b.length + 1
  | .fourBytes _ => 4

/-- Bytes that are cut off are no longer there. -/
theorem takeBytes_length {n : Nat} {b v rest : Bytes} (h : takeBytes n b = .ok (v, rest)) :
    v.length = n ∧ n + rest.length = b.length := by
  unfold takeBytes at h
  split at h
  · next hle =>
    cases h
    rw [List.length_take, List.length_drop]
    omega
  · cases h

/-- Reading a value takes as many bytes as it takes at least. -/
theorem readValue_leastSize {shape : Shape} {v : Value} {b rest : Bytes}
    (h : readValue shape b = .ok (v, rest)) : v.leastSize + rest.length ≤ b.length := by
  cases shape with
  | varint =>
    obtain ⟨⟨n, rest'⟩, hread, heq⟩ := bind_eq_ok.1 h
    cases heq
    have hlt := readVarint_length_lt hread
    rw [Value.leastSize]
    omega
  | eightBytes =>
    obtain ⟨⟨taken, rest'⟩, htake, heq⟩ := bind_eq_ok.1 h
    cases heq
    obtain ⟨hlength, hrest⟩ := takeBytes_length htake
    rw [Value.leastSize]
    omega
  | delimited =>
    obtain ⟨⟨n, rest'⟩, hread, h⟩ := bind_eq_ok.1 h
    obtain ⟨⟨taken, rest''⟩, htake, heq⟩ := bind_eq_ok.1 h
    cases heq
    have hlt := readVarint_length_lt hread
    obtain ⟨hlength, hrest⟩ := takeBytes_length htake
    rw [Value.leastSize]
    omega
  | fourBytes =>
    obtain ⟨⟨taken, rest'⟩, htake, heq⟩ := bind_eq_ok.1 h
    cases heq
    obtain ⟨hlength, hrest⟩ := takeBytes_length htake
    rw [Value.leastSize]
    omega
  | groupStart => cases h
  | groupEnd => cases h

/-! ## What is written -/

/-- An integer takes ten bytes at most. -/
theorem varintSize_le (n : UInt64) : Varint.size n ≤ 10 := by
  have hlog : Nat.log2 (n.toNat ||| 1) < 64 := Varint.log2_or_one_lt (by decide) n.toNat_lt
  rw [Varint.size]
  omega

/-- A length takes ten bytes at most. -/
theorem delimitedSize_le (length : Nat) : delimitedSize length ≤ 10 + length :=
  Nat.add_le_add_right (varintSize_le _) _

/-- The size of two parts is that of both. -/
theorem totalSize_append (sizes sizes' : List Nat) :
    totalSize (sizes ++ sizes') = totalSize sizes + totalSize sizes' :=
  List.sum_append_nat

/-- Fewer parts are not larger. -/
theorem totalSize_le_of_sublist {sizes sizes' : List Nat} (h : sizes.Sublist sizes') :
    totalSize sizes ≤ totalSize sizes' :=
  h.sum_le_sum fun _ _ => Nat.zero_le _

/-- A field takes a key and its value. -/
theorem fieldsSize_singleton (number size : Nat) :
    fieldsSize number [size] = keySize number + size := by
  rw [fieldsSize, List.length_singleton, Nat.mul_one]
  rfl

/-- One more field takes a key and its value. -/
theorem fieldsSize_concat (number : Nat) (sizes : List Nat) (size : Nat) :
    fieldsSize number (sizes ++ [size]) = fieldsSize number sizes + (keySize number + size) := by
  have hone : totalSize [size] = size := rfl
  rw [fieldsSize, fieldsSize, totalSize_append, hone, List.length_append, List.length_singleton,
    Nat.mul_add, Nat.mul_one]
  omega

/-- Fewer fields take fewer bytes. -/
theorem fieldsSize_le_of_sublist {number : Nat} {sizes sizes' : List Nat}
    (h : sizes.Sublist sizes') :
    fieldsSize number sizes ≤ fieldsSize number sizes' := by
  unfold fieldsSize
  exact Nat.add_le_add (Nat.mul_le_mul_left _ h.length_le) (totalSize_le_of_sublist h)

/-! ## Rules -/

/-- Putting a value into a message for the rule makes it longer by sixteen times what the value and
its key take, at most. -/
def FieldRule.GrowsIn (rule : FieldRule M) (kind : MessageKind M) : Prop :=
  ∀ budget v m m', rule.put budget v m = .ok m' →
    kind.encodedSize m' ≤ kind.encodedSize m + 16 * (1 + v.leastSize)

/-- The bytes of a message are those of one field and those of the others. -/
theorem MessageKind.encodedSize_eq_add {kind : MessageKind M} {rule : FieldRule M} {i : Nat}
    (hrule : kind.rules[i]? = some rule) (m : M) :
    kind.encodedSize m = rule.size m + totalSize ((kind.rules.eraseIdx i).map (·.size m)) := by
  obtain ⟨hi, hget⟩ := List.getElem?_eq_some_iff.1 hrule
  -- The order of the fields does not count for their size.
  have hperm := (List.getElem_cons_eraseIdx_perm hi).map (·.size m)
  have hsame : totalSize (kind.rules.map (·.size m)) =
      totalSize ((kind.rules[i] :: kind.rules.eraseIdx i).map (·.size m)) := hperm.sum_nat.symm
  rw [MessageKind.encodedSize, hsame, List.map_cons, hget]
  rfl

/-- Putting items into a message changes no field but the one of the rule at place `i`. -/
def MessageKind.KeepsOthers (kind : MessageKind M) (i : Nat) (add : M → α → M) : Prop :=
  ∀ m a, (kind.rules.eraseIdx i).map (·.size (add m a)) =
    (kind.rules.eraseIdx i).map (·.size m)

/-- A rule that changes its own field alone makes a message longer by what that field becomes longer
by. -/
theorem FieldRule.growsIn_of_own {kind : MessageKind M} {rule : FieldRule M} {i : Nat}
    (hrule : kind.rules[i]? = some rule) (set : M → α → M)
    (hothers : kind.KeepsOthers i set)
    (hput : ∀ budget v m m', rule.put budget v m = .ok m' → ∃ a, m' = set m a ∧
      rule.size m' ≤ rule.size m + 16 * (1 + v.leastSize)) :
    rule.GrowsIn kind := by
  intro budget v m m' h
  obtain ⟨a, hset, hsize⟩ := hput budget v m m' h
  have hsame : (kind.rules.eraseIdx i).map (·.size m') = (kind.rules.eraseIdx i).map (·.size m) :=
    hset ▸ hothers m a
  rw [MessageKind.encodedSize_eq_add hrule, MessageKind.encodedSize_eq_add hrule, hsame]
  omega

/-- Where an item is put in after others or in place of them, the field becomes longer by that item
at most. -/
theorem fieldsSize_map_le {number : Nat} {size : α → Nat} {items items' : List α} {a : α}
    (h : items'.Sublist (items ++ [a])) :
    fieldsSize number (items'.map size) ≤ fieldsSize number (items.map size) + (10 + size a) := by
  have hsub : (items'.map size).Sublist (items.map size ++ [size a]) := by
    simpa using h.map size
  have hle : fieldsSize number (items'.map size) ≤
      fieldsSize number (items.map size ++ [size a]) := fieldsSize_le_of_sublist hsub
  have hkey : keySize number ≤ 10 := varintSize_le _
  rw [fieldsSize_concat] at hle
  omega

/-- Messages of the kind are at most sixteen times as long as the bytes that they were read from,
apart from what they take without having been read. -/
structure MessageKind.Grows (kind : MessageKind M) : Prop where
  /-- The message without fields takes little. -/
  empty : kind.encodedSize kind.empty ≤ 12
  /-- Bytes that are merged into a message make it longer by sixteen times their number at most. -/
  merge : ∀ budget m b m', kind.merge budget m b = .ok m' →
    kind.encodedSize m' ≤ kind.encodedSize m + 16 * b.length

/-- Reading a field makes a message longer by sixteen times what the field takes, at most. -/
theorem MessageKind.readField_le {kind : MessageKind M}
    (hrules : ∀ rule ∈ kind.rules, rule.GrowsIn kind) {budget : Nat} {key : Key} {m m' : M}
    {b rest : Bytes} (h : kind.readField budget key m b = .ok (m', rest)) :
    kind.encodedSize m' + 16 * rest.length ≤ kind.encodedSize m + 16 * (1 + b.length) := by
  have hrest := MessageKind.readField_length_le h
  unfold MessageKind.readField at h
  split at h
  · -- A field that nobody knows is skipped.
    split at h
    · cases h
    · cases h
      omega
  · next rule hfind =>
    split at h
    · split at h
      · cases h
      · next v rest' hread =>
        split at h
        · cases h
        · next hput =>
          cases h
          have hgrows := hrules rule (List.mem_of_find?_eq_some hfind) _ _ _ _ hput
          have hleast := readValue_leastSize hread
          omega
    · cases h

/-- A kind grows as its rules do. -/
theorem MessageKind.grows_of_rules {kind : MessageKind M}
    (hempty : kind.encodedSize kind.empty ≤ 12) (hrules : ∀ rule ∈ kind.rules, rule.GrowsIn kind) :
    kind.Grows where
  empty := hempty
  merge := by
    intro budget m b m' h
    fun_induction kind.merge budget m b with
    | case1 m b hb =>
      cases h
      exact Nat.le_add_right _ _
    | case2 => cases h
    | case3 => cases h
    | case4 m b hb key rest hkey m₁ rest₁ hfield ih =>
      have hlt := readKey_length_lt hkey
      have hfirst := MessageKind.readField_le hrules hfield
      have hothers := ih h
      omega

namespace FieldRule.GrowsIn

variable {number : Nat} {name : String} {kind : MessageKind M}

/-- A rule grows by the items that it puts in, one for each value that is read. -/
theorem of_items {rule : FieldRule M} (i : Nat) (hrule : kind.rules[i]? = some rule)
    {items : M → List α} {size : α → Nat} {add : M → α → M}
    (hothers : kind.KeepsOthers i add)
    (hsize : ∀ m, rule.size m = fieldsSize rule.number ((items m).map size))
    (hitems : ∀ m a, (items (add m a)).Sublist (items m ++ [a]))
    (hput : ∀ budget v m m', rule.put budget v m = .ok m' → ∃ a, m' = add m a ∧
      size a + 10 ≤ 16 * (1 + v.leastSize)) :
    rule.GrowsIn kind := by
  refine growsIn_of_own hrule add hothers fun budget v m m' h => ?_
  obtain ⟨a, hadd, hle⟩ := hput budget v m m' h
  have hfields : fieldsSize rule.number ((items (add m a)).map size) ≤
      fieldsSize rule.number ((items m).map size) + (10 + size a) := fieldsSize_map_le (hitems m a)
  refine ⟨a, hadd, ?_⟩
  rw [hsize, hsize, hadd]
  omega

/-- An item that takes the place of the one before is the last one. -/
theorem sublist_of_get {get : M → Option α} {set : M → α → M}
    (hget : ∀ m a, get (set m a) = some a) (m : M) (a : α) :
    (get (set m a)).toList.Sublist ((get m).toList ++ [a]) := by
  rw [hget, Option.toList_some]
  exact List.sublist_append_right _ _

/-- An integer takes the place of the one before. -/
theorem integer {ofWord : UInt64 → α} {toWord : α → UInt64} {get : M → Option α}
    {set : M → α → M} (i : Nat)
    (hrule : kind.rules[i]? = some (.integer number name ofWord toWord get set))
    (hothers : kind.KeepsOthers i set)
    (hget : ∀ m a, get (set m a) = some a) :
    (FieldRule.integer number name ofWord toWord get set).GrowsIn kind := by
  refine of_items i hrule hothers (fun _ => rfl) (sublist_of_get hget) fun budget v m m' h => ?_
  cases v with
  | varint n =>
    cases h
    have hten := varintSize_le (toWord (ofWord n))
    refine ⟨_, rfl, ?_⟩
    rw [Value.leastSize]
    omega
  | eightBytes _ | delimited _ | fourBytes _ => cases h

/-- A number of four bytes takes the place of the one before. -/
theorem fourBytes {get : M → Option UInt32} {set : M → UInt32 → M} (i : Nat)
    (hrule : kind.rules[i]? = some (.fourBytes number name get set))
    (hothers : kind.KeepsOthers i set)
    (hget : ∀ m a, get (set m a) = some a) :
    (FieldRule.fourBytes number name get set).GrowsIn kind := by
  refine of_items i hrule hothers (fun _ => rfl) (sublist_of_get hget) fun budget v m m' h => ?_
  cases v with
  | fourBytes n =>
    cases h
    refine ⟨_, rfl, ?_⟩
    rw [Value.leastSize]
    omega
  | varint _ | eightBytes _ | delimited _ => cases h

/-- Bytes take the place of those before. -/
theorem bytes {get : M → Option Bytes} {set : M → Bytes → M} (i : Nat)
    (hrule : kind.rules[i]? = some (.bytes number name get set))
    (hothers : kind.KeepsOthers i set)
    (hget : ∀ m a, get (set m a) = some a) :
    (FieldRule.bytes number name get set).GrowsIn kind := by
  refine of_items i hrule hothers (fun _ => rfl) (sublist_of_get hget) fun budget v m m' h => ?_
  cases v with
  | delimited b =>
    cases h
    have hle := delimitedSize_le b.length
    refine ⟨_, rfl, ?_⟩
    rw [Value.leastSize]
    omega
  | varint _ | eightBytes _ | fourBytes _ => cases h

/-- A text has as many bytes as it was read from. -/
theorem utf8ByteSize_of_decode? {b : Bytes} {s : String} (h : Utf8.decode? b = some s) :
    s.utf8ByteSize = b.length := by
  unfold Utf8.decode? String.fromUTF8? at h
  split at h
  · cases h
    rw [← String.size_toByteArray]
    exact List.size_toByteArray
  · cases h

/-- A text is added to those before or takes their place. -/
theorem texts {get : M → List String} {add : M → String → M} (i : Nat)
    (hget : ∀ m s, (get (add m s)).Sublist (get m ++ [s]))
    (hrule : kind.rules[i]? = some (.texts number name get add))
    (hothers : kind.KeepsOthers i add) :
    (FieldRule.texts number name get add).GrowsIn kind := by
  refine of_items i hrule hothers (fun _ => rfl) hget fun budget v m m' h => ?_
  cases v with
  | delimited b =>
    simp only [FieldRule.texts] at h
    split at h
    · next s hs =>
      cases h
      have hle := delimitedSize_le s.utf8ByteSize
      have hsize := utf8ByteSize_of_decode? hs
      refine ⟨s, rfl, ?_⟩
      rw [Value.leastSize]
      omega
    · cases h
  | varint _ | eightBytes _ | fourBytes _ => cases h

/-- A text takes the place of the one before. -/
theorem text {get : M → Option String} {set : M → String → M} (i : Nat)
    (hrule : kind.rules[i]? = some (.text number name get set))
    (hothers : kind.KeepsOthers i set)
    (hget : ∀ m s, get (set m s) = some s) :
    (FieldRule.text number name get set).GrowsIn kind :=
  texts i (sublist_of_get hget) hrule hothers

/-- A required text takes the place of the one before. -/
theorem requiredText {get : M → String} {set : M → String → M} (i : Nat)
    (hrule : kind.rules[i]? = some (.requiredText number name get set))
    (hothers : kind.KeepsOthers i set)
    (hget : ∀ m s, get (set m s) = s) :
    (FieldRule.requiredText number name get set).GrowsIn kind := by
  refine texts i (fun m s => ?_) hrule hothers
  rw [hget]
  exact List.sublist_append_right _ _

/-- What is merged into a message inside is bounded as that message is. -/
theorem mergeInner_le {inner : MessageKind N} (hinner : inner.Grows) {budget : Nat} {n n' : N}
    {b : Bytes} (h : mergeInner inner budget n b = .ok n') :
    inner.encodedSize n' ≤ inner.encodedSize n + 16 * b.length := by
  unfold mergeInner at h
  split at h
  · cases h
  · exact hinner.merge _ _ _ _ h

/-- A message is added to those before. -/
theorem messages {inner : MessageKind N} {get : M → List N} {add : M → N → M} (i : Nat)
    (hinner : inner.Grows)
    (hrule : kind.rules[i]? = some (.messages number name inner get add))
    (hothers : kind.KeepsOthers i add)
    (hget : ∀ m n, get (add m n) = get m ++ [n]) :
    (FieldRule.messages number name inner get add).GrowsIn kind := by
  refine of_items i hrule hothers (fun _ => rfl) (fun m n => hget m n ▸ .refl _)
    fun budget v m m' h => ?_
  cases v with
  | delimited b =>
    replace h : (mergeInner inner budget inner.empty b).map (add m) = .ok m' := h
    obtain ⟨n, hmerge, rfl⟩ := map_eq_ok.1 h
    have hmerged := mergeInner_le hinner hmerge
    have hempty := hinner.empty
    have hle := delimitedSize_le (inner.encodedSize n)
    refine ⟨n, rfl, ?_⟩
    -- The key and the length that were read pay for those that are written and for a required
    -- field.
    calc delimitedSize (inner.encodedSize n) + 10
        ≤ (12 + 16 * b.length) + 20 := by omega
      _ = 16 * (1 + (Value.delimited b).leastSize) := by rw [Value.leastSize]; omega
  | varint _ | eightBytes _ | fourBytes _ => cases h

/-- A message takes the place of the one before, which it was merged into. -/
theorem message {inner : MessageKind N} {get : M → Option N} {set : M → N → M} (i : Nat)
    (hinner : inner.Grows)
    (hrule : kind.rules[i]? = some (.message number name inner get set))
    (hothers : kind.KeepsOthers i set)
    (hget : ∀ m n, get (set m n) = some n) :
    (FieldRule.message number name inner get set).GrowsIn kind := by
  refine growsIn_of_own hrule set hothers fun budget v m m' h => ?_
  cases v with
  | delimited b =>
    replace h : (mergeInner inner budget ((get m).getD inner.empty) b).map (set m) = .ok m' := h
    obtain ⟨n, hmerge, rfl⟩ := map_eq_ok.1 h
    have hmerged := mergeInner_le hinner hmerge
    have hempty := hinner.empty
    have hle := delimitedSize_le (inner.encodedSize n)
    have hkey : keySize number ≤ 10 := varintSize_le _
    have hsize' : (FieldRule.message number name inner get set).size (set m n) =
        keySize number + delimitedSize (inner.encodedSize n) := by
      simp [FieldRule.message, hget, fieldsSize_singleton]
    -- The message before takes as many bytes as its field does, or as few as an empty one.
    have hbefore : inner.encodedSize ((get m).getD inner.empty) ≤
        (FieldRule.message number name inner get set).size m + 12 := by
      cases hm : get m with
      | none =>
        rw [Option.getD_none]
        omega
      | some n₀ =>
        have hsize : (FieldRule.message number name inner get set).size m =
            keySize number + delimitedSize (inner.encodedSize n₀) := by
          simp [FieldRule.message, hm, fieldsSize_singleton]
        rw [Option.getD_some, hsize, delimitedSize]
        omega
    refine ⟨n, rfl, ?_⟩
    rw [hsize', Value.leastSize]
    omega
  | varint _ | eightBytes _ | fourBytes _ => cases h

end FieldRule.GrowsIn

end SlotUpdate.Wire

namespace SlotUpdate

/-! ## Kinds of messages -/

open Wire
open Wire.FieldRule.GrowsIn

/-- Runs of blocks become longer within bounds. -/
theorem Extent.grows : Extent.kind.Grows := by
  apply MessageKind.grows_of_rules (by decide)
  simp only [Extent.kind, List.forall_mem_cons]
  exact ⟨integer 0 rfl (fun _ _ => rfl) fun _ _ => rfl,
    integer 1 rfl (fun _ _ => rfl) fun _ _ => rfl,
    List.forall_mem_nil _⟩

/-- Signatures become longer within bounds. -/
theorem Signature.grows : Signature.kind.Grows := by
  apply MessageKind.grows_of_rules (by decide)
  simp only [Signature.kind, List.forall_mem_cons]
  exact ⟨integer 0 rfl (fun _ _ => rfl) fun _ _ => rfl,
    bytes 1 rfl (fun _ _ => rfl) fun _ _ => rfl,
    fourBytes 2 rfl (fun _ _ => rfl) fun _ _ => rfl,
    List.forall_mem_nil _⟩

/-- Signature containers become longer within bounds. -/
theorem SignatureContainer.grows : SignatureContainer.kind.Grows := by
  apply MessageKind.grows_of_rules (by decide)
  simp only [SignatureContainer.kind, List.forall_mem_cons]
  exact ⟨messages 0 Signature.grows rfl (fun _ _ => rfl) fun _ _ => rfl,
    List.forall_mem_nil _⟩

/-- Sizes and digests become longer within bounds. -/
theorem PartitionInfo.grows : PartitionInfo.kind.Grows := by
  apply MessageKind.grows_of_rules (by decide)
  simp only [PartitionInfo.kind, List.forall_mem_cons]
  exact ⟨integer 0 rfl (fun _ _ => rfl) fun _ _ => rfl,
    bytes 1 rfl (fun _ _ => rfl) fun _ _ => rfl,
    List.forall_mem_nil _⟩

/-- Steps of writing become longer within bounds. -/
theorem InstallOperation.grows : InstallOperation.kind.Grows := by
  apply MessageKind.grows_of_rules (by decide)
  simp only [InstallOperation.kind, List.forall_mem_cons]
  exact ⟨integer 0 rfl (fun _ _ => rfl) fun _ _ => rfl,
    integer 1 rfl (fun _ _ => rfl) fun _ _ => rfl,
    integer 2 rfl (fun _ _ => rfl) fun _ _ => rfl,
    messages 3 Extent.grows rfl (fun _ _ => rfl) fun _ _ => rfl,
    integer 4 rfl (fun _ _ => rfl) fun _ _ => rfl,
    messages 5 Extent.grows rfl (fun _ _ => rfl) fun _ _ => rfl,
    integer 6 rfl (fun _ _ => rfl) fun _ _ => rfl,
    bytes 7 rfl (fun _ _ => rfl) fun _ _ => rfl,
    bytes 8 rfl (fun _ _ => rfl) fun _ _ => rfl,
    List.forall_mem_nil _⟩

/-- Partitions become longer within bounds. -/
theorem PartitionUpdate.grows : PartitionUpdate.kind.Grows := by
  apply MessageKind.grows_of_rules (by decide)
  simp only [PartitionUpdate.kind, List.forall_mem_cons]
  exact ⟨requiredText 0 rfl (fun _ _ => rfl) fun _ _ => rfl,
    integer 1 rfl (fun _ _ => rfl) fun _ _ => rfl,
    text 2 rfl (fun _ _ => rfl) fun _ _ => rfl,
    text 3 rfl (fun _ _ => rfl) fun _ _ => rfl,
    messages 4 Signature.grows rfl (fun _ _ => rfl) fun _ _ => rfl,
    message 5 PartitionInfo.grows rfl (fun _ _ => rfl) fun _ _ => rfl,
    message 6 PartitionInfo.grows rfl (fun _ _ => rfl) fun _ _ => rfl,
    messages 7 InstallOperation.grows rfl (fun _ _ => rfl) fun _ _ => rfl,
    integer 8 rfl (fun _ _ => rfl) fun _ _ => rfl,
    text 9 rfl (fun _ _ => rfl) fun _ _ => rfl,
    List.forall_mem_nil _⟩

/-- Groups of partitions become longer within bounds. -/
theorem DynamicPartitionGroup.grows : DynamicPartitionGroup.kind.Grows := by
  apply MessageKind.grows_of_rules (by decide)
  simp only [DynamicPartitionGroup.kind, List.forall_mem_cons]
  exact ⟨requiredText 0 rfl (fun _ _ => rfl) fun _ _ => rfl,
    integer 1 rfl (fun _ _ => rfl) fun _ _ => rfl,
    texts 2 (fun _ _ => .refl _) rfl fun _ _ => rfl,
    List.forall_mem_nil _⟩

/-- The update of groups becomes longer within bounds. -/
theorem DynamicPartitionMetadata.grows : DynamicPartitionMetadata.kind.Grows := by
  apply MessageKind.grows_of_rules (by decide)
  simp only [DynamicPartitionMetadata.kind, List.forall_mem_cons]
  exact ⟨messages 0 DynamicPartitionGroup.grows rfl (fun _ _ => rfl) fun _ _ => rfl,
    integer 1 rfl (fun _ _ => rfl) fun _ _ => rfl,
    integer 2 rfl (fun _ _ => rfl) fun _ _ => rfl,
    text 3 rfl (fun _ _ => rfl) fun _ _ => rfl,
    integer 4 rfl (fun _ _ => rfl) fun _ _ => rfl,
    List.forall_mem_nil _⟩

/-- Manifests become longer within bounds. -/
theorem Manifest.grows : Manifest.kind.Grows := by
  apply MessageKind.grows_of_rules (by decide)
  simp only [Manifest.kind, List.forall_mem_cons]
  exact ⟨integer 0 rfl (fun _ _ => rfl) fun _ _ => rfl,
    integer 1 rfl (fun _ _ => rfl) fun _ _ => rfl,
    integer 2 rfl (fun _ _ => rfl) fun _ _ => rfl,
    integer 3 rfl (fun _ _ => rfl) fun _ _ => rfl,
    messages 4 PartitionUpdate.grows rfl (fun _ _ => rfl) fun _ _ => rfl,
    integer 5 rfl (fun _ _ => rfl) fun _ _ => rfl,
    message 6 DynamicPartitionMetadata.grows rfl (fun _ _ => rfl) fun _ _ => rfl,
    integer 7 rfl (fun _ _ => rfl) fun _ _ => rfl,
    text 8 rfl (fun _ _ => rfl) fun _ _ => rfl,
    List.forall_mem_nil _⟩

/-- What is written for a manifest is at most sixteen times as long as what it was read from. -/
theorem Manifest.encodedSize_le {b : Bytes} {m : Manifest} (h : Manifest.decode b = .ok m) :
    m.encodedSize ≤ 16 * b.length := by
  have hmerge := Manifest.grows.merge _ _ _ _ h
  rwa [show Manifest.kind.encodedSize Manifest.kind.empty = 0 from rfl, Nat.zero_add] at hmerge

/-- What is written for a signature container is at most sixteen times as long as what it was read
from. -/
theorem SignatureContainer.encodedSize_le {b : Bytes} {c : SignatureContainer}
    (h : SignatureContainer.decode b = .ok c) : c.encodedSize ≤ 16 * b.length := by
  have hmerge := SignatureContainer.grows.merge _ _ _ _ h
  rwa [show SignatureContainer.kind.encodedSize SignatureContainer.kind.empty = 0 from rfl,
    Nat.zero_add] at hmerge

end SlotUpdate
