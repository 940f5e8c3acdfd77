import SlotUpdate.Proofs.Bytes.Digits
import SlotUpdate.Proofs.Except.Bind
import SlotUpdate.Proofs.Text.Written
import SlotUpdate.Wire.Message

/-!
# Reading messages that were written

A kind of message is faithful if every message is read back from its bytes, as long as these can be
counted in 64 bits and messages may stand inside one another as deep as the kind needs
(`MessageKind.Faithful`).

The proof goes from the inside out. A value is read back in front of whatever follows it
(`readValue_write`), so reading what one rule writes puts the values that the message holds for it,
one after the other (`MessageKind.merge_write`). Each way of describing a field puts them back to
where they came from (`FieldRule.Restores` and its rules), and a kind is faithful if its fields in
order fill the empty message (`MessageKind.faithful_of_fills`).
-/

namespace SlotUpdate.Wire

variable {M N α : Type}

/-! ## Values -/

/-- A variable-length integer is read back in front of whatever follows it. -/
theorem readVarint_write (n : UInt64) (tail : Bytes) :
    readVarint (Varint.write n ++ tail) = .ok (n, tail) := by
  rw [readVarint, Varint.read_write]

/-- Bytes are cut off in front of whatever follows them. -/
theorem takeBytes_append (b tail : Bytes) : takeBytes b.length (b ++ tail) = .ok (b, tail) := by
  have hle : b.length ≤ (b ++ tail).length := by
    rw [List.length_append]
    exact Nat.le_add_right _ _
  rw [takeBytes, if_pos hle, List.take_left, List.drop_left]

/-- The number of a shape has three bits. -/
theorem Shape.number_lt (s : Shape) : s.number < 8 := by
  cases s <;> decide

/-- A value with its length in front is not written as eight bytes. -/
theorem Shape.delimited_ne : Shape.delimited ≠ .eightBytes := by
  decide

/-- Field numbers are below this one. -/
def numberLimit : Nat := 536870912

/-- A key is read back in front of whatever follows it. -/
theorem readKey_writeKey {key : Key} (hpos : 0 < key.number) (hlt : key.number < numberLimit)
    (tail : Bytes) : readKey (writeKey key ++ tail) = .ok (key, tail) := by
  have hshape := key.shape.number_lt
  unfold numberLimit at hlt
  have hn : (UInt64.ofNat (8 * key.number + key.shape.number)).toNat =
      8 * key.number + key.shape.number := by
    rw [UInt64.toNat_ofNat', Nat.mod_eq_of_lt (by omega)]
  have hfits : ¬UInt32.size ≤ 8 * key.number + key.shape.number := by
    show ¬4294967296 ≤ _
    omega
  have hmod : (8 * key.number + key.shape.number) % 8 = key.shape.number := by omega
  have hdiv : (8 * key.number + key.shape.number) / 8 = key.number := by omega
  have hzero : key.number ≠ 0 := by omega
  unfold readKey writeKey
  rw [readVarint_write, ok_bind]
  dsimp only
  rw [hn, if_neg hfits, hmod, Shape.ofNumber?_number, hdiv]
  exact if_neg hzero

/-- A value that can be counted in 64 bits is read back in front of whatever follows it. -/
theorem readValue_write {v : Value} (hshape : v.shape ≠ .eightBytes)
    (hsize : v.write.length < UInt64.size) (tail : Bytes) :
    readValue v.shape (v.write ++ tail) = .ok (v, tail) := by
  cases v with
  | varint n =>
    show readVarint _ >>= _ = _
    rw [Value.write, readVarint_write]
    rfl
  | eightBytes b => exact absurd rfl hshape
  | delimited b =>
    have hlen : (UInt64.ofNat b.length).toNat = b.length := by
      rw [Value.write, List.length_append] at hsize
      rw [UInt64.toNat_ofNat', Nat.mod_eq_of_lt]
      exact Nat.lt_of_le_of_lt (Nat.le_add_left _ _) hsize
    show readVarint _ >>= _ = _
    rw [Value.write, List.append_assoc, readVarint_write, ok_bind]
    show takeBytes _ _ >>= _ = _
    rw [hlen, takeBytes_append]
    rfl
  | fourBytes n =>
    have hlen : (Bytes.ofNatLittle 4 n.toNat).length = 4 := by
      rw [Bytes.ofNatLittle, List.length_reverse, Bytes.length_ofNat]
    have htake := takeBytes_append (Bytes.ofNatLittle 4 n.toNat) tail
    rw [hlen] at htake
    have hnumber : Bytes.toNatLittle (Bytes.ofNatLittle 4 n.toNat) = n.toNat := by
      rw [Bytes.toNatLittle_ofNatLittle]
      exact Nat.mod_eq_of_lt n.toNat_lt
    show takeBytes 4 _ >>= _ = _
    rw [Value.write, htake, ok_bind]
    dsimp only
    rw [hnumber, UInt32.ofNat_toNat]
    rfl

/-! ## Fields -/

/-- The kind has the rule under its number, and the number can be written in a key. -/
structure MessageKind.Knows (kind : MessageKind M) (rule : FieldRule M) : Prop where
  /-- The rule is the one that is found for its number. -/
  found : kind.rules.find? (·.number == rule.number) = some rule
  /-- The number is not zero. -/
  pos : 0 < rule.number
  /-- The number has 29 bits. -/
  lt : rule.number < numberLimit

/-- A written field is read by putting its value into the message. -/
theorem MessageKind.merge_field {kind : MessageKind M} {rule : FieldRule M}
    (hknown : kind.Knows rule) {budget : Nat} {v : Value} (hshape : v.shape = rule.shape)
    (hplain : rule.shape ≠ .eightBytes) (hsize : v.write.length < UInt64.size) {acc next : M}
    (hput : rule.put budget v acc = .ok next) (tail : Bytes) :
    kind.merge budget acc (writeKey ⟨rule.number, rule.shape⟩ ++ (v.write ++ tail)) =
      kind.merge budget next tail := by
  have hkey : readKey (writeKey ⟨rule.number, rule.shape⟩ ++ (v.write ++ tail)) =
      .ok (⟨rule.number, rule.shape⟩, v.write ++ tail) :=
    readKey_writeKey hknown.pos hknown.lt _
  have hfield : kind.readField budget ⟨rule.number, rule.shape⟩ acc (v.write ++ tail) =
      .ok (next, tail) := by
    have hread := readValue_write (hshape ▸ hplain) hsize tail
    rw [hshape] at hread
    unfold MessageKind.readField
    dsimp only
    rw [hknown.found]
    dsimp only
    rw [if_pos rfl, hread]
    dsimp only
    rw [hput]
  -- The matches of `merge` hold the equations that its termination needs, so each one is split.
  conv_lhs => rw [MessageKind.merge]
  split
  · next hempty =>
    have hlt := readKey_length_lt hkey
    rw [List.isEmpty_iff.1 hempty] at hlt
    exact absurd hlt (Nat.not_lt_zero _)
  · split
    · next hk =>
      rw [hkey] at hk
      cases hk
    · next hk =>
      rw [hkey] at hk
      cases hk
      split
      · next hf =>
        rw [hfield] at hf
        cases hf
      · next hf =>
        rw [hfield] at hf
        cases hf
        rfl

/-- The bytes of some values of a field. -/
def FieldRule.writeAll (rule : FieldRule M) (vs : List Value) : Bytes :=
  vs.flatMap fun v => writeKey ⟨rule.number, rule.shape⟩ ++ v.write

/-- No value is longer than the bytes of all. -/
theorem FieldRule.length_write_le {rule : FieldRule M} {vs : List Value} {v : Value} (hv : v ∈ vs) :
    v.write.length ≤ (rule.writeAll vs).length := by
  obtain ⟨before, after, rfl⟩ := List.append_of_mem hv
  simp only [FieldRule.writeAll, List.flatMap_append, List.flatMap_cons, List.length_append]
  omega

/-- Written values of a field are read by putting them into the message in order. -/
theorem MessageKind.merge_writeAll {kind : MessageKind M} {rule : FieldRule M}
    (hknown : kind.Knows rule) (hplain : rule.shape ≠ .eightBytes) {budget : Nat} {vs : List Value}
    (hshape : ∀ v ∈ vs, v.shape = rule.shape) (hsize : (rule.writeAll vs).length < UInt64.size)
    {acc next : M} (hputs : vs.foldlM (fun acc v => rule.put budget v acc) acc = .ok next)
    (tail : Bytes) :
    kind.merge budget acc (rule.writeAll vs ++ tail) = kind.merge budget next tail := by
  induction vs generalizing acc with
  | nil =>
    cases hputs
    rfl
  | cons v rest ih =>
    obtain ⟨hv, hrest⟩ := List.forall_mem_cons.1 hshape
    obtain ⟨mid, hput, hputs⟩ := bind_eq_ok.1 hputs
    have hfirst := Nat.lt_of_le_of_lt (rule.length_write_le List.mem_cons_self) hsize
    have hcons : rule.writeAll (v :: rest) =
        writeKey ⟨rule.number, rule.shape⟩ ++ v.write ++ rule.writeAll rest := List.flatMap_cons
    rw [hcons, List.length_append] at hsize
    rw [hcons, List.append_assoc, List.append_assoc,
      merge_field hknown hv hplain hfirst hput, ih hrest (by omega) hputs]

/-! ## Messages -/

/-- Putting the values that the message `m` holds for the rule into `acc` gives `next`. -/
structure FieldRule.Restores (rule : FieldRule M) (budget : Nat) (m acc next : M) : Prop where
  /-- The values are not written as eight bytes. -/
  plain : rule.shape ≠ .eightBytes
  /-- The values have the shape of the rule. -/
  shaped : ∀ v ∈ rule.held m, v.shape = rule.shape
  /-- The values are put in. -/
  puts : (rule.write m).length < UInt64.size →
    (rule.held m).foldlM (fun acc v => rule.put budget v acc) acc = .ok next

/-- Putting the values that `m` holds for all of the rules into `acc` gives `last`. -/
inductive Fills (budget : Nat) (m : M) : List (FieldRule M) → (acc last : M) → Prop where
  /-- Without rules nothing is put in. -/
  | nil {acc : M} : Fills budget m [] acc acc
  /-- The values of the first rule are put in before the others. -/
  | cons {rule : FieldRule M} {rules : List (FieldRule M)} {acc next last : M}
      (first : rule.Restores budget m acc next) (rest : Fills budget m rules next last) :
      Fills budget m (rule :: rules) acc last

/-- The fields that rules write for a message are read by filling. -/
theorem MessageKind.merge_write {kind : MessageKind M} {budget : Nat} {m acc last : M}
    {rules : List (FieldRule M)} (hknown : ∀ rule ∈ rules, kind.Knows rule)
    (hfills : Fills budget m rules acc last)
    (hsize : (rules.flatMap (·.write m)).length < UInt64.size) :
    kind.merge budget acc (rules.flatMap (·.write m)) = .ok last := by
  induction hfills with
  | nil =>
    rw [List.flatMap_nil, MessageKind.merge]
    rfl
  | @cons rule rules acc next last first rest ih =>
    obtain ⟨hrule, hrules⟩ := List.forall_mem_cons.1 hknown
    rw [List.flatMap_cons, List.length_append] at hsize
    have hwrite : (rule.write m).length < UInt64.size := by omega
    rw [List.flatMap_cons]
    exact (kind.merge_writeAll hrule first.plain first.shaped hwrite (first.puts hwrite) _).trans
      (ih hrules (by omega))

/-- The numbers of the rules differ and can be written in keys. -/
def MessageKind.Numbered (kind : MessageKind M) : Prop :=
  (kind.rules.map (·.number)).Nodup ∧
    ∀ number ∈ kind.rules.map (·.number), 0 < number ∧ number < numberLimit

instance (kind : MessageKind M) : Decidable kind.Numbered :=
  inferInstanceAs (Decidable (_ ∧ _))

/-- Among rules whose numbers differ, each is found by its number. -/
theorem find?_number {rules : List (FieldRule M)} (hnodup : (rules.map (·.number)).Nodup)
    {rule : FieldRule M} (hmem : rule ∈ rules) :
    rules.find? (·.number == rule.number) = some rule := by
  induction rules with
  | nil => cases hmem
  | cons head rest ih =>
    rw [List.map_cons, List.nodup_cons] at hnodup
    rcases List.mem_cons.1 hmem with rfl | hmem
    · exact List.find?_cons_of_pos (beq_self_eq_true _)
    · have hne : head.number ≠ rule.number := by
        intro heq
        exact hnodup.1 (List.mem_map.2 ⟨rule, hmem, heq.symm⟩)
      rw [List.find?_cons_of_neg (by simpa using hne)]
      exact ih hnodup.2 hmem

/-- A kind whose rules are numbered knows all of them. -/
theorem MessageKind.Numbered.knows {kind : MessageKind M} (hnumbered : kind.Numbered) :
    ∀ rule ∈ kind.rules, kind.Knows rule := by
  intro rule hmem
  have hnumber := hnumbered.2 rule.number (List.mem_map.2 ⟨rule, hmem, rfl⟩)
  exact ⟨find?_number hnumbered.1 hmem, hnumber.1, hnumber.2⟩

/-- Messages of the kind are read back from their bytes, if these can be counted in 64 bits,
whenever `depth` messages may stand inside one another. -/
def MessageKind.Faithful (kind : MessageKind M) (depth : Nat) : Prop :=
  ∀ budget, depth ≤ budget → ∀ m, (kind.encode m).length < UInt64.size →
    kind.merge budget kind.empty (kind.encode m) = .ok m

/-- A kind is faithful if the fields of every message fill the empty one. -/
theorem MessageKind.faithful_of_fills {kind : MessageKind M} {depth : Nat}
    (hnumbered : kind.Numbered)
    (hfills : ∀ budget, depth ≤ budget → ∀ m, Fills budget m kind.rules kind.empty m) :
    kind.Faithful depth := by
  intro budget hbudget m hsize
  exact kind.merge_write hnumbered.knows (hfills budget hbudget m) hsize

/-! ## Rules -/

namespace FieldRule.Restores

variable {number : Nat} {name : String} {budget : Nat} {m acc : M}

/-- A rule restores a list of items if it holds a value for each and puts it in as that item. -/
theorem of_items {rule : FieldRule M} {items : List α} (toValue : α → Value) (add : M → α → M)
    (hplain : rule.shape ≠ .eightBytes) (hheld : rule.held m = items.map toValue)
    (hshape : ∀ a, (toValue a).shape = rule.shape)
    (hput : ∀ a, (toValue a).write.length < UInt64.size →
      ∀ acc, rule.put budget (toValue a) acc = .ok (add acc a)) :
    rule.Restores budget m acc (items.foldl add acc) where
  plain := hplain
  shaped := by
    rw [hheld, List.forall_mem_map]
    exact fun a _ => hshape a
  puts := by
    intro hsize
    have hfits : ∀ a ∈ items, (toValue a).write.length < UInt64.size := by
      intro a ha
      have hmem : toValue a ∈ rule.held m := hheld ▸ List.mem_map_of_mem ha
      exact Nat.lt_of_le_of_lt (rule.length_write_le hmem) hsize
    rw [hheld]
    -- The induction is over the items that are left, so what is known of all of them goes.
    clear hheld hsize
    induction items generalizing acc with
    | nil => rfl
    | cons a rest ih =>
      obtain ⟨ha, hrest⟩ := List.forall_mem_cons.1 hfits
      rw [List.map_cons, List.foldlM_cons, hput a ha, ok_bind, ih hrest]
      rfl

/-- An optional item is put in where none was; `replace` puts in whatever the message holds. -/
theorem optional {rule : FieldRule M} (replace : M → Option α → M) {set : M → α → M}
    {o : Option α} (h : rule.Restores budget m acc (o.toList.foldl set acc))
    (habsent : replace acc none = acc) (hset : ∀ a, set acc a = replace acc (some a)) :
    rule.Restores budget m acc (replace acc o) := by
  cases o with
  | none =>
    rw [habsent]
    exact h
  | some a =>
    rw [← hset a]
    exact h

/-- Items are added where none were; `replace` puts in all that the message holds. -/
theorem repeated {rule : FieldRule M} (replace : M → List α → M) {add : M → α → M}
    {items : List α} (h : rule.Restores budget m acc (items.foldl add acc))
    (habsent : replace acc [] = acc)
    (hadd : ∀ l a, add (replace acc l) a = replace acc (l ++ [a])) :
    rule.Restores budget m acc (replace acc items) := by
  have hfold : ∀ l, items.foldl add (replace acc l) = replace acc (l ++ items) := by
    clear h
    induction items with
    | nil =>
      intro l
      rw [List.append_nil]
      rfl
    | cons a rest ih =>
      intro l
      rw [List.foldl_cons, hadd, ih, List.append_assoc]
      rfl
  rw [← habsent, hfold [], habsent] at h
  exact h

/-- An integer is restored if it is read as it is written. -/
theorem integer {ofWord : UInt64 → α} {toWord : α → UInt64} {get : M → Option α}
    {set : M → α → M} (hword : ∀ a, ofWord (toWord a) = a) :
    (FieldRule.integer number name ofWord toWord get set).Restores budget m acc
      ((get m).toList.foldl set acc) := by
  have hplain : Shape.varint ≠ .eightBytes := by decide
  refine of_items (fun a => .varint (toWord a)) set hplain rfl (fun _ => rfl) fun a _ acc => ?_
  show Except.ok (set acc (ofWord (toWord a))) = _
  rw [hword]

/-- A field of 64 bits without sign is restored. -/
theorem word64 {get : M → Option UInt64} {set : M → UInt64 → M} :
    (FieldRule.word64 number name get set).Restores budget m acc ((get m).toList.foldl set acc) :=
  integer fun _ => rfl

/-- A field of 32 bits without sign is restored. -/
theorem word32 {get : M → Option UInt32} {set : M → UInt32 → M} :
    (FieldRule.word32 number name get set).Restores budget m acc ((get m).toList.foldl set acc) :=
  integer UInt32.toUInt32_toUInt64

/-- A field of 64 bits with sign is restored. -/
theorem int64 {get : M → Option Int64} {set : M → Int64 → M} :
    (FieldRule.int64 number name get set).Restores budget m acc ((get m).toList.foldl set acc) :=
  integer fun _ => rfl

/-- A truth value is restored. -/
theorem bool {get : M → Option Bool} {set : M → Bool → M} :
    (FieldRule.bool number name get set).Restores budget m acc ((get m).toList.foldl set acc) :=
  integer fun b => by cases b <;> rfl

/-- Extending the sign of a 32-bit integer does not change its low bits. -/
theorem toInt32_toUInt64 (i : Int32) : i.toInt64.toUInt64.toUInt32.toInt32 = i := by
  rw [← Int32.toBitVec_inj]
  show (i.toBitVec.signExtend 64).setWidth 32 = i.toBitVec
  rw [← BitVec.signExtend_eq_setWidth_of_le _ (by decide)]
  exact congrArg Int32.toBitVec (Int32.toInt32_toInt64 i)

/-- The number of an enumeration is restored. -/
theorem enumeration {get : M → Int32} {set : M → Int32 → M} :
    (FieldRule.enumeration number name get set).Restores budget m acc (set acc (get m)) :=
  integer toInt32_toUInt64

/-- A field of four bytes is restored. -/
theorem fourBytes {get : M → Option UInt32} {set : M → UInt32 → M} :
    (FieldRule.fourBytes number name get set).Restores budget m acc
      ((get m).toList.foldl set acc) := by
  have hplain : Shape.fourBytes ≠ .eightBytes := by decide
  exact of_items .fourBytes set hplain rfl (fun _ => rfl) fun _ _ _ => rfl

/-- A field of bytes is restored. -/
theorem bytes {get : M → Option Bytes} {set : M → Bytes → M} :
    (FieldRule.bytes number name get set).Restores budget m acc ((get m).toList.foldl set acc) :=
  of_items .delimited set Shape.delimited_ne rfl (fun _ => rfl) fun _ _ _ => rfl

/-- Texts are restored. -/
theorem texts {get : M → List String} {add : M → String → M} :
    (FieldRule.texts number name get add).Restores budget m acc ((get m).foldl add acc) := by
  refine of_items (fun s => .delimited (Utf8.encode s)) add Shape.delimited_ne rfl (fun _ => rfl)
    fun s _ acc => ?_
  unfold FieldRule.texts
  dsimp only
  rw [Utf8.decode?_encode]

/-- A text is restored. -/
theorem text {get : M → Option String} {set : M → String → M} :
    (FieldRule.text number name get set).Restores budget m acc ((get m).toList.foldl set acc) :=
  texts

/-- A required text is restored. -/
theorem requiredText {get : M → String} {set : M → String → M} :
    (FieldRule.requiredText number name get set).Restores budget m acc (set acc (get m)) :=
  texts

/-- A message of a faithful kind is merged into the empty one. -/
theorem mergeInner_encode {kind : MessageKind N} {depth : Nat} (hkind : kind.Faithful depth)
    (hdepth : depth < budget) {n : N}
    (hsize : (Value.delimited (kind.encode n)).write.length < UInt64.size) :
    mergeInner kind budget kind.empty (kind.encode n) = .ok n := by
  rw [Value.write, List.length_append] at hsize
  rw [mergeInner, if_neg (by omega)]
  exact hkind (budget - 1) (by omega) n (by omega)

/-- Messages of a faithful kind are restored. -/
theorem messages {kind : MessageKind N} {depth : Nat} (hkind : kind.Faithful depth)
    (hdepth : depth < budget) {get : M → List N} {add : M → N → M} :
    (FieldRule.messages number name kind get add).Restores budget m acc
      ((get m).foldl add acc) := by
  refine of_items (fun n => .delimited (kind.encode n)) add Shape.delimited_ne rfl (fun _ => rfl)
    fun n hsize acc => ?_
  show (mergeInner kind budget kind.empty (kind.encode n)).map (add acc) = _
  rw [mergeInner_encode hkind hdepth hsize]
  rfl

/-- A message of a faithful kind is restored where there was none. -/
theorem message {kind : MessageKind N} {depth : Nat} (hkind : kind.Faithful depth)
    (hdepth : depth < budget) {get : M → Option N} {set : M → N → M} (hget : get acc = none) :
    (FieldRule.message number name kind get set).Restores budget m acc
      ((get m).toList.foldl set acc) where
  plain := Shape.delimited_ne
  shaped := by
    intro v hv
    obtain ⟨n, -, rfl⟩ := List.mem_map.1 hv
    rfl
  puts := by
    intro hsize
    have hheld : (FieldRule.message number name kind get set).held m =
        (get m).toList.map fun n => .delimited (kind.encode n) := rfl
    cases hm : get m with
    | none =>
      rw [hheld, hm]
      rfl
    | some n =>
      have hfits : (Value.delimited (kind.encode n)).write.length < UInt64.size := by
        refine Nat.lt_of_le_of_lt (FieldRule.length_write_le ?_) hsize
        rw [hheld, hm]
        exact List.mem_singleton_self _
      have hput : (FieldRule.message number name kind get set).put budget
          (.delimited (kind.encode n)) acc = .ok (set acc n) := by
        show (mergeInner kind budget ((get acc).getD kind.empty) (kind.encode n)).map (set acc) = _
        rw [hget, Option.getD_none, mergeInner_encode hkind hdepth hfits]
        rfl
      rw [hheld, hm]
      exact bind_eq_ok.2 ⟨set acc n, hput, rfl⟩

end FieldRule.Restores

end SlotUpdate.Wire
