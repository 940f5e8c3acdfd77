import SlotUpdate.Proofs.Decimal.Stages
import SlotUpdate.Text.Utf8

/-!
# The longest literal at the front of a text

A text may begin with several literals, of which the longest counts that does not have too many
bytes (`IsLongest`). There is at most one (`Finds.unique`), so it does not matter how it is found:

* from the left, by one look at each character (`Stage.munch`, `finds_munch`);
* from the right, by trying one beginning after the other from the longest to the shortest
  (`fromLast?`). Beginnings are cut by characters or by bytes; a cut by bytes is passed over if it
  goes through a character (`cutAt?`).

A beginning of a text that is a literal has a byte for each character, so both cuts agree.
-/

namespace SlotUpdate.Decimal

variable {P : List Char → Prop} {room n k : Nat} {text p q cs : List Char} {c : Char} {s : Stage}
  {l : Literal}

/-! ## Bytes -/

/-- The number of bytes that characters are written as. -/
def byteCount (cs : List Char) : Nat := (Utf8.encode (String.ofList cs)).length

/-- Nothing has no bytes. -/
@[simp]
theorem byteCount_nil : byteCount [] = 0 := rfl

/-- The bytes of the first character and those of the others are the bytes. -/
@[simp]
theorem byteCount_cons (c : Char) (cs : List Char) :
    byteCount (c :: cs) = c.utf8Size + byteCount cs := by
  unfold byteCount Utf8.encode
  rw [String.toList_ofList, String.toList_ofList, List.flatMap_cons, List.length_append,
    String.length_utf8EncodeChar]

/-- There are no more characters than bytes. -/
theorem length_le_byteCount (cs : List Char) : cs.length ≤ byteCount cs := by
  induction cs with
  | nil => exact Nat.le_refl 0
  | cons c cs ih =>
    have hpos := c.utf8Size_pos
    rw [List.length_cons, byteCount_cons]
    omega

/-- A plain text has a byte for each character. -/
theorem IsPlain.byteCount_eq (h : IsPlain cs) : byteCount cs = cs.length := by
  induction cs with
  | nil => rfl
  | cons c cs ih =>
    obtain ⟨-, hcs⟩ := List.forall_mem_cons.mp h
    rw [byteCount_cons, h.utf8Size_eq List.mem_cons_self, ih hcs, List.length_cons, Nat.add_comm]

/-! ## Longest beginnings -/

/-- The longest of the beginnings of a text for which something holds and that do not have too many
bytes. -/
structure IsLongest (P : List Char → Prop) (room : Nat) (text p : List Char) : Prop where
  /-- The text begins with it. -/
  begins : p <+: text
  /-- It does not have too many bytes. -/
  fits : byteCount p ≤ room
  /-- It holds. -/
  holds : P p
  /-- No other one is longer. -/
  longest : ∀ q, q <+: text → byteCount q ≤ room → P q → q.length ≤ p.length

/-- What is found is the longest beginning, and nothing if there is none. -/
def Finds (P : List Char → Prop) (room : Nat) (text : List Char) : Option (List Char) → Prop
  | some p => IsLongest P room text p
  | none => ∀ q, q <+: text → byteCount q ≤ room → ¬P q

/-- There is one longest beginning. -/
theorem IsLongest.unique (hp : IsLongest P room text p) (hq : IsLongest P room text q) : p = q := by
  have hle := hq.longest p hp.begins hp.fits hp.holds
  have hge := hp.longest q hq.begins hq.fits hq.holds
  exact (List.prefix_of_prefix_length_le hp.begins hq.begins hle).eq_of_length
    (Nat.le_antisymm hle hge)

/-- There is one thing to be found. -/
theorem Finds.unique {found found' : Option (List Char)} (h : Finds P room text found)
    (h' : Finds P room text found') : found = found' := by
  cases found <;> cases found'
  · rfl
  · exact absurd h'.holds (h _ h'.begins h'.fits)
  · exact absurd h.holds (h' _ h.begins h.fits)
  · exact congrArg some (IsLongest.unique h h')

/-! ## From the left -/

/-- What is found behind a character, with the character. If nothing is, the character may be all
there is. -/
def Stage.behind (t : Stage) (c : Char) : Option (List Char) → Option (List Char)
  | some p => some (c :: p)
  | none => if t.isEnd then some [c] else none

/-- The longest beginning of a text that leads from a stage to an end and does not have too many
bytes. Characters are looked at up to the first that goes on with no literal. -/
def Stage.munch : Stage → Nat → List Char → Option (List Char)
  | _, _, [] => none
  | s, room, c :: cs =>
    if c.utf8Size ≤ room then
      match s.next c with
      | none => none
      | some t => t.behind c (t.munch (room - c.utf8Size) cs)
    else none

/-- The characters lead from a stage to an end, and there are some. -/
def Stage.Leads (s : Stage) (cs : List Char) : Prop := cs ≠ [] ∧ s.accepts cs = true

/-- The characters behind the first one lead from the next stage, or there are none and the next
stage is an end. -/
theorem Stage.leads_cons : s.Leads (c :: cs) ↔
    ∃ t, s.next c = some t ∧ (t.Leads cs ∨ cs = [] ∧ t.isEnd = true) := by
  unfold Leads
  rw [accepts]
  cases s.next c with
  | none => simp
  | some t => cases cs <;> simp [accepts]

/-- A beginning that leads to an end has the first character, for which there is room, and leads on
from the next stage. -/
theorem Stage.Leads.exists_cons (h : s.Leads q) (hq : q <+: c :: cs) (hfits : byteCount q ≤ room) :
    ∃ r t, q = c :: r ∧ r <+: cs ∧ c.utf8Size ≤ room ∧ byteCount r ≤ room - c.utf8Size ∧
      s.next c = some t ∧ (t.Leads r ∨ r = [] ∧ t.isEnd = true) := by
  obtain ⟨d, r, rfl⟩ := List.exists_cons_of_ne_nil h.1
  obtain ⟨rfl, hr⟩ := List.cons_prefix_cons.mp hq
  rw [byteCount_cons] at hfits
  obtain ⟨t, hnext, hrest⟩ := leads_cons.mp h
  exact ⟨r, t, rfl, hr, by omega, by omega, hnext, hrest⟩

/-- What is found behind the first character is found with it. -/
theorem Stage.finds_cons {t : Stage} {found : Option (List Char)} (hroom : c.utf8Size ≤ room)
    (hnext : s.next c = some t) (h : Finds t.Leads (room - c.utf8Size) cs found) :
    Finds s.Leads room (c :: cs) (t.behind c found) := by
  have hfirst : ∀ q, q <+: c :: cs → byteCount q ≤ room → s.Leads q → ∃ r, q = c :: r ∧
      r <+: cs ∧ byteCount r ≤ room - c.utf8Size ∧ (t.Leads r ∨ r = [] ∧ t.isEnd = true) := by
    intro q hq hfits hleads
    obtain ⟨r, t', rfl, hr, -, hfits', hnext', hrest⟩ := hleads.exists_cons hq hfits
    obtain rfl : t = t' := Option.some.inj (hnext.symm.trans hnext')
    exact ⟨r, rfl, hr, hfits', hrest⟩
  cases found with
  | some p =>
    have hfits := h.fits
    refine ⟨List.cons_prefix_cons.mpr ⟨rfl, h.begins⟩, ?_, leads_cons.mpr ⟨t, hnext, .inl h.holds⟩,
      ?_⟩
    · rw [byteCount_cons]
      omega
    · intro q hq hfits hleads
      obtain ⟨r, rfl, hr, hfits', hleads' | ⟨rfl, -⟩⟩ := hfirst q hq hfits hleads
      · exact Nat.succ_le_succ (h.longest r hr hfits' hleads')
      · exact Nat.succ_le_succ (Nat.zero_le _)
  | none =>
    -- Nothing leads on behind the first character.
    have honly : ∀ q, q <+: c :: cs → byteCount q ≤ room → s.Leads q →
        q = [c] ∧ t.isEnd = true := by
      intro q hq hfits hleads
      obtain ⟨r, rfl, hr, hfits', hleads' | ⟨rfl, hend⟩⟩ := hfirst q hq hfits hleads
      · exact absurd hleads' (h r hr hfits')
      · exact ⟨rfl, hend⟩
    rw [behind]
    split
    case isTrue hend =>
      refine ⟨List.cons_prefix_cons.mpr ⟨rfl, List.nil_prefix⟩, ?_,
        leads_cons.mpr ⟨t, hnext, .inr ⟨rfl, hend⟩⟩, ?_⟩
      · rw [byteCount_cons, byteCount_nil]
        exact hroom
      · intro q hq hfits hleads
        exact Nat.le_of_eq (congrArg List.length (honly q hq hfits hleads).1)
    case isFalse hend =>
      exact fun q hq hfits hleads => hend (honly q hq hfits hleads).2

/-- From the left the longest beginning is found that leads to an end. -/
theorem Stage.finds_munch (s : Stage) (room : Nat) (text : List Char) :
    Finds s.Leads room text (s.munch room text) := by
  induction text generalizing s room with
  | nil =>
    intro q hq _ hleads
    exact hleads.1 (List.prefix_nil.mp hq)
  | cons c cs ih =>
    rw [munch]
    split
    case isFalse hroom =>
      intro q hq hfits hleads
      obtain ⟨_, _, -, -, hroom', -⟩ := hleads.exists_cons hq hfits
      exact hroom hroom'
    case isTrue hroom =>
      cases hnext : s.next c with
      | none =>
        intro q hq hfits hleads
        obtain ⟨_, _, -, -, -, -, hnext', -⟩ := hleads.exists_cons hq hfits
        rw [hnext] at hnext'
        cases hnext'
      | some t => exact finds_cons hroom hnext (ih t (room - c.utf8Size))

/-- The texts that lead from the start are the literals. -/
theorem leads_start : Stage.start.Leads = IsLiteral := by
  funext cs
  rw [Stage.Leads, Stage.accepts_start, ← isLiteral_iff, eq_iff_iff]
  exact ⟨And.right, fun h => ⟨h.ne_nil, h⟩⟩

/-- From the left the longest literal is found. -/
theorem finds_munch (room : Nat) (text : List Char) :
    Finds IsLiteral room text (Stage.start.munch room text) :=
  leads_start ▸ Stage.start.finds_munch room text

/-! ## From the right -/

/-- The literal that is the last cut of a text, or the last but one, and so on. -/
def fromLast? (cut : Nat → Option (List Char)) : Nat → Option Literal
  | 0 => none
  | n + 1 => match (cut (n + 1)).bind read? with
    | some l => some l
    | none => fromLast? cut n

/-- The beginning of a text that has exactly so many bytes. There is none if it would end inside of
a character. -/
def cutAt? : List Char → Nat → Option (List Char)
  | _, 0 => some []
  | [], _ + 1 => none
  | c :: cs, n + 1 =>
    if c.utf8Size ≤ n + 1 then (cutAt? cs (n + 1 - c.utf8Size)).map (c :: ·) else none

/-- What is found from the right is a literal at a cut, and there is none at a later cut. -/
theorem fromLast?_eq_some {cut : Nat → Option (List Char)} (h : fromLast? cut n = some l) :
    ∃ k p, 0 < k ∧ k ≤ n ∧ cut k = some p ∧ Spells p l ∧
      ∀ j, k < j → j ≤ n → ∀ q, cut j = some q → ¬IsLiteral q := by
  induction n with
  | zero => cases h
  | succ n ih =>
    rw [fromLast?] at h
    split at h
    · rename_i l' hbind
      obtain ⟨p, hcut, hread⟩ := Option.bind_eq_some_iff.mp hbind
      cases h
      exact ⟨n + 1, p, by omega, by omega, hcut, read?_eq_some_iff.mp hread, by omega⟩
    · rename_i hbind
      obtain ⟨k, p, hpos, hk, hcut, hspells, hlater⟩ := ih h
      refine ⟨k, p, hpos, by omega, hcut, hspells, ?_⟩
      intro j hkj hjn q hq
      rcases Nat.lt_or_ge j (n + 1) with hlt | hge
      · exact hlater j hkj (by omega) q hq
      · obtain rfl : j = n + 1 := by omega
        rw [hq, Option.bind_some] at hbind
        rw [isLiteral_iff, hbind]
        exact Bool.false_ne_true

/-- If nothing is found from the right there is no literal at a cut. -/
theorem fromLast?_eq_none {cut : Nat → Option (List Char)} (h : fromLast? cut n = none) :
    ∀ j, 0 < j → j ≤ n → ∀ q, cut j = some q → ¬IsLiteral q := by
  induction n with
  | zero => omega
  | succ n ih =>
    rw [fromLast?] at h
    split at h
    · cases h
    · rename_i hbind
      intro j hpos hjn q hq
      rcases Nat.lt_or_ge j (n + 1) with hlt | hge
      · exact ih h j hpos (by omega) q hq
      · obtain rfl : j = n + 1 := by omega
        rw [hq, Option.bind_some] at hbind
        rw [isLiteral_iff, hbind]
        exact Bool.false_ne_true

/-- A cut by bytes is a beginning with so many bytes. -/
theorem cutAt?_eq_some_iff : cutAt? text n = some p ↔ p <+: text ∧ byteCount p = n := by
  induction text generalizing n p with
  | nil =>
    cases n with
    | zero =>
      rw [cutAt?, Option.some.injEq, List.prefix_nil]
      exact ⟨fun h => ⟨h.symm, h ▸ rfl⟩, fun h => h.1.symm⟩
    | succ n =>
      rw [cutAt?, List.prefix_nil]
      refine ⟨nofun, ?_⟩
      rintro ⟨rfl, hbytes⟩
      cases hbytes
  | cons c cs ih =>
    have hpos := c.utf8Size_pos
    cases n with
    | zero =>
      rw [cutAt?, Option.some.injEq]
      constructor
      · rintro rfl
        exact ⟨List.nil_prefix, rfl⟩
      · rintro ⟨-, hbytes⟩
        have hlength := length_le_byteCount p
        exact (List.length_eq_zero_iff.mp (by omega)).symm
    | succ n =>
      rw [cutAt?]
      cases p with
      | nil =>
        refine ⟨fun h => ?_, fun h => nomatch h.2⟩
        split at h
        · obtain ⟨r, -, hr⟩ := Option.map_eq_some_iff.mp h
          cases hr
        · cases h
      | cons d r =>
        rw [List.cons_prefix_cons, byteCount_cons]
        split
        case isTrue hsize =>
          rw [Option.map_eq_some_iff]
          constructor
          · rintro ⟨r', hr', hcons⟩
            cases hcons
            obtain ⟨hr, hbytes⟩ := ih.mp hr'
            exact ⟨⟨rfl, hr⟩, by omega⟩
          · rintro ⟨⟨rfl, hr⟩, hbytes⟩
            exact ⟨r, ih.mpr ⟨hr, by omega⟩, rfl⟩
        case isFalse hsize =>
          refine ⟨nofun, ?_⟩
          rintro ⟨⟨rfl, -⟩, hbytes⟩
          omega

/-- If the cuts are the beginnings of a text by their lengths, at least those that are literals,
the same is found from the right as from the left. -/
theorem fromLast?_eq_munch {cut : Nat → Option (List Char)}
    (hcut : ∀ q, IsLiteral q → ∀ k, k ≤ n → (cut k = some q ↔ q <+: text ∧ q.length = k))
    (hroom : n ≤ room) (hfull : ∀ q, q <+: text → byteCount q ≤ room → q.length ≤ n) :
    fromLast? cut n = (Stage.start.munch room text).bind read? := by
  have hfound := finds_munch room text
  cases hmunch : Stage.start.munch room text with
  | none =>
    rw [hmunch] at hfound
    rw [Option.bind_none, Option.eq_none_iff_forall_ne_some]
    intro l hl
    obtain ⟨k, p, -, hk, hp, hspells, -⟩ := fromLast?_eq_some hl
    obtain ⟨hbegins, hlength⟩ := (hcut p ⟨l, hspells⟩ k hk).mp hp
    refine hfound p hbegins ?_ ⟨l, hspells⟩
    rw [hspells.isPlain.byteCount_eq]
    omega
  | some p =>
    rw [hmunch] at hfound
    have hpn := hfull p hfound.begins hfound.fits
    have hp := (hcut p hfound.holds p.length hpn).mpr ⟨hfound.begins, rfl⟩
    rw [Option.bind_some]
    cases hlast : fromLast? cut n with
    | none =>
      have hpos := List.length_pos_iff.mpr hfound.holds.ne_nil
      exact absurd hfound.holds (fromLast?_eq_none hlast p.length hpos hpn p hp)
    | some l =>
      obtain ⟨k, q, -, hk, hq, hspells, hlater⟩ := fromLast?_eq_some hlast
      obtain ⟨hbegins, hlength⟩ := (hcut q ⟨l, hspells⟩ k hk).mp hq
      have hfits : byteCount q ≤ room := by
        rw [hspells.isPlain.byteCount_eq]
        omega
      have hle := hfound.longest q hbegins hfits ⟨l, hspells⟩
      -- The longest literal is not cut later, and none is cut earlier than it is.
      have hge : p.length ≤ k :=
        Nat.le_of_not_lt fun hlt => hlater p.length hlt hpn p hp hfound.holds
      have hsame : q = p := (List.prefix_of_prefix_length_le hbegins hfound.begins hle).eq_of_length
        (by omega)
      rw [← read?_eq_some_iff.mpr hspells, hsame]

/-- Cutting by bytes the longest literal is found. -/
theorem fromLast?_cutAt? (room : Nat) (text : List Char) :
    fromLast? (cutAt? text) (min (byteCount text) room) =
      (Stage.start.munch room text).bind read? := by
  refine fromLast?_eq_munch ?_ (Nat.min_le_right _ _) ?_
  · rintro q ⟨l, hspells⟩ k -
    rw [cutAt?_eq_some_iff, hspells.isPlain.byteCount_eq]
  · intro q hq hfits
    have hle := hq.length_le
    have hbytes := length_le_byteCount q
    have hbytes' := length_le_byteCount text
    omega

/-- Cutting by characters the longest literal is found. -/
theorem fromLast?_take (room : Nat) (text : List Char) :
    fromLast? (fun k => some (text.take k)) (min text.length room) =
      (Stage.start.munch room text).bind read? := by
  refine fromLast?_eq_munch ?_ (Nat.min_le_right _ _) ?_
  · intro q _ k hk
    rw [Option.some.injEq]
    constructor
    · rintro rfl
      exact ⟨List.take_prefix k text, List.length_take_of_le (by omega)⟩
    · rintro ⟨hq, rfl⟩
      exact (List.prefix_iff_eq_take.mp hq).symm
  · intro q hq hfits
    have hle := hq.length_le
    have hbytes := length_le_byteCount q
    omega

end SlotUpdate.Decimal
