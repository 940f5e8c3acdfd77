import SlotUpdate.Decimal.Literal

/-!
# The grammar of decimal literals

What a decimal literal is, told by what stands one after the other: a sign that may be left out, and
then a word, or digits with at most one point among them and a power of ten that may be left out
(`Spells`). `read?` reads exactly the texts of the grammar, each as the literal that it spells
(`read?_eq_some_iff`).

The parts of a text are found from the left: a sign is told by the first character
(`IsSign.readSign_append`), digits end at the first character that is none, and what is left has to
be a power of ten (`readExponent?_eq_some_iff`).
-/

namespace SlotUpdate.Decimal

/-! ## The grammar -/

/-- A sign that may be left out, and whether it is a minus. -/
inductive IsSign : List Char → Bool → Prop where
  /-- No sign. -/
  | absent : IsSign [] false
  /-- A plus. -/
  | plus : IsSign ['+'] false
  /-- A minus. -/
  | minus : IsSign ['-'] true

/-- The letters are those of a word, in any case. -/
def IsWord (word : String) (letters : List Char) : Prop :=
  letters.map Char.toLower = word.toList

instance (word : String) (letters : List Char) : Decidable (IsWord word letters) :=
  inferInstanceAs (Decidable (_ = _))

/-- The characters are digits. -/
def AreDigits (ds : List Char) : Prop := ∀ d ∈ ds, isDigit d = true

/-- Digits with at most one point, by the digits before and after it. There is at least one. -/
inductive IsMantissa : List Char → List Char → List Char → Prop where
  /-- Digits without a point. -/
  | whole {ws : List Char} (digits : AreDigits ws) (nonempty : ws ≠ []) : IsMantissa ws ws []
  /-- Digits on either side of a point. -/
  | pointed {ws fs : List Char} (before : AreDigits ws) (after : AreDigits fs)
    (nonempty : ws ≠ [] ∨ fs ≠ []) : IsMantissa (ws ++ '.' :: fs) ws fs

/-- A power of ten that may be left out, by its exponent. -/
inductive IsPower : List Char → Int → Prop where
  /-- No power. -/
  | absent : IsPower [] 0
  /-- The mark of a power, and its exponent. -/
  | power {mark : Char} {sign ds : List Char} {negative : Bool} (marks : mark = 'e' ∨ mark = 'E')
    (signs : IsSign sign negative) (digits : AreDigits ds) (nonempty : ds ≠ []) :
    IsPower (mark :: (sign ++ ds)) (if negative then -(digitsValue ds : Int) else digitsValue ds)

/-- The text is a literal, which it spells. -/
inductive Spells : List Char → Literal → Prop where
  /-- What is not a number. -/
  | notANumber {sign letters : List Char} {negative : Bool} (signs : IsSign sign negative)
    (word : IsWord "nan" letters) : Spells (sign ++ letters) .notANumber
  /-- An infinity, in short or in full. -/
  | infinity {sign letters : List Char} {negative : Bool} (signs : IsSign sign negative)
    (word : IsWord "inf" letters ∨ IsWord "infinity" letters) :
    Spells (sign ++ letters) (.infinity negative)
  /-- A number. The digits after the point count for the power. -/
  | number {sign mantissa ws fs power : List Char} {negative : Bool} {exponent : Int}
    (signs : IsSign sign negative) (digits : IsMantissa mantissa ws fs)
    (powers : IsPower power exponent) :
    Spells (sign ++ (mantissa ++ power))
      (.number negative (digitsValue (ws ++ fs)) (exponent - fs.length))

/-- The text is a literal. -/
def IsLiteral (cs : List Char) : Prop := ∃ l, Spells cs l

variable {cs ds sign mantissa ws fs power letters : List Char} {c : Char} {negative : Bool}
  {l : Literal} {exponent : Int}

/-! ## Signs and digits -/

/-- A sign that is read stands in front of what is left. -/
theorem exists_of_readSign {rest : List Char} (h : readSign cs = (negative, rest)) :
    ∃ sign, IsSign sign negative ∧ cs = sign ++ rest := by
  unfold readSign at h
  split at h <;> cases h
  · exact ⟨_, .minus, rfl⟩
  · exact ⟨_, .plus, rfl⟩
  · exact ⟨_, .absent, rfl⟩

/-- A text that does not begin with a sign is left as it is. -/
theorem readSign_of_head (h : ∀ c ∈ cs.head?, c ≠ '+' ∧ c ≠ '-') : readSign cs = (false, cs) := by
  unfold readSign
  split
  · exact absurd rfl (h '-' rfl).2
  · exact absurd rfl (h '+' rfl).1
  · rfl

/-- A sign in front of a text that does not begin with one is read. -/
theorem IsSign.readSign_append (h : IsSign sign negative)
    (hcs : ∀ c ∈ cs.head?, c ≠ '+' ∧ c ≠ '-') : readSign (sign ++ cs) = (negative, cs) := by
  cases h with
  | absent => exact readSign_of_head hcs
  | plus => rfl
  | minus => rfl

/-- A digit is none of the other characters of a number. -/
theorem ne_of_isDigit (h : isDigit c = true) :
    c ≠ '+' ∧ c ≠ '-' ∧ c ≠ '.' ∧ c ≠ 'e' ∧ c ≠ 'E' := by
  refine ⟨?_, ?_, ?_, ?_, ?_⟩ <;> rintro rfl <;> exact absurd h (by decide)

/-- The first of some digits is a digit. -/
theorem AreDigits.head (h : AreDigits ds) : ∀ c ∈ ds.head?, isDigit c = true :=
  fun _ hc => h _ (List.mem_of_head? hc)

/-- Digits are what a text that does not go on with a digit begins with. -/
theorem AreDigits.takeWhile_append (h : AreDigits ds) (hcs : ∀ c ∈ cs.head?, isDigit c = false) :
    (ds ++ cs).takeWhile isDigit = ds ∧ (ds ++ cs).dropWhile isDigit = cs := by
  rw [List.takeWhile_append_of_pos h, List.dropWhile_append_of_pos h]
  cases cs with
  | nil => simp
  | cons c cs =>
    have hc := hcs c rfl
    simp [hc]

/-- Every text begins with digits, perhaps with none, and does not go on with a digit. -/
theorem exists_digits (cs : List Char) : ∃ ds rest, cs = ds ++ rest ∧ AreDigits ds ∧
    ∀ c ∈ rest.head?, isDigit c = false := by
  refine ⟨cs.takeWhile isDigit, cs.dropWhile isDigit, List.takeWhile_append_dropWhile.symm,
    List.all_eq_true.mp List.all_takeWhile, ?_⟩
  intro c hc
  have hnot := List.head?_dropWhile_not isDigit cs
  rw [Option.mem_def.mp hc] at hnot
  simpa using hnot

/-! ## Powers of ten -/

/-- What is read as a power of ten is one. -/
theorem readExponent?_eq_some_iff : readExponent? cs = some exponent ↔ IsPower cs exponent := by
  constructor
  · intro h
    unfold readExponent? at h
    split at h
    · cases h
      exact .absent
    · rename_i mark rest
      rcases hread : readSign rest with ⟨negative, ds⟩
      obtain ⟨sign, hsign, rfl⟩ := exists_of_readSign hread
      simp only [hread] at h
      split at h
      · rename_i hpower
        obtain ⟨hmark, hne, hdigits⟩ := hpower
        cases h
        exact .power hmark hsign (List.all_eq_true.mp hdigits) hne
      · cases h
  · intro h
    cases h with
    | absent => rfl
    | @power mark sign ds negative hmark hsign hdigits hne =>
      have hread := hsign.readSign_append fun c hc =>
        ⟨(ne_of_isDigit (hdigits.head c hc)).1, (ne_of_isDigit (hdigits.head c hc)).2.1⟩
      have hall : ds.all isDigit = true := List.all_eq_true.mpr hdigits
      unfold readExponent?
      simp only [hread, hmark, hne, hall, ne_eq, not_false_eq_true, and_self, if_true]

/-- A power of ten begins with its mark. -/
theorem IsPower.head (h : IsPower power exponent) : ∀ c ∈ power.head?, c = 'e' ∨ c = 'E' := by
  cases h with
  | absent => nofun
  | power hmark =>
    intro c hc
    cases hc
    exact hmark

/-- A power of ten does not begin with a digit or a point. -/
theorem IsPower.head_ne (h : IsPower power exponent) :
    ∀ c ∈ power.head?, isDigit c = false ∧ c ≠ '.' := by
  intro c hc
  rcases h.head c hc with rfl | rfl <;> decide

/-! ## Numbers -/

/-- The digits before a point, or the end of the digits, and what is left. -/
theorem readNumber?_eq (negative : Bool) (hws : AreDigits ws)
    (hcs : ∀ c ∈ cs.head?, isDigit c = false ∧ c ≠ '.') :
    readNumber? negative (ws ++ cs) =
      if ws = [] then none
      else (readExponent? cs).map fun e => .number negative (digitsValue ws) e := by
  obtain ⟨htake, hdrop⟩ := hws.takeWhile_append fun c hc => (hcs c hc).1
  have hpoint : ∀ r, cs = '.' :: r → False := by
    rintro r rfl
    exact (hcs '.' rfl).2 rfl
  unfold readNumber?
  rw [htake, hdrop]
  simp

/-- The digits before and after a point, and what is left. -/
theorem readNumber?_pointed (negative : Bool) (hws : AreDigits ws) (hfs : AreDigits fs)
    (hcs : ∀ c ∈ cs.head?, isDigit c = false) :
    readNumber? negative (ws ++ '.' :: (fs ++ cs)) =
      if ws = [] ∧ fs = [] then none
      else (readExponent? cs).map fun e =>
        .number negative (digitsValue (ws ++ fs)) (e - fs.length) := by
  have hpoint : ∀ c ∈ ('.' :: (fs ++ cs)).head?, isDigit c = false := by
    intro c hc
    cases hc
    decide
  obtain ⟨htake, hdrop⟩ := hws.takeWhile_append hpoint
  obtain ⟨htake', hdrop'⟩ := hfs.takeWhile_append hcs
  unfold readNumber?
  rw [htake, hdrop]
  simp only [htake', hdrop']

/-- Behind a mantissa a power is read, or nothing. -/
theorem IsMantissa.readNumber?_append (h : IsMantissa mantissa ws fs)
    (hcs : ∀ c ∈ cs.head?, isDigit c = false ∧ c ≠ '.') :
    readNumber? negative (mantissa ++ cs) =
      (readExponent? cs).map fun e =>
        .number negative (digitsValue (ws ++ fs)) (e - fs.length) := by
  cases h with
  | whole hdigits hne =>
    rw [readNumber?_eq negative hdigits hcs, if_neg hne]
    simp
  | pointed hws hfs hne =>
    rw [List.append_assoc, List.cons_append,
      readNumber?_pointed negative hws hfs fun c hc => (hcs c hc).1,
      if_neg fun hnone => hne.elim (· hnone.1) (· hnone.2)]

/-- What is read as a number without its sign is a mantissa with a power. -/
theorem readNumber?_eq_some_iff : readNumber? negative cs = some l ↔
    ∃ mantissa ws fs power exponent, cs = mantissa ++ power ∧ IsMantissa mantissa ws fs ∧
      IsPower power exponent ∧
        l = .number negative (digitsValue (ws ++ fs)) (exponent - fs.length) := by
  constructor
  · intro h
    obtain ⟨ws, rest, rfl, hws, hrest⟩ := exists_digits cs
    by_cases hpoint : ∃ r, rest = '.' :: r
    · obtain ⟨r, rfl⟩ := hpoint
      obtain ⟨fs, tail, rfl, hfs, htail⟩ := exists_digits r
      rw [readNumber?_pointed negative hws hfs htail] at h
      split at h
      · cases h
      · rename_i hne
        obtain ⟨e, hread, rfl⟩ := Option.map_eq_some_iff.mp h
        exact ⟨_, ws, fs, tail, e, by simp, 
          .pointed hws hfs (Classical.not_and_iff_not_or_not.mp hne),
          readExponent?_eq_some_iff.mp hread, rfl⟩
    · have hhead : ∀ c ∈ rest.head?, isDigit c = false ∧ c ≠ '.' := by
        intro c hc
        refine ⟨hrest c hc, ?_⟩
        rintro rfl
        obtain ⟨r, hr⟩ := List.head?_eq_some_iff.mp hc
        exact hpoint ⟨r, hr⟩
      rw [readNumber?_eq negative hws hhead] at h
      split at h
      · cases h
      · rename_i hne
        obtain ⟨e, hread, rfl⟩ := Option.map_eq_some_iff.mp h
        exact ⟨ws, ws, [], rest, e, rfl, .whole hws hne, readExponent?_eq_some_iff.mp hread,
          by simp⟩
  · rintro ⟨mantissa, ws, fs, power, exponent, rfl, hmantissa, hpower, rfl⟩
    rw [hmantissa.readNumber?_append hpower.head_ne, readExponent?_eq_some_iff.mpr hpower]
    rfl

/-! ## Words -/

/-- The character begins a number without a sign. -/
def BeginsNumber (c : Char) : Prop := isDigit c = true ∨ c = '.'

/-- A digit has no cases. -/
theorem toLower_of_isDigit (h : isDigit c = true) : c.toLower = c := by
  have hcode : c.val ≤ '9'.val := (Bool.and_eq_true_iff.mp h).2 |> of_decide_eq_true
  unfold Char.toLower
  rw [dif_neg]
  intro hupper
  exact absurd (UInt32.le_trans hupper.1 hcode) (by decide)

/-- What begins a number is no sign, and has no cases. -/
theorem BeginsNumber.spec (h : BeginsNumber c) : (c ≠ '+' ∧ c ≠ '-') ∧ c.toLower = c ∧
    c ≠ 'n' ∧ c ≠ 'i' := by
  rcases h with h | rfl
  · refine ⟨⟨(ne_of_isDigit h).1, (ne_of_isDigit h).2.1⟩, toLower_of_isDigit h, ?_, ?_⟩ <;>
      rintro rfl <;> exact absurd h (by decide)
  · decide

/-- The first letter of a word is that of the word in any case. -/
theorem IsWord.toLower_head {word : String} (h : IsWord word letters) :
    ∀ c ∈ letters.head?, c.toLower ∈ word.toList.head? := by
  intro c hc
  rw [← h, List.head?_map, Option.mem_def.mp hc]
  rfl

/-- A word does not begin with a sign. -/
theorem IsWord.head_ne {word : String} (h : IsWord word letters)
    (hword : word.toList.head? = some 'n' ∨ word.toList.head? = some 'i') :
    ∀ c ∈ letters.head?, c ≠ '+' ∧ c ≠ '-' := by
  intro c hc
  have hletter := Option.mem_def.mp (h.toLower_head c hc)
  constructor <;> rintro rfl <;> rcases hword with hword | hword <;> rw [hword] at hletter <;>
    exact absurd hletter (by decide)

/-- A mantissa is not empty, and begins as a number does. -/
theorem IsMantissa.exists_cons (h : IsMantissa mantissa ws fs) :
    ∃ c rest, mantissa = c :: rest ∧ BeginsNumber c := by
  cases h with
  | whole hdigits hne =>
    obtain ⟨c, rest, rfl⟩ := List.exists_cons_of_ne_nil hne
    exact ⟨c, rest, rfl, .inl (hdigits c List.mem_cons_self)⟩
  | pointed hws _ _ =>
    cases ws with
    | nil => exact ⟨_, _, rfl, .inr rfl⟩
    | cons c ws => exact ⟨c, _, rfl, .inl (hws c List.mem_cons_self)⟩

/-- A number is no word. -/
theorem not_isWord_of_beginsNumber {word : String} (h : BeginsNumber c)
    (hword : word.toList.head? = some 'n' ∨ word.toList.head? = some 'i') (rest : List Char) :
    ¬IsWord word (c :: rest) := by
  intro hword'
  obtain ⟨-, hlower, hn, hi⟩ := h.spec
  have hletter := Option.mem_def.mp (hword'.toLower_head c rfl)
  rw [hlower] at hletter
  rcases hword with hword | hword <;> rw [hword] at hletter
  · exact hn (Option.some.inj hletter).symm
  · exact hi (Option.some.inj hletter).symm

/-! ## Literals -/

/-- Behind its sign a text is read as a word or as a number. -/
theorem read?_of_readSign {body : List Char} (h : readSign cs = (negative, body)) :
    read? cs =
      if IsWord "nan" body then some .notANumber
      else if IsWord "inf" body ∨ IsWord "infinity" body then some (.infinity negative)
      else readNumber? negative body := by
  have hword : ∀ word : String,
      String.ofList (body.map Char.toLower) = word ↔ IsWord word body := by
    intro word
    rw [IsWord, ← String.toList_inj, String.toList_ofList]
  unfold read?
  simp only [h, hword]

/-- Digits behind a sign are read as a number. -/
theorem IsSign.read?_mantissa (hsigns : IsSign sign negative)
    (hmantissa : IsMantissa mantissa ws fs) (cs : List Char) :
    read? (sign ++ (mantissa ++ cs)) = readNumber? negative (mantissa ++ cs) := by
  obtain ⟨c, rest, rfl, hbegins⟩ := hmantissa.exists_cons
  have hhead : ∀ d ∈ (c :: rest ++ cs).head?, d ≠ '+' ∧ d ≠ '-' := by
    rintro d hd
    cases hd
    exact hbegins.spec.1
  have hnan : ¬IsWord "nan" (c :: rest ++ cs) := not_isWord_of_beginsNumber hbegins (.inl rfl) _
  have hinf : ¬(IsWord "inf" (c :: rest ++ cs) ∨ IsWord "infinity" (c :: rest ++ cs)) :=
    not_or.mpr ⟨not_isWord_of_beginsNumber hbegins (.inr rfl) _,
      not_isWord_of_beginsNumber hbegins (.inr rfl) _⟩
  rw [read?_of_readSign (hsigns.readSign_append hhead), if_neg hnan, if_neg hinf]

/-- What a text is read as is the literal that it spells, so there is at most one. -/
theorem read?_eq_some_iff : read? cs = some l ↔ Spells cs l := by
  constructor
  · intro h
    rcases hsign : readSign cs with ⟨negative, body⟩
    obtain ⟨sign, hsigns, hcs⟩ := exists_of_readSign hsign
    rw [read?_of_readSign hsign] at h
    rw [hcs]
    split at h
    · rename_i hnan
      cases h
      exact .notANumber hsigns hnan
    split at h
    · rename_i hinf
      cases h
      exact .infinity hsigns hinf
    · obtain ⟨mantissa, ws, fs, power, exponent, rfl, hmantissa, hpower, rfl⟩ :=
        readNumber?_eq_some_iff.mp h
      exact .number hsigns hmantissa hpower
  · intro h
    cases h with
    | notANumber hsigns hnan =>
      rw [read?_of_readSign (hsigns.readSign_append (hnan.head_ne (.inl rfl))), if_pos hnan]
    | infinity hsigns hinf =>
      have hhead := hinf.elim (fun h => h.head_ne (.inr rfl)) (fun h => h.head_ne (.inr rfl))
      have hnan : ¬IsWord "nan" _ := fun hnan => by
        have hlength := congrArg List.length hnan
        rcases hinf with hinf | hinf
        · exact absurd (hnan.symm.trans hinf) (by decide)
        · exact absurd (hnan.symm.trans hinf) (by decide)
      rw [read?_of_readSign (hsigns.readSign_append hhead), if_neg hnan, if_pos hinf]
    | number hsigns hmantissa hpower =>
      rw [hsigns.read?_mantissa hmantissa]
      exact readNumber?_eq_some_iff.mpr ⟨_, _, _, _, _, rfl, hmantissa, hpower, rfl⟩

/-- A text is a literal exactly if it can be read. -/
theorem isLiteral_iff : IsLiteral cs ↔ (read? cs).isSome = true := by
  rw [Option.isSome_iff_exists]
  exact exists_congr fun _ => read?_eq_some_iff.symm

/-- Behind the sign and the digits of a number only a power goes on with it. -/
theorem isLiteral_mantissa_iff (hsigns : IsSign sign negative)
    (hmantissa : IsMantissa mantissa ws fs)
    (hcs : ∀ c ∈ cs.head?, isDigit c = false ∧ c ≠ '.') :
    IsLiteral (sign ++ (mantissa ++ cs)) ↔ ∃ exponent, IsPower cs exponent := by
  constructor
  · intro h
    rw [isLiteral_iff, hsigns.read?_mantissa hmantissa, hmantissa.readNumber?_append hcs,
      Option.isSome_map] at h
    obtain ⟨exponent, hread⟩ := Option.isSome_iff_exists.mp h
    exact ⟨exponent, readExponent?_eq_some_iff.mp hread⟩
  · rintro ⟨exponent, hpower⟩
    exact ⟨_, .number hsigns hmantissa hpower⟩

/-- A literal is not empty. -/
theorem IsLiteral.ne_nil (h : IsLiteral cs) : cs ≠ [] := by
  rintro rfl
  exact absurd (isLiteral_iff.mp h) (by decide)

/-! ## Characters of literals -/

/-- Every character of the text is one of the ASCII characters from the plus to the letter z. -/
def IsPlain (cs : List Char) : Prop := ∀ c ∈ cs, '+' ≤ c ∧ c ≤ 'z'

instance (cs : List Char) : Decidable (IsPlain cs) :=
  List.decidableBAll (fun c => '+' ≤ c ∧ c ≤ 'z') cs

/-- A character of a plain text is one byte long. -/
theorem IsPlain.utf8Size_eq (h : IsPlain cs) (hc : c ∈ cs) : c.utf8Size = 1 :=
  Char.utf8Size_eq_one_iff.mpr (UInt32.le_trans (h c hc).2 (by decide))

/-- Plain texts one after the other are plain. -/
theorem IsPlain.append {ds : List Char} (hcs : IsPlain cs) (hds : IsPlain ds) :
    IsPlain (cs ++ ds) := List.forall_mem_append.mpr ⟨hcs, hds⟩

/-- A sign is plain. -/
theorem IsSign.isPlain (h : IsSign sign negative) : IsPlain sign := by
  cases h <;> decide

/-- Digits are plain. -/
theorem AreDigits.isPlain (h : AreDigits ds) : IsPlain ds := by
  intro d hd
  obtain ⟨hlow, hhigh⟩ := Bool.and_eq_true_iff.mp (h d hd)
  exact ⟨UInt32.le_trans (by decide) (of_decide_eq_true hlow),
    UInt32.le_trans (of_decide_eq_true hhigh) (by decide)⟩

/-- The letters of a plain word are plain in any case. -/
theorem IsWord.isPlain {word : String} (h : IsWord word letters) (hword : IsPlain word.toList) :
    IsPlain letters := by
  intro c hc
  have hlower : c.toLower ∈ word.toList := h ▸ List.mem_map_of_mem hc
  have hplain := hword _ hlower
  unfold Char.toLower at hplain
  split at hplain
  · rename_i hupper
    exact ⟨UInt32.le_trans (by decide) hupper.1, UInt32.le_trans hupper.2 (by decide)⟩
  · exact hplain

/-- A mantissa is plain. -/
theorem IsMantissa.isPlain (h : IsMantissa mantissa ws fs) : IsPlain mantissa := by
  cases h with
  | whole hdigits => exact hdigits.isPlain
  | pointed hws hfs =>
    exact hws.isPlain.append (List.forall_mem_cons.mpr ⟨by decide, hfs.isPlain⟩)

/-- A power is plain. -/
theorem IsPower.isPlain (h : IsPower power exponent) : IsPlain power := by
  cases h with
  | absent => nofun
  | power hmark hsign hdigits =>
    refine List.forall_mem_cons.mpr ⟨?_, hsign.isPlain.append hdigits.isPlain⟩
    rcases hmark with rfl | rfl <;> decide

/-- A literal is plain. -/
theorem Spells.isPlain (h : Spells cs l) : IsPlain cs := by
  cases h with
  | notANumber hsigns hnan => exact hsigns.isPlain.append (hnan.isPlain (by decide))
  | infinity hsigns hinf =>
    refine hsigns.isPlain.append ?_
    rcases hinf with hinf | hinf <;> exact hinf.isPlain (by decide)
  | number hsigns hmantissa hpower =>
    exact hsigns.isPlain.append (hmantissa.isPlain.append hpower.isPlain)

end SlotUpdate.Decimal
