import SlotUpdate.Proofs.Decimal.Grammar

/-!
# Reading literals from left to right

A reader that looks at each character once goes through a few stages, from the start of a literal
over its sign and its digits to its power of ten (`Stage.next`). Some stages are the end of a
literal, others are only on the way to one: after `1e` there is no literal, although there is one
before it and may be one behind it.

The texts that lead from the start to an end are exactly the literals (`accepts_start`). What may
follow at a stage is told from the last stage back to the first one: digits of a power, a power,
the digits after a point, and so on.
-/

namespace SlotUpdate.Decimal

/-! ## Stages -/

/-- Where a reader stands in a literal. -/
inductive Stage where
  /-- In front of it. -/
  | start
  /-- Behind its sign. -/
  | signed
  /-- In a word, behind these letters in lower case. -/
  | word (letters : List Char)
  /-- In the digits before a point. -/
  | whole
  /-- Behind a point without digits before it. -/
  | lonePoint
  /-- Behind a point and a digit. -/
  | fraction
  /-- Behind the mark of a power. -/
  | mark
  /-- Behind the sign of a power. -/
  | markSigned
  /-- In the digits of a power. -/
  | power
  deriving DecidableEq

namespace Stage

/-- The stage behind the first letters of a word. -/
def ofLetters (letters : List Char) : Option Stage :=
  if letters <+: "nan".toList ∨ letters <+: "infinity".toList then some (word letters) else none

/-- The stage behind the first character after a sign. -/
def afterSign (c : Char) : Option Stage :=
  if isDigit c then some whole
  else if c = '.' then some lonePoint
  else ofLetters [c.toLower]

/-- The stage behind the mark of a power. -/
def afterDigits (c : Char) : Option Stage :=
  if c = 'e' ∨ c = 'E' then some mark else none

/-- The next stage, if the character goes on with a literal. -/
def next : Stage → Char → Option Stage
  | start, c => if c = '+' ∨ c = '-' then some signed else afterSign c
  | signed, c => afterSign c
  | word letters, c => ofLetters (letters ++ [c.toLower])
  | whole, c =>
    if isDigit c then some whole else if c = '.' then some fraction else afterDigits c
  | lonePoint, c => if isDigit c then some fraction else none
  | fraction, c => if isDigit c then some fraction else afterDigits c
  | mark, c =>
    if c = '+' ∨ c = '-' then some markSigned else if isDigit c then some power else none
  | markSigned, c | power, c => if isDigit c then some power else none

/-- Whether a literal may end here. -/
def isEnd : Stage → Bool
  | word letters => letters = "nan".toList ∨ letters = "inf".toList ∨ letters = "infinity".toList
  | whole | fraction | power => true
  | start | signed | lonePoint | mark | markSigned => false

/-- Whether a text leads from a stage to an end. -/
def accepts (s : Stage) : List Char → Bool
  | [] => s.isEnd
  | c :: cs => match s.next c with
    | none => false
    | some s => s.accepts cs

variable {s t : Stage} {c : Char} {cs ds fs letters : List Char} {negative : Bool}

/-- A text is accepted if the next stage accepts what is left. -/
theorem accepts_cons (h : s.next c = some t) : s.accepts (c :: cs) = t.accepts cs := by
  rw [accepts, h]

/-- A text that does not go on with a literal is not accepted. -/
theorem accepts_cons_none (h : s.next c = none) : s.accepts (c :: cs) = false := by
  rw [accepts, h]

/-! ## Numbers -/

/-- Digits that lead nowhere else can be passed over. -/
theorem accepts_digits (h : ∀ d, isDigit d = true → s.next d = some s) (hds : AreDigits ds) :
    s.accepts (ds ++ cs) = s.accepts cs := by
  induction ds with
  | nil => rfl
  | cons d ds ih =>
    obtain ⟨hd, hrest⟩ := List.forall_mem_cons.mp hds
    rw [List.cons_append, accepts_cons (h d hd), ih hrest]

/-- In the digits of a power only digits follow. -/
theorem accepts_power (cs : List Char) : power.accepts cs = cs.all isDigit := by
  induction cs with
  | nil => rfl
  | cons c cs ih =>
    rw [List.all_cons]
    by_cases hc : isDigit c = true
    · rw [accepts_cons (s := power) (if_pos hc), ih, hc, Bool.true_and]
    · rw [accepts_cons_none (s := power) (if_neg hc), Bool.eq_false_iff.mpr hc, Bool.false_and]

/-- Behind the sign of a power one digit or more follow. -/
theorem accepts_markSigned (cs : List Char) :
    markSigned.accepts cs = (decide (cs ≠ []) && cs.all isDigit) := by
  cases cs with
  | nil => rfl
  | cons c cs =>
    by_cases hc : isDigit c = true
    · rw [accepts_cons (s := markSigned) (if_pos hc), accepts_power, List.all_cons, hc]
      rfl
    · rw [accepts_cons_none (s := markSigned) (if_neg hc), List.all_cons, Bool.eq_false_iff.mpr hc,
        Bool.false_and, Bool.and_false]

/-- Behind the mark of a power a sign may follow. -/
theorem accepts_mark (cs : List Char) :
    mark.accepts cs = (decide ((readSign cs).2 ≠ []) && (readSign cs).2.all isDigit) := by
  cases cs with
  | nil => rfl
  | cons c cs =>
    by_cases hsign : c = '+' ∨ c = '-'
    · have hread : (readSign (c :: cs)).2 = cs := by rcases hsign with rfl | rfl <;> rfl
      rw [accepts_cons (s := mark) (if_pos hsign), accepts_markSigned, hread]
    · have hread : readSign (c :: cs) = (false, c :: cs) := by
        apply readSign_of_head
        rintro d hd
        cases hd
        exact not_or.mp hsign
      rw [hread, ← accepts_markSigned]
      simp only [accepts, next, if_neg hsign]

/-- At the end of the digits a power may follow. -/
theorem accepts_of_afterDigits (hend : s.isEnd = true)
    (h : ∀ c ∈ cs.head?, s.next c = afterDigits c) :
    s.accepts cs = (readExponent? cs).isSome := by
  cases cs with
  | nil => rw [accepts, hend, readExponent?, Option.isSome_some]
  | cons c cs =>
    have hnext := h c rfl
    unfold readExponent?
    by_cases hmark : c = 'e' ∨ c = 'E'
    · rw [accepts_cons (hnext.trans (if_pos hmark)), accepts_mark]
      simp only [hmark, true_and]
      split <;> simp_all
    · rw [accepts_cons_none (hnext.trans (if_neg hmark))]
      simp [hmark]

/-- Behind a point and a digit more digits and a power may follow. -/
theorem accepts_fraction (hfs : AreDigits fs) (hcs : ∀ c ∈ cs.head?, isDigit c = false) :
    fraction.accepts (fs ++ cs) = (readExponent? cs).isSome := by
  rw [accepts_digits (s := fraction) (fun _ hd => if_pos hd) hfs]
  refine accepts_of_afterDigits rfl fun c hc => ?_
  simp [next, hcs c hc]

/-- Behind a first digit the rest of a number follows. -/
theorem accepts_whole (hc : isDigit c = true) (cs : List Char) (negative : Bool) :
    whole.accepts cs = (readNumber? negative (c :: cs)).isSome := by
  obtain ⟨ds, rest, rfl, hds, hrest⟩ := exists_digits cs
  have hws : AreDigits (c :: ds) := List.forall_mem_cons.mpr ⟨hc, hds⟩
  rw [accepts_digits (s := whole) (fun _ hd => if_pos hd) hds, ← List.cons_append]
  by_cases hpoint : ∃ r, rest = '.' :: r
  · obtain ⟨r, rfl⟩ := hpoint
    obtain ⟨fs, tail, rfl, hfs, htail⟩ := exists_digits r
    rw [accepts_cons rfl, accepts_fraction hfs htail, readNumber?_pointed negative hws hfs htail,
      if_neg (by simp), Option.isSome_map]
  · have hhead : ∀ d ∈ rest.head?, isDigit d = false ∧ d ≠ '.' := by
      intro d hd
      refine ⟨hrest d hd, ?_⟩
      rintro rfl
      obtain ⟨r, hr⟩ := List.head?_eq_some_iff.mp hd
      exact hpoint ⟨r, hr⟩
    rw [readNumber?_eq negative hws hhead, if_neg (List.cons_ne_nil c ds), Option.isSome_map]
    refine accepts_of_afterDigits rfl fun d hd => ?_
    simp [next, hhead d hd]

/-- Behind a point without digits before it digits have to follow. -/
theorem accepts_lonePoint (cs : List Char) (negative : Bool) :
    lonePoint.accepts cs = (readNumber? negative ('.' :: cs)).isSome := by
  obtain ⟨fs, tail, rfl, hfs, htail⟩ := exists_digits cs
  have hnone : AreDigits [] := List.forall_mem_nil _
  have hread := readNumber?_pointed negative hnone hfs htail
  rw [List.nil_append] at hread
  rw [hread]
  cases fs with
  | nil =>
    rw [if_pos ⟨rfl, rfl⟩, List.nil_append, Option.isSome_none]
    cases tail with
    | nil => rfl
    | cons c tail => exact accepts_cons_none (by simp [next, htail c rfl])
  | cons d fs =>
    obtain ⟨hd, hrest⟩ := List.forall_mem_cons.mp hfs
    rw [if_neg (by simp), Option.isSome_map, List.cons_append,
      accepts_cons (s := lonePoint) (if_pos hd), accepts_fraction hrest htail]

/-! ## Words -/

/-- The letters are all of a word. -/
def IsWhole (letters : List Char) : Prop :=
  letters = "nan".toList ∨ letters = "inf".toList ∨ letters = "infinity".toList

instance (letters : List Char) : Decidable (IsWhole letters) :=
  inferInstanceAs (Decidable (_ ∨ _))

/-- The front of a word leads into it. -/
theorem ofLetters_of_isWhole (h : IsWhole (letters ++ cs)) :
    ofLetters letters = some (word letters) := by
  refine if_pos ?_
  rcases h with h | h | h
  · exact .inl ⟨cs, h⟩
  · have hshort : "inf".toList <+: "infinity".toList := by decide
    exact .inr (List.IsPrefix.trans ⟨cs, h⟩ hshort)
  · exact .inr ⟨cs, h⟩

/-- If the letters so far are the front of a word, the other letters of it follow. -/
theorem accepts_of_letters (h : s.next c = ofLetters letters)
    (hword : (word letters).accepts cs = decide (IsWhole (letters ++ cs.map Char.toLower))) :
    s.accepts (c :: cs) = decide (IsWhole (letters ++ cs.map Char.toLower)) := by
  cases hletters : ofLetters letters with
  | some t =>
    obtain rfl : word letters = t := by
      unfold ofLetters at hletters
      split at hletters
      · exact Option.some.inj hletters
      · cases hletters
    rw [accepts_cons (h.trans hletters), hword]
  | none =>
    rw [accepts_cons_none (h.trans hletters), eq_comm, decide_eq_false_iff_not]
    intro hwhole
    rw [ofLetters_of_isWhole hwhole] at hletters
    cases hletters

/-- In a word the other letters of it follow, in any case. -/
theorem accepts_word (letters cs : List Char) :
    (word letters).accepts cs = decide (IsWhole (letters ++ cs.map Char.toLower)) := by
  induction cs generalizing letters with
  | nil =>
    rw [List.map_nil, List.append_nil]
    rfl
  | cons c cs ih =>
    rw [List.map_cons, List.append_cons]
    exact accepts_of_letters rfl (ih _)

/-! ## Literals -/

/-- Letters are those of a word in lower case if they are those of the word in any case. -/
theorem isWhole_iff : IsWhole (cs.map Char.toLower) ↔
    IsWord "nan" cs ∨ IsWord "inf" cs ∨ IsWord "infinity" cs := Iff.rfl

/-- What begins as a number does is no word. -/
theorem not_isWhole_of_beginsNumber (h : BeginsNumber c) (cs : List Char) :
    ¬IsWhole ((c :: cs).map Char.toLower) := by
  rw [isWhole_iff, not_or, not_or]
  exact ⟨not_isWord_of_beginsNumber h (.inl rfl) cs, not_isWord_of_beginsNumber h (.inr rfl) cs,
    not_isWord_of_beginsNumber h (.inr rfl) cs⟩

/-- What does not begin as a number does is no number. -/
theorem readNumber?_of_not_beginsNumber (h : ¬BeginsNumber c) (cs : List Char) :
    readNumber? negative (c :: cs) = none := by
  rw [Option.eq_none_iff_forall_ne_some]
  intro l hread
  obtain ⟨mantissa, ws, fs, power, exponent, hcs, hmantissa, -, -⟩ :=
    readNumber?_eq_some_iff.mp hread
  obtain ⟨d, rest, rfl, hd⟩ := hmantissa.exists_cons
  rw [List.cons_append] at hcs
  exact h (List.head_eq_of_cons_eq hcs ▸ hd)

/-- Behind its sign a literal is a word or a number. -/
theorem accepts_signed (cs : List Char) (negative : Bool) :
    signed.accepts cs =
      (decide (IsWhole (cs.map Char.toLower)) || (readNumber? negative cs).isSome) := by
  cases cs with
  | nil => rfl
  | cons c cs =>
    by_cases hdigit : isDigit c = true
    · rw [accepts_cons (s := signed) (if_pos hdigit), accepts_whole hdigit cs negative,
        decide_eq_false (not_isWhole_of_beginsNumber (.inl hdigit) cs), Bool.false_or]
    by_cases hpoint : c = '.'
    · rw [hpoint, accepts_cons rfl, accepts_lonePoint cs negative,
        decide_eq_false (not_isWhole_of_beginsNumber (.inr rfl) cs), Bool.false_or]
    · have hletters : signed.next c = ofLetters [c.toLower] :=
        (if_neg hdigit).trans (if_neg hpoint)
      have hnumber : ¬BeginsNumber c := not_or.mpr ⟨hdigit, hpoint⟩
      rw [accepts_of_letters hletters (accepts_word _ _), readNumber?_of_not_beginsNumber hnumber,
        Option.isSome_none, Bool.or_false]
      rfl

/-- Without a sign the start is like the stage behind one. -/
theorem accepts_start_of_head (h : ∀ c ∈ cs.head?, c ≠ '+' ∧ c ≠ '-') :
    start.accepts cs = signed.accepts cs := by
  cases cs with
  | nil => rfl
  | cons c cs =>
    have hsign : ¬(c = '+' ∨ c = '-') := not_or.mpr (h c rfl)
    simp only [accepts, next, if_neg hsign]

/-- From the start what is left behind a sign is accepted. -/
theorem accepts_start_of_readSign {body : List Char} (h : readSign cs = (negative, body)) :
    start.accepts cs = signed.accepts body := by
  unfold readSign at h
  split at h
  · cases h
    rfl
  · cases h
    rfl
  · rename_i hminus hplus
    cases h
    refine accepts_start_of_head fun c hc => ?_
    obtain ⟨rest, rfl⟩ := List.head?_eq_some_iff.mp hc
    constructor
    · rintro rfl
      exact hplus rest rfl
    · rintro rfl
      exact hminus rest rfl

/-- The texts that lead from the start to an end are the literals. -/
theorem accepts_start (cs : List Char) : start.accepts cs = (read? cs).isSome := by
  rcases hsign : readSign cs with ⟨negative, body⟩
  rw [accepts_start_of_readSign hsign, accepts_signed body negative, read?_of_readSign hsign]
  by_cases hnan : IsWord "nan" body
  · have hwhole : IsWhole (body.map Char.toLower) := .inl hnan
    rw [if_pos hnan, decide_eq_true hwhole, Bool.true_or, Option.isSome_some]
  by_cases hinf : IsWord "inf" body ∨ IsWord "infinity" body
  · have hwhole : IsWhole (body.map Char.toLower) := .inr hinf
    rw [if_neg hnan, if_pos hinf, decide_eq_true hwhole, Bool.true_or, Option.isSome_some]
  · have hwhole : ¬IsWhole (body.map Char.toLower) := not_or.mpr ⟨hnan, hinf⟩
    rw [if_neg hnan, if_neg hinf, decide_eq_false hwhole, Bool.false_or]

end Stage

end SlotUpdate.Decimal
