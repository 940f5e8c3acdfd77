import SlotUpdate.Progress.Line
import SlotUpdate.Proofs.Decimal.Longest
import SlotUpdate.Proofs.Progress.Exact

/-!
# What a progress line is read as

A progress line is read as the longest literal behind its keyword and any blanks, unless that is not
a number (`ReadsLongest`). Two more readers are told here, which read every line in the same way:
one that goes through the line once from the left (`readForward?`), and one that tries one number of
bytes after the other from the right, and passes over those that end inside of a character
(`readBytewise?`).

All three look for the longest literal at the front of what follows the blanks, so each is what
`Decimal.Stage.munch` finds there (`read?_eq`). What stands behind a literal does not matter if it
does not go on with it (`read?_of_unextended`), such as the mark of a power without a power
(`not_isLiteral_of_dangling`).
-/

namespace SlotUpdate

/-! ## Values -/

namespace Decimal

/-- Digits in front of others count for more by a power of ten. -/
theorem digitsValue_append (ds es : List Char) :
    digitsValue (ds ++ es) = digitsValue ds * 10 ^ es.length + digitsValue es := by
  unfold digitsValue
  rw [List.foldl_append]
  generalize ds.foldl _ 0 = n
  -- The digits so far are kept general: each of the others moves them up by one place.
  have hgeneral : ∀ m, es.foldl (fun n d => 10 * n + (d.toNat - 48)) m =
      m * 10 ^ es.length + es.foldl (fun n d => 10 * n + (d.toNat - 48)) 0 := by
    induction es with
    | nil => simp
    | cons e es ih =>
      intro m
      rw [List.foldl_cons, List.foldl_cons, ih, ih (10 * 0 + _), List.length_cons]
      ring
  exact hgeneral n

/-- The value of a number is that of its digits, those behind the point as a fraction, times its
power of ten. -/
theorem written_number (negative : Bool) (ws fs : List Char) (exponent : ℤ) :
    LiteralReading.written.number
        (.number negative (digitsValue (ws ++ fs)) (exponent - fs.length)) =
      .fraction ((if negative then -1 else 1) *
        (digitsValue ws + digitsValue fs / 10 ^ fs.length) * 10 ^ exponent) := by
  have hten : (10 : ℚ) ≠ 0 := by norm_num
  have hpower : (10 : ℚ) ^ fs.length ≠ 0 := pow_ne_zero _ hten
  show ExactNumber.fraction _ = _
  congr 1
  rw [digitsValue_append, zpow_sub₀ hten, zpow_natCast]
  push_cast
  field_simp

variable {sign mantissa ws fs tail q : List Char} {mark : Char} {negative : Bool}

/-- A mark that no power follows does not go on with a number. -/
theorem not_isLiteral_of_dangling (hsigns : IsSign sign negative)
    (hmantissa : IsMantissa mantissa ws fs) (hmark : mark = 'e' ∨ mark = 'E')
    (htail : ∀ sign negative ds, IsSign sign negative → AreDigits ds → ds ≠ [] →
      ¬sign ++ ds <+: tail)
    (hq : q ≠ []) (hbegins : q <+: mark :: tail) : ¬IsLiteral (sign ++ mantissa ++ q) := by
  obtain ⟨c, r, rfl⟩ := List.exists_cons_of_ne_nil hq
  obtain ⟨rfl, hr⟩ := List.cons_prefix_cons.mp hbegins
  have hhead : ∀ d ∈ (c :: r).head?, isDigit d = false ∧ d ≠ '.' := by
    intro d hd
    cases hd
    rcases hmark with rfl | rfl <;> decide
  rw [List.append_assoc, isLiteral_mantissa_iff hsigns hmantissa hhead]
  rintro ⟨exponent, hpower⟩
  cases hpower with
  | power _ hsigns hdigits hne => exact htail _ _ _ hsigns hdigits hne hr

/-- A plain text holds no blanks. -/
theorem IsPlain.isBlank_eq {cs : List Char} {c : Char} (h : IsPlain cs) (hc : c ∈ cs) :
    Text.isBlank c = false := by
  obtain ⟨hlow, hhigh⟩ := h c hc
  have hlow' : 0x2B ≤ c.toNat := hlow
  have hhigh' : c.toNat ≤ 0x7A := hhigh
  unfold Text.isBlank
  simp only [Bool.or_eq_false_iff, Bool.and_eq_false_iff, beq_eq_false_iff_ne,
    decide_eq_false_iff_not]
  omega

end Decimal

namespace ProgressLine

open Decimal

variable {line : String} {rest blanks text tail p : List Char} {l : Literal}

/-! ## Readers -/

/-- A literal that is a number. -/
def number? (l : Option Literal) : Option Literal := l.filter (· ≠ .notANumber)

/-- What follows the keyword of a line and any blanks. -/
def behindKeyword? (line : String) : Option (List Char) :=
  (line.toList.dropPrefix? keyword).map (·.dropWhile Text.isBlank)

/-- Read a line from the left, with one look at each character. -/
def readForward? (line : String) : Option Literal :=
  (behindKeyword? line).bind fun text =>
    number? ((Stage.start.munch maxLiteralLength text).bind Decimal.read?)

/-- Read a line by trying one number of bytes after the other, the largest first. -/
def readBytewise? (line : String) : Option Literal :=
  (behindKeyword? line).bind fun text =>
    number? (fromLast? (cutAt? text) (min (byteCount text) maxLiteralLength))

/-- Behind the keyword blanks are left out. -/
theorem behindKeyword?_of_eq (h : line.toList = keyword ++ rest) :
    behindKeyword? line = some (rest.dropWhile Text.isBlank) := by
  rw [behindKeyword?, h, List.dropPrefix?_append_of_beq rest (beq_self_eq_true keyword)]
  rfl

/-- Without the keyword nothing follows it. -/
theorem behindKeyword?_of_other_start (h : ¬keyword <+: line.toList) :
    behindKeyword? line = none := by
  rw [behindKeyword?, Option.map_eq_none_iff, Option.eq_none_iff_forall_ne_some]
  intro rest hrest
  obtain ⟨front, hline, hfront⟩ := List.dropPrefix?_eq_some_iff.mp hrest
  exact h ⟨rest, by rw [hline, eq_of_beq hfront]⟩

/-- Literals are looked for in beginnings of so many characters, the longest first. -/
theorem longestLiteral?_eq (cs : List Char) (n : Nat) :
    longestLiteral? cs n = fromLast? (fun k => some (cs.take k)) n := by
  induction n with
  | zero => rfl
  | succ n ih =>
    rw [longestLiteral?, fromLast?, ih]
    rfl

/-- A line is read as it is from the left. -/
theorem read?_eq (line : String) : read? line = readForward? line := by
  unfold read? readForward?
  by_cases hkeyword : keyword <+: line.toList
  · obtain ⟨rest, hrest⟩ := hkeyword
    have hprefix : keyword.isPrefixOf (keyword ++ rest) = true :=
      List.isPrefixOf_iff_prefix.mpr (List.prefix_append keyword rest)
    rw [behindKeyword?_of_eq hrest.symm, Option.bind_some, ← fromLast?_take]
    simp only [← hrest, hprefix, if_true, List.drop_left, Text.trimStartChars, longestLiteral?_eq]
    generalize fromLast? _ _ = found
    rcases found with _ | _ | _ | _ <;> rfl
  · rw [behindKeyword?_of_other_start hkeyword, Option.bind_none]
    exact if_neg (mt List.isPrefixOf_iff_prefix.mp hkeyword)

/-- A line is read as it is by numbers of bytes. -/
theorem readForward?_eq_readBytewise? (line : String) : readForward? line = readBytewise? line := by
  unfold readForward? readBytewise?
  simp only [fromLast?_cutAt?]

/-! ## Longest literals -/

/-- A text that begins with blanks, up to its first character that is none. -/
theorem exists_blanks (rest : List Char) : ∃ blanks text, rest = blanks ++ text ∧
    (∀ c ∈ blanks, Text.isBlank c = true) ∧ (∀ c ∈ text.head?, Text.isBlank c = false) ∧
      rest.dropWhile Text.isBlank = text := by
  refine ⟨rest.takeWhile Text.isBlank, _, List.takeWhile_append_dropWhile.symm,
    List.all_eq_true.mp List.all_takeWhile, ?_, rfl⟩
  intro c hc
  have hnot := List.head?_dropWhile_not Text.isBlank rest
  rw [Option.mem_def.mp hc] at hnot
  simpa using hnot

/-- The longest literal is read, unless it is not a number. -/
theorem readForward?_eq_some_iff (h : behindKeyword? line = some text) :
    readForward? line = some l ↔
      l ≠ .notANumber ∧ ∃ p, IsLongest IsLiteral maxLiteralLength text p ∧ Spells p l := by
  have hfound := finds_munch maxLiteralLength text
  rw [readForward?, h, Option.bind_some, number?, Option.filter_eq_some_iff, and_comm,
    Option.bind_eq_some_iff, decide_eq_true_iff]
  refine and_congr_right fun _ => ⟨?_, ?_⟩
  · rintro ⟨p, hmunch, hread⟩
    rw [hmunch] at hfound
    exact ⟨p, hfound, read?_eq_some_iff.mp hread⟩
  · rintro ⟨p, hlongest, hspells⟩
    have hmunch : Finds IsLiteral maxLiteralLength text (some p) := hlongest
    exact ⟨p, hfound.unique hmunch, read?_eq_some_iff.mpr hspells⟩

/-- A literal behind the keyword and blanks is read if what stands behind it does not go on with
it. -/
theorem readForward?_of_unextended (hline : line.toList = keyword ++ (blanks ++ (p ++ tail)))
    (hblanks : ∀ c ∈ blanks, Text.isBlank c = true) (hspells : Spells p l)
    (hfits : byteCount p ≤ maxLiteralLength)
    (htail : ∀ q, q ≠ [] → q <+: tail → byteCount (p ++ q) ≤ maxLiteralLength →
      ¬IsLiteral (p ++ q)) :
    readForward? line = number? (some l) := by
  have hliteral : IsLiteral p := ⟨l, hspells⟩
  obtain ⟨c, cs, rfl⟩ := List.exists_cons_of_ne_nil hliteral.ne_nil
  have hbehind : behindKeyword? line = some (c :: cs ++ tail) := by
    rw [behindKeyword?_of_eq hline, List.dropWhile_append_of_pos hblanks, List.cons_append,
      List.dropWhile_cons_of_neg]
    rw [hspells.isPlain.isBlank_eq List.mem_cons_self]
    exact Bool.false_ne_true
  have hlongest : IsLongest IsLiteral maxLiteralLength (c :: cs ++ tail) (c :: cs) := by
    refine ⟨List.prefix_append _ _, hfits, hliteral, fun q hq hqfits hqliteral => ?_⟩
    -- A longer one would be the literal with some of what stands behind it.
    rcases List.prefix_or_prefix_of_prefix hq (List.prefix_append (c :: cs) tail) with hle | hge
    · exact hle.length_le
    · obtain ⟨r, rfl⟩ := hge
      by_cases hr : r = []
      · rw [hr, List.append_nil]
      · exact absurd hqliteral (htail r hr ((List.prefix_append_right_inj _).mp hq) hqfits)
  have hfinds : Finds IsLiteral maxLiteralLength (c :: cs ++ tail) (some (c :: cs)) := hlongest
  have hmunch := (finds_munch maxLiteralLength (c :: cs ++ tail)).unique hfinds
  rw [readForward?, hbehind, Option.bind_some, hmunch, Option.bind_some,
    read?_eq_some_iff.mpr hspells]

/-! ## Lines -/

/-- What a line is read as. -/
structure ReadsLongest (line : String) (found : Option Literal) : Prop where
  /-- Without the keyword in front it is read as nothing. -/
  keyword : ¬keyword <+: line.toList → found = none
  /-- Behind the keyword and blanks the longest literal is read that does not have too many bytes,
  unless it is not a number. -/
  longest : ∀ rest, line.toList = ProgressLine.keyword ++ rest → ∃ blanks text,
    rest = blanks ++ text ∧ (∀ c ∈ blanks, Text.isBlank c = true) ∧
      (∀ c ∈ text.head?, Text.isBlank c = false) ∧
        ∀ l, found = some l ↔
          l ≠ .notANumber ∧ ∃ p, IsLongest IsLiteral maxLiteralLength text p ∧ Spells p l
  /-- What stands behind a literal does not matter if it does not go on with it. -/
  unextended : ∀ blanks p tail l, line.toList = ProgressLine.keyword ++ (blanks ++ (p ++ tail)) →
    (∀ c ∈ blanks, Text.isBlank c = true) → Spells p l → byteCount p ≤ maxLiteralLength →
      (∀ q, q ≠ [] → q <+: tail → byteCount (p ++ q) ≤ maxLiteralLength → ¬IsLiteral (p ++ q)) →
        found = if l = .notANumber then none else some l
  /-- Nor does the mark of a power matter, with its sign or without one, that no digit follows. -/
  dangling : ∀ blanks sign mantissa ws fs mark tail negative,
    line.toList = ProgressLine.keyword ++ (blanks ++ (sign ++ mantissa ++ mark :: tail)) →
      (∀ c ∈ blanks, Text.isBlank c = true) → IsSign sign negative → IsMantissa mantissa ws fs →
        byteCount (sign ++ mantissa) ≤ maxLiteralLength → (mark = 'e' ∨ mark = 'E') →
          (∀ sign negative ds, IsSign sign negative → AreDigits ds → ds ≠ [] →
            ¬sign ++ ds <+: tail) →
            found = some (.number negative (digitsValue (ws ++ fs)) (-fs.length))
  /-- A number has the value of its digits, those behind the point as a fraction, times its power of
  ten. -/
  value : ∀ sign mantissa ws fs power negative exponent, IsSign sign negative →
    IsMantissa mantissa ws fs → IsPower power exponent → ∃ l,
      Spells (sign ++ (mantissa ++ power)) l ∧ LiteralReading.written.number l =
        .fraction ((if negative then -1 else 1) *
          (digitsValue ws + digitsValue fs / 10 ^ fs.length) * 10 ^ exponent)

/-- Every line is read as it is from the left, with one look at each character, and as it is by
trying one number of bytes after the other: as the longest literal behind the keyword and any
blanks. -/
theorem reads_longest_literal (line : String) :
    read? line = readForward? line ∧ read? line = readBytewise? line ∧
      ReadsLongest line (read? line) := by
  have hforward := read?_eq line
  refine ⟨hforward, hforward.trans (readForward?_eq_readBytewise? line), ?_⟩
  rw [hforward]
  constructor
  case keyword =>
    intro hkeyword
    rw [readForward?, behindKeyword?_of_other_start hkeyword, Option.bind_none]
  case longest =>
    intro rest hline
    obtain ⟨blanks, text, hrest, hblanks, hhead, hdrop⟩ := exists_blanks rest
    have hbehind := behindKeyword?_of_eq hline
    rw [hdrop] at hbehind
    exact ⟨blanks, text, hrest, hblanks, hhead, fun l => readForward?_eq_some_iff hbehind⟩
  case unextended =>
    intro blanks p tail l hline hblanks hspells hfits htail
    rw [readForward?_of_unextended hline hblanks hspells hfits htail, number?]
    by_cases hnan : l = .notANumber <;> simp [hnan]
  case dangling =>
    intro blanks sign mantissa ws fs mark tail negative hline hblanks hsigns hmantissa hfits hmark
      htail
    have hspells := Spells.number hsigns hmantissa .absent
    rw [List.append_nil, Int.zero_sub] at hspells
    rw [readForward?_of_unextended hline hblanks hspells hfits fun q hq hbegins _ =>
      not_isLiteral_of_dangling hsigns hmantissa hmark htail hq hbegins]
    rfl
  case value =>
    intro sign mantissa ws fs power negative exponent hsigns hmantissa hpower
    exact ⟨_, .number hsigns hmantissa hpower, written_number negative ws fs exponent⟩

/-- A power that is cut off, and a character that is longer than a byte. -/
example : read? "global_progress\u2003-.5E+é" = some (.number true 5 (-1)) := by decide +kernel

end ProgressLine

end SlotUpdate
