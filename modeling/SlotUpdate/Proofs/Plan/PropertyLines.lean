import Mathlib.Data.String.Basic
import SlotUpdate.Plan.Properties
import SlotUpdate.Proofs.List.Pieces
import SlotUpdate.Proofs.Text.Lines

/-!
# Reading property lines

What `Properties.read` makes of lines is a matter of what each of them says: nothing (`IsBlank`),
the value of a key (`States`), or something else (`Lacks`). Lines are fine if none says something
else and no two of them state the same key (`AreFine`); otherwise there is a first fault
(`FirstFault`).

`Holds lines p` is the invariant of the loop: the properties are in order and are those that the
lines before state. One line keeps it or is a fault (`Holds.states`, `Fault.readFrom`), and so fine
lines are read (`AreFine.read`) and all others are refused with the fault that comes first
(`FirstFault.read`). Properties in order are given by their values (`InOrder.ext`), which is why the
order of the lines does not matter and why properties written in any order are read back.
-/

namespace SlotUpdate.Properties

variable {p q : Properties} {line other text key value : String}
  {lines before rest others : List String} {e : PlanError}

/-! ## What a line says -/

/-- A line is a text and carriage returns. The text ends in none. -/
def HasText (line text : String) : Prop :=
  Trimmed (· == '\r') line.toList text.toList

/-- A line says nothing. -/
def IsBlank (line : String) : Prop := HasText line ""

/-- A line states a property: the first equals sign stands after the key. -/
structure States (line key value : String) : Prop where
  /-- The sign after the key is the first one. -/
  key_clean : '=' ∉ key.toList
  /-- All that follows it is the value. -/
  hasText : HasText line (key ++ "=" ++ value)

/-- A line has a text, but no equals sign. -/
structure Lacks (line text : String) : Prop where
  /-- The text. -/
  hasText : HasText line text
  /-- The line is not blank. -/
  nonempty : text ≠ ""
  /-- There is no sign. -/
  unsigned : '=' ∉ text.toList

/-- The characters of a stated property. -/
theorem toList_pair (key value : String) :
    (key ++ "=" ++ value).toList = key.toList ++ '=' :: value.toList := by
  rw [String.toList_append, String.toList_append, List.append_assoc]
  rfl

/-- A text is that of a line exactly if trimming gives it. -/
theorem hasText_iff : HasText line text ↔ trimLine line.toList = text.toList := trimmed_iff

/-- Every line has a text. -/
theorem exists_hasText (line : String) : ∃ text, HasText line text :=
  ⟨String.ofList (trimLine line.toList), hasText_iff.mpr String.toList_ofList.symm⟩

/-- A line has one text. -/
theorem HasText.unique (h : HasText line text) (h' : HasText line other) : text = other :=
  String.toList_inj.mp (Trimmed.unique h h')

/-- A line says nothing, states a property or lacks the sign. -/
theorem kinds (line : String) :
    IsBlank line ∨ (∃ key value, States line key value) ∨ ∃ text, Lacks line text := by
  obtain ⟨text, htext⟩ := exists_hasText line
  by_cases hempty : text = ""
  · subst hempty
    exact Or.inl htext
  by_cases hsign : '=' ∈ text.toList
  · obtain ⟨key, value, hsplit, hkey⟩ := List.eq_append_cons_of_mem hsign
    have hpair : text = String.ofList key ++ "=" ++ String.ofList value := by
      rw [← String.toList_inj, toList_pair, String.toList_ofList, String.toList_ofList, hsplit]
    exact Or.inr (Or.inl ⟨_, _, by rwa [String.toList_ofList], hpair ▸ htext⟩)
  · exact Or.inr (Or.inr ⟨text, htext, hempty, hsign⟩)

/-- A line that states a property is not blank. -/
theorem States.not_isBlank (h : States line key value) : ¬IsBlank line := by
  intro hblank
  have hpair := congrArg String.toList (h.hasText.unique hblank)
  rw [toList_pair] at hpair
  simp at hpair

/-! ## One step -/

/-- Characters among which there is no sign are all passed over. -/
theorem bne_sign_of_not_mem {cs : List Char} (h : '=' ∉ cs) : ∀ c ∈ cs, (c != '=') = true := by
  intro c hc
  rw [bne_iff_ne]
  rintro rfl
  exact h hc

/-- The first sign separates the key from the value. -/
theorem splitLine?_pair (h : '=' ∉ key.toList) :
    splitLine? (key ++ "=" ++ value).toList = some (key, value) := by
  have hkey := bne_sign_of_not_mem h
  unfold splitLine?
  rw [toList_pair, List.dropWhile_append_of_pos hkey, List.takeWhile_append_of_pos hkey]
  simp

/-- Without a sign there is no property. -/
theorem splitLine?_of_not_mem {cs : List Char} (h : '=' ∉ cs) : splitLine? cs = none := by
  have hnone : cs.dropWhile (· != '=') = [] :=
    List.dropWhile_eq_nil_iff.mpr (bne_sign_of_not_mem h)
  unfold splitLine?
  rw [hnone]

/-- A blank line is passed over. -/
theorem IsBlank.readFrom (h : IsBlank line) :
    readFrom p (line :: rest) = Properties.readFrom p rest := by
  rw [Properties.readFrom, hasText_iff.mp h]
  rfl

/-- A line without a sign ends the reading. -/
theorem Lacks.readFrom (h : Lacks line text) :
    readFrom p (line :: rest) = .error (.invalidLine text) := by
  rw [Properties.readFrom, hasText_iff.mp h.hasText]
  split
  case h_1 hnil => exact absurd (String.toList_inj.mp hnil) h.nonempty
  case h_2 => rw [splitLine?_of_not_mem h.unsigned, String.ofList_toList]

/-- A line that states a property adds it, if its key is new. -/
theorem States.readFrom (h : States line key value) :
    readFrom p (line :: rest) =
      if (p.get? key).isSome then .error (.duplicate key)
      else Properties.readFrom (p.insert key value) rest := by
  rw [Properties.readFrom, hasText_iff.mp h.hasText]
  split
  case h_1 hnil => rw [toList_pair] at hnil; simp at hnil
  case h_2 => rw [splitLine?_pair h.key_clean]

/-- A line states one property. -/
theorem States.unique {key' value' : String} (h : States line key value)
    (h' : States line key' value') : key = key' ∧ value = value' := by
  have hpair : splitLine? (key ++ "=" ++ value).toList = some (key, value) :=
    splitLine?_pair h.key_clean
  rw [h.hasText.unique h'.hasText, splitLine?_pair h'.key_clean] at hpair
  exact ⟨(congrArg Prod.fst (Option.some.inj hpair)).symm,
    (congrArg Prod.snd (Option.some.inj hpair)).symm⟩

/-- Lines are read one after the other. -/
theorem readFrom_append :
    readFrom p (before ++ rest) = (readFrom p before).bind (readFrom · rest) := by
  induction before generalizing p with
  | nil => rfl
  | cons line before ih =>
    rw [List.cons_append]
    rcases kinds line with hblank | ⟨key, value, hstates⟩ | ⟨text, hlacks⟩
    · rw [hblank.readFrom, hblank.readFrom, ih]
    · rw [hstates.readFrom, hstates.readFrom]
      split
      · rfl
      · exact ih
    · rw [hlacks.readFrom, hlacks.readFrom]
      rfl

/-! ## Properties in order -/

/-- Properties are in the order of their keys. No key stands twice. -/
def InOrder (p : Properties) : Prop := p.entries.Pairwise (·.1 < ·.1)

/-- The pair is put among the others. -/
theorem insertSorted_perm (key value : String) (l : List (String × String)) :
    (insertSorted key value l).Perm ((key, value) :: l) := by
  induction l with
  | nil => exact List.Perm.refl _
  | cons e l ih =>
    rw [insertSorted]
    split
    · exact List.Perm.refl _
    · exact (ih.cons e).trans (List.Perm.swap _ e l)

/-- A new key is put in its place. -/
theorem InOrder.insert (h : InOrder p) (hnew : ∀ e ∈ p.entries, e.1 ≠ key) :
    InOrder (p.insert key value) := by
  obtain ⟨l⟩ := p
  change (insertSorted key value l).Pairwise (·.1 < ·.1)
  induction l with
  | nil => exact List.pairwise_singleton _ _
  | cons e l ih =>
    obtain ⟨hfirst, hrest⟩ := List.pairwise_cons.mp h
    obtain ⟨hne, hnew⟩ := List.forall_mem_cons.mp hnew
    rw [insertSorted]
    split
    case isTrue hlt =>
      refine List.Pairwise.cons ?_ h
      intro d hd
      rcases List.mem_cons.mp hd with rfl | hd
      · exact hlt
      · exact lt_trans hlt (hfirst d hd)
    case isFalse hge =>
      refine List.Pairwise.cons ?_ (ih hrest hnew)
      intro d hd
      rcases List.mem_cons.mp ((insertSorted_perm key value l).mem_iff.mp hd) with rfl | hd
      · exact lt_of_le_of_ne (not_lt.mp hge) hne
      · exact hfirst d hd

/-- The value of a key is that of the pair with the key. -/
theorem InOrder.get?_eq_some_iff (h : InOrder p) :
    p.get? key = some value ↔ (key, value) ∈ p.entries := by
  obtain ⟨l⟩ := p
  unfold get?
  rw [Option.map_eq_some_iff]
  constructor
  · rintro ⟨⟨k, v⟩, hfind, rfl⟩
    have hk : k = key := by simpa using List.find?_some hfind
    exact hk ▸ List.mem_of_find?_eq_some hfind
  · intro hmem
    -- No pair before it has the key, since the keys before it are smaller.
    obtain ⟨front, back, hsplit⟩ := List.append_of_mem hmem
    obtain rfl : l = front ++ (key, value) :: back := hsplit
    have hbefore := (List.pairwise_append.mp h).2.2
    refine ⟨(key, value), ?_, rfl⟩
    rw [List.find?_eq_some_iff_append]
    refine ⟨by simp, front, back, rfl, ?_⟩
    intro d hd
    simpa using (hbefore d hd (key, value) List.mem_cons_self).ne

/-- A key without a value is that of no pair. -/
theorem get?_eq_none_iff : p.get? key = none ↔ ∀ e ∈ p.entries, e.1 ≠ key := by
  unfold get?
  rw [Option.map_eq_none_iff, List.find?_eq_none]
  simp

/-- A new property is added to the values. -/
theorem InOrder.get?_insert {k v : String} (h : InOrder p) (hnew : p.get? key = none) :
    (p.insert key value).get? k = some v ↔ p.get? k = some v ∨ (k = key ∧ v = value) := by
  have hmem : (k, v) ∈ (p.insert key value).entries ↔ (k, v) ∈ (key, value) :: p.entries :=
    (insertSorted_perm key value p.entries).mem_iff
  rw [(h.insert (get?_eq_none_iff.mp hnew)).get?_eq_some_iff, h.get?_eq_some_iff, hmem,
    List.mem_cons, Prod.mk.injEq, or_comm]

/-- Properties in order that give the same values are the same. -/
theorem InOrder.ext (hp : InOrder p) (hq : InOrder q)
    (h : ∀ key value, p.get? key = some value ↔ q.get? key = some value) : p = q := by
  have hnodup : ∀ {r : Properties}, InOrder r → r.entries.Nodup := fun hr =>
    hr.imp fun hlt heq => hlt.ne (congrArg Prod.fst heq)
  have hperm : p.entries.Perm q.entries := by
    rw [List.perm_ext_iff_of_nodup (hnodup hp) (hnodup hq)]
    rintro ⟨key, value⟩
    rw [← hp.get?_eq_some_iff, ← hq.get?_eq_some_iff, h]
  have hentries : p.entries = q.entries :=
    hperm.eq_of_pairwise (fun a b _ _ hab hba => absurd hba hab.asymm) hp hq
  obtain ⟨l⟩ := p
  exact congrArg Properties.mk hentries

/-! ## All lines -/

/-- Two lines state no common key. -/
def Differ (line other : String) : Prop :=
  ∀ key value value', States line key value → ¬States other key value'

/-- Lines that can be read. -/
structure AreFine (lines : List String) : Prop where
  /-- Each of them says nothing or states a property. -/
  each : ∀ line ∈ lines, IsBlank line ∨ ∃ key value, States line key value
  /-- No key is stated twice. -/
  differ : lines.Pairwise Differ

/-- A line that cannot be read after others. -/
inductive Fault (before : List String) (line : String) : PlanError → Prop where
  /-- It lacks the sign. -/
  | lacks {text : String} (h : Lacks line text) : Fault before line (.invalidLine text)
  /-- Its key is stated by a line before it. -/
  | repeats {earlier key value value' : String} (h : States line key value)
    (mem : earlier ∈ before) (states : States earlier key value') :
    Fault before line (.duplicate key)

/-- The first line that cannot be read, after those that can. -/
inductive FirstFault : List String → PlanError → Prop where
  /-- The lines before it, the line, and all others. -/
  | intro {before rest : List String} {line : String} {e : PlanError} (fine : AreFine before)
    (fault : Fault before line e) : FirstFault (before ++ line :: rest) e

/-- Properties are what lines state. -/
structure Holds (lines : List String) (p : Properties) : Prop where
  /-- They are in order. -/
  inOrder : InOrder p
  /-- A key has the value that a line states. -/
  get?_iff : ∀ key value, p.get? key = some value ↔ ∃ line ∈ lines, States line key value

/-- No lines state no properties. -/
theorem holds_nil : Holds [] ⟨[]⟩ := ⟨List.Pairwise.nil, fun _ _ => by simp [get?]⟩

/-- One more line may state one more property. -/
theorem exists_states_concat :
    (∃ l ∈ lines ++ [line], States l key value) ↔
      (∃ l ∈ lines, States l key value) ∨ States line key value := by
  simp only [List.mem_append, List.mem_singleton, or_and_right, exists_or, exists_eq_left]

/-- A blank line states nothing. -/
theorem Holds.blank (h : Holds lines p) (hblank : IsBlank line) : Holds (lines ++ [line]) p := by
  refine ⟨h.inOrder, fun key value => ?_⟩
  have hnone : ¬States line key value := fun hstates => hstates.not_isBlank hblank
  rw [h.get?_iff, exists_states_concat, or_iff_left hnone]

/-- A line that states a new key adds its property. -/
theorem Holds.states (h : Holds lines p) (hstates : States line key value)
    (hnew : p.get? key = none) : Holds (lines ++ [line]) (p.insert key value) := by
  refine ⟨h.inOrder.insert (get?_eq_none_iff.mp hnew), fun k v => ?_⟩
  rw [h.inOrder.get?_insert hnew, h.get?_iff, exists_states_concat]
  refine or_congr_right ⟨?_, fun hother => hother.unique hstates⟩
  rintro ⟨rfl, rfl⟩
  exact hstates

/-- A fault ends the reading. -/
theorem Fault.readFrom (h : Fault before line e) (hp : Holds before p) :
    readFrom p (line :: rest) = .error e := by
  cases h with
  | lacks h => exact h.readFrom
  | repeats h hmem hearlier =>
    have hvalue := (hp.get?_iff _ _).mpr ⟨_, hmem, hearlier⟩
    rw [h.readFrom, hvalue, Option.isSome_some, if_pos rfl]

/-- Fine lines are read, and what is read is what they state. -/
theorem AreFine.read (h : AreFine lines) : ∃ p, read lines = .ok p ∧ Holds lines p := by
  -- A line is judged by those before it, so the last one is taken off.
  induction lines using List.reverseRecOn with
  | nil => exact ⟨⟨[]⟩, rfl, holds_nil⟩
  | append_singleton lines line ih =>
    obtain ⟨heach, hlast⟩ := List.forall_mem_append.mp h.each
    obtain ⟨hpairs, -, hdiffer⟩ := List.pairwise_append.mp h.differ
    obtain ⟨p, hread, hholds⟩ := ih ⟨heach, hpairs⟩
    have hstep : Properties.read (lines ++ [line]) = readFrom p [line] := by
      rw [Properties.read, readFrom_append, ← Properties.read, hread]
      rfl
    rcases hlast line (List.mem_singleton_self line) with hblank | ⟨key, value, hstates⟩
    · exact ⟨p, hstep.trans hblank.readFrom, hholds.blank hblank⟩
    · -- What the lines before hold of the key would be stated by one of them.
      have hnew : p.get? key = none := by
        rw [Option.eq_none_iff_forall_ne_some]
        intro v hv
        obtain ⟨l, hl, hl'⟩ := (hholds.get?_iff key v).mp hv
        exact hdiffer l hl line (List.mem_singleton_self line) key v value hl' hstates
      refine ⟨p.insert key value, ?_, hholds.states hstates hnew⟩
      rw [hstep, hstates.readFrom, hnew]
      rfl

/-- The first fault is the answer. -/
theorem FirstFault.read (h : FirstFault lines e) : read lines = .error e := by
  obtain ⟨hfine, hfault⟩ := h
  obtain ⟨p, hread, hholds⟩ := hfine.read
  rw [Properties.read, readFrom_append, ← Properties.read, hread]
  exact hfault.readFrom hholds

/-- More lines leave the first fault where it is. -/
theorem FirstFault.append (h : FirstFault lines e) (rest : List String) :
    FirstFault (lines ++ rest) e := by
  obtain ⟨hfine, hfault⟩ := h
  rw [List.append_assoc, List.cons_append]
  exact FirstFault.intro hfine hfault

/-- One more line is fine unless it is a fault. -/
theorem AreFine.concat (h : AreFine lines) (line : String) :
    AreFine (lines ++ [line]) ∨ ∃ e, Fault lines line e := by
  by_cases hfault : ∃ e, Fault lines line e
  · exact Or.inr hfault
  refine Or.inl ⟨?_, ?_⟩
  · rw [List.forall_mem_append, List.forall_mem_singleton]
    refine ⟨h.each, ?_⟩
    rcases kinds line with hblank | hstates | ⟨text, hlacks⟩
    · exact Or.inl hblank
    · exact Or.inr hstates
    · exact absurd ⟨_, Fault.lacks hlacks⟩ hfault
  · refine List.pairwise_append.mpr ⟨h.differ, List.pairwise_singleton _ _, ?_⟩
    intro earlier hearlier l hl key value value' hstates hline
    rw [List.mem_singleton.mp hl] at hline
    exact hfault ⟨_, Fault.repeats hline hearlier hstates⟩

/-- Lines are fine, or one of them is the first fault. -/
theorem fine_or_firstFault (lines : List String) : AreFine lines ∨ ∃ e, FirstFault lines e := by
  induction lines using List.reverseRecOn with
  | nil => exact Or.inl ⟨List.forall_mem_nil _, List.Pairwise.nil⟩
  | append_singleton lines line ih =>
    rcases ih with hfine | ⟨e, hfirst⟩
    · rcases hfine.concat line with hmore | ⟨e, hfault⟩
      · exact Or.inl hmore
      · exact Or.inr ⟨e, FirstFault.intro hfine hfault⟩
    · exact Or.inr ⟨e, hfirst.append [line]⟩

/-- Lines are read exactly if they are fine. -/
theorem read_eq_ok_iff : (∃ p, read lines = .ok p) ↔ AreFine lines := by
  constructor
  · rintro ⟨p, hread⟩
    rcases fine_or_firstFault lines with hfine | ⟨e, hfirst⟩
    · exact hfine
    · rw [hfirst.read] at hread
      cases hread
  · intro h
    obtain ⟨p, hread, -⟩ := h.read
    exact ⟨p, hread⟩

/-- What is read is what the lines state. -/
theorem holds_of_read (h : read lines = .ok p) : Holds lines p := by
  obtain ⟨q, hread, hholds⟩ := (read_eq_ok_iff.mp ⟨p, h⟩).read
  rw [h] at hread
  cases hread
  exact hholds

/-- Lines are refused with an error exactly if it is that of the first fault. -/
theorem read_eq_error_iff : read lines = .error e ↔ FirstFault lines e := by
  constructor
  · intro h
    rcases fine_or_firstFault lines with hfine | ⟨e', hfirst⟩
    · obtain ⟨p, hread, -⟩ := hfine.read
      rw [h] at hread
      cases hread
    · rw [hfirst.read] at h
      cases h
      exact hfirst
  · exact FirstFault.read

/-! ## What does not matter -/

/-- Two lines have the same text. -/
def SameText (line other : String) : Prop := ∃ text, HasText line text ∧ HasText other text

/-- Only the text of the first line matters. -/
theorem SameText.readFrom (h : SameText line other)
    (hrest : ∀ p, readFrom p rest = readFrom p others) :
    readFrom p (line :: rest) = Properties.readFrom p (other :: others) := by
  obtain ⟨text, hline, hother⟩ := h
  rw [Properties.readFrom, Properties.readFrom, hasText_iff.mp hline, hasText_iff.mp hother]
  simp only [hrest]

/-- Carriage returns at the end of lines do not matter. -/
theorem read_of_sameText (h : List.Forall₂ SameText lines others) : read lines = read others := by
  -- The properties that were read before are those of the lines before.
  suffices hall : ∀ p, readFrom p lines = readFrom p others from hall ⟨[]⟩
  induction h with
  | nil => exact fun p => rfl
  | cons hfirst _ ih => exact fun p => hfirst.readFrom ih

/-- Blank lines do not matter. -/
theorem read_of_blank (h : IsBlank line) :
    read (before ++ line :: rest) = read (before ++ rest) := by
  simp only [read, readFrom_append, h.readFrom]

/-- Fine lines are fine in any order. -/
theorem AreFine.perm (h : AreFine lines) (hperm : lines.Perm others) : AreFine others :=
  ⟨fun line hline => h.each line (hperm.mem_iff.mpr hline),
    h.differ.perm hperm fun hdiffer key v v' hstates hother => hdiffer key v' v hother hstates⟩

/-- The order of lines that are read does not matter. -/
theorem read_of_perm (hperm : lines.Perm others) (h : read lines = .ok p) :
    read others = .ok p := by
  have hp := holds_of_read h
  obtain ⟨q, hread, hq⟩ := ((read_eq_ok_iff.mp ⟨p, h⟩).perm hperm).read
  have heq : p = q := by
    refine hp.inOrder.ext hq.inOrder fun key value => ?_
    simp only [hp.get?_iff, hq.get?_iff, hperm.mem_iff]
  rw [hread, heq]

/-! ## Texts -/

/-- A carriage return that is taken for part of a line end is not missed. -/
theorem sameText_uncarried (line : String) :
    SameText (String.ofList (Text.uncarried line.toList)) line := by
  obtain ⟨text, htext⟩ := exists_hasText line
  refine ⟨text, ?_, htext⟩
  rw [HasText, String.toList_ofList, Text.uncarried]
  split
  case isTrue hlast =>
    have hsplit : line.toList.dropLast ++ ['\r'] = line.toList :=
      List.dropLast_append_getLast? '\r' hlast
    rw [HasText, ← hsplit, trimmed_iff, rdropWhile_append (by simp)] at htext
    exact trimmed_iff.mpr htext
  case isFalse => exact htext

/-- The lines that are found in a text are read like those that it is made of. -/
theorem read_lines (h : Text.Written lines text) (hclean : ∀ line ∈ lines, '\n' ∉ line.toList) :
    read (Text.lines text) = read lines := by
  suffices hall : ∀ p, readFrom p (Text.lines text) = readFrom p lines from hall ⟨[]⟩
  induction h with
  | nil => exact fun p => by rw [Text.lines_empty]
  | last line =>
    intro p
    by_cases hempty : line = ""
    · subst hempty
      rw [Text.lines_empty, IsBlank.readFrom ⟨⟨[], rfl, by simp⟩, by simp⟩]
    · rw [Text.lines_last (hclean line (List.mem_singleton_self line)) hempty]
  | @cons line _ lines text ends _ ih =>
    obtain ⟨hline, hrest⟩ := List.forall_mem_cons.mp hclean
    obtain ⟨found, hlines, hfound⟩ := Text.lines_line ends hline text
    have hsame : SameText found line := by
      rcases hfound with rfl | rfl
      · obtain ⟨t, ht⟩ := exists_hasText found
        exact ⟨t, ht, ht⟩
      · exact sameText_uncarried line
    intro p
    rw [hlines]
    exact hsame.readFrom (ih hrest)

/-! ## Writing properties -/

/-- The line that is written for a pair. -/
def pairLine (pair : String × String) : String := pair.1 ++ "=" ++ pair.2

/-- A pair can be written as a line. -/
structure IsWritable (pair : String × String) : Prop where
  /-- The key has no equals sign and ends no line. -/
  key : ∀ c ∈ pair.1.toList, c ≠ '=' ∧ c ≠ '\r' ∧ c ≠ '\n'
  /-- The value ends no line. -/
  value : ∀ c ∈ pair.2.toList, c ≠ '\r' ∧ c ≠ '\n'

variable {pair : String × String} {pairs : List (String × String)}

/-- The line of a pair states it. -/
theorem IsWritable.states (h : IsWritable pair) : States (pairLine pair) pair.1 pair.2 := by
  refine ⟨fun hsign => (h.key '=' hsign).1 rfl, ⟨[], by rw [List.append_nil]; rfl, by simp⟩, ?_⟩
  intro c hc
  rw [toList_pair, List.getLast?_append_of_ne_nil _ (List.cons_ne_nil _ _)] at hc
  -- The last character is the equals sign or one of the value.
  rw [beq_eq_false_iff_ne]
  rcases List.mem_cons.mp (List.mem_of_mem_getLast? hc) with rfl | hvalue
  · decide
  · exact (h.value c hvalue).1

/-- The line of a pair is one line. -/
theorem IsWritable.newline_not_mem (h : IsWritable pair) : '\n' ∉ (pairLine pair).toList := by
  rw [pairLine, toList_pair, List.mem_append, List.mem_cons]
  rintro (hkey | hsign | hvalue)
  · exact (h.key _ hkey).2.2 rfl
  · exact absurd hsign (by decide)
  · exact (h.value _ hvalue).2 rfl

/-- The lines of pairs state the pairs. -/
theorem exists_states_pairLine (h : ∀ pair ∈ pairs, IsWritable pair) :
    (∃ line ∈ pairs.map pairLine, States line key value) ↔ (key, value) ∈ pairs := by
  constructor
  · rintro ⟨line, hline, hstates⟩
    obtain ⟨pair, hpair, rfl⟩ := List.mem_map.mp hline
    obtain ⟨rfl, rfl⟩ := hstates.unique (h pair hpair).states
    exact hpair
  · intro hpair
    exact ⟨_, List.mem_map_of_mem hpair, (h _ hpair).states⟩

/-- The lines of pairs with different keys are fine. -/
theorem areFine_pairLine (h : ∀ pair ∈ pairs, IsWritable pair)
    (hkeys : pairs.Pairwise (·.1 ≠ ·.1)) : AreFine (pairs.map pairLine) := by
  refine ⟨?_, ?_⟩
  · rw [List.forall_mem_map]
    exact fun pair hpair => Or.inr ⟨_, _, (h pair hpair).states⟩
  · rw [List.pairwise_map]
    refine hkeys.imp_of_mem ?_
    intro a b ha hb hne key value value' hstates hother
    apply hne
    rw [← (hstates.unique (h a ha).states).1, (hother.unique (h b hb).states).1]

/-- Properties that are written in any order are read back. -/
theorem read_pairLine (hp : InOrder p) (hperm : pairs.Perm p.entries)
    (h : ∀ pair ∈ pairs, IsWritable pair) : read (pairs.map pairLine) = .ok p := by
  have hkeys : pairs.Pairwise (·.1 ≠ ·.1) := (hp.imp ne_of_lt).perm hperm.symm Ne.symm
  obtain ⟨q, hread, hq⟩ := (areFine_pairLine h hkeys).read
  have heq : q = p := by
    refine hq.inOrder.ext hp fun key value => ?_
    rw [hq.get?_iff, exists_states_pairLine h, hp.get?_eq_some_iff, hperm.mem_iff]
  rw [hread, heq]

/-! ## Main results -/

/-- Lines are read as they should. -/
structure ReadsLines (lines : List String) : Prop where
  /-- They are accepted exactly if they are fine. -/
  accepts : (∃ p, read lines = .ok p) ↔ AreFine lines
  /-- What is read is what they state, and nothing else. -/
  holds : ∀ p, read lines = .ok p → Holds lines p
  /-- The error is that of the first line that cannot be read. -/
  refuses : ∀ e, read lines = .error e ↔ FirstFault lines e
  /-- The order of lines that are accepted does not matter. -/
  order : ∀ others, lines.Perm others → ∀ p, read lines = .ok p → read others = .ok p
  /-- Blank lines do not matter, wherever they are. -/
  blanks : ∀ before blank rest, lines = before ++ blank :: rest → IsBlank blank →
    read lines = read (before ++ rest)
  /-- Carriage returns at the end of lines do not matter. -/
  returns : ∀ others, List.Forall₂ SameText lines others → read lines = read others
  /-- Neither do the line ends of a text that is made of the lines. -/
  ends : (∀ line ∈ lines, '\n' ∉ line.toList) → ∀ text, Text.Written lines text →
    read (Text.lines text) = read lines

/-- Properties that are written as lines are read back, whatever the order of the lines and the line
ends. -/
def ReadsBack (p : Properties) : Prop :=
  InOrder p → (∀ pair ∈ p.entries, IsWritable pair) →
    ∀ pairs : List (String × String), pairs.Perm p.entries →
    read (pairs.map pairLine) = .ok p ∧
      ∀ text, Text.Written (pairs.map pairLine) text → read (Text.lines text) = .ok p

/-- All lines are read as they should, and all properties that can be written are read back. -/
theorem reads_properties : (∀ lines, ReadsLines lines) ∧ ∀ p, ReadsBack p := by
  refine ⟨fun lines => ?_, fun p hp hwritable pairs hperm => ?_⟩
  · exact {
      accepts := read_eq_ok_iff
      holds := fun p => holds_of_read
      refuses := fun e => read_eq_error_iff
      order := fun others hperm p => read_of_perm hperm
      blanks := by
        rintro before blank rest rfl hblank
        exact read_of_blank hblank
      returns := fun others => read_of_sameText
      ends := fun hclean text hwritten => read_lines hwritten hclean }
  · have hpairs : ∀ pair ∈ pairs, IsWritable pair :=
      fun pair hpair => hwritable pair (hperm.mem_iff.mp hpair)
    have hread := read_pairLine hp hperm hpairs
    refine ⟨hread, fun text hwritten => ?_⟩
    have hclean : ∀ line ∈ pairs.map pairLine, '\n' ∉ line.toList :=
      List.forall_mem_map.mpr fun pair hpair => (hpairs pair hpair).newline_not_mem
    rw [read_lines hwritten hclean, hread]

/-- A value may hold the sign, and the pairs are put in order. -/
example : read ["B=2==\r", "", "A="] = .ok ⟨[("A", ""), ("B", "2==")]⟩ := by decide +kernel

end SlotUpdate.Properties
