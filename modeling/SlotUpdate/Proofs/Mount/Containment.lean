import Mathlib.Algebra.Ring.Int.Defs
import SlotUpdate.Proofs.Mount.ProgramPath

/-!
# Programs are found by walking down from the mount directory

What `programPath` gives is told by a walk over the parts between the slashes of a text, with a
stack of names: a name is pushed, two dots take the last name off, and anything else is passed over
(`Path.walk`). The program is where the walk ends. It is refused if the walk steps up from an empty
stack, or ends with one. `ResolvesWithin` says this of a text, and what follows from it.

The components of a text are what a walk does not pass over, so following them is a walk
(`Path.descend_eq_walk`). How high the stack is depends on the numbers of names and of steps up
alone (`Path.length_of_walk`), so a walk fails where there were more steps up than names
(`Path.walk_eq_none_iff`). Walks compose, so parts that lead nowhere by themselves can be put in
anywhere (`Path.walk_detour`).
-/

namespace SlotUpdate

namespace Path

/-! ## Walks -/

/-- A part that leads nowhere: an empty one, or a dot. -/
def IsIdle (part : String) : Prop := part = "" ∨ part = "."

instance (part : String) : Decidable (IsIdle part) := inferInstanceAs (Decidable (_ ∨ _))

/-- The stack of names after one more part. There is no step up from an empty stack. -/
def turn (stack : List String) (part : String) : Option (List String) :=
  if IsIdle part then some stack
  else if part = ".." then stack.tail?
  else some (part :: stack)

/-- The stack of names after parts, whose top comes first. -/
def walk (stack parts : List String) : Option (List String) := parts.foldlM turn stack

/-- How far down a part leads. -/
def fall (part : String) : Int := if IsIdle part then 0 else if part = ".." then -1 else 1

/-- How far down parts lead together: the number of names less the number of steps up. -/
def depth (parts : List String) : Int := (parts.map fall).sum

section Walks

variable {stack stack' parts : List String} {part : String}

/-- Without parts a walk ends where it began. -/
@[simp]
theorem walk_nil (stack : List String) : walk stack [] = some stack := rfl

/-- A walk goes on from the stack after the first part. -/
@[simp]
theorem walk_cons (stack : List String) (part : String) (parts : List String) :
    walk stack (part :: parts) = (turn stack part).bind fun next => walk next parts := rfl

/-- Walks compose. -/
theorem walk_append (stack front back : List String) :
    walk stack (front ++ back) = (walk stack front).bind fun next => walk next back :=
  List.foldlM_append

/-- Nothing leads down. -/
@[simp]
theorem depth_nil : depth [] = 0 := rfl

/-- Parts lead as far down as the first one and the others do. -/
@[simp]
theorem depth_cons (part : String) (parts : List String) :
    depth (part :: parts) = fall part + depth parts := List.sum_cons

/-- A name is pushed. -/
theorem turn_name {name : String} (h : IsName name) (stack : List String) :
    turn stack name = some (name :: stack) := by
  have hcounts : ¬IsIdle name := fun hidle => hidle.elim h.nonempty h.notCurrent
  rw [turn, if_neg hcounts, if_neg h.notParent]

/-- Names are pushed one after the other. -/
theorem walk_names {names : List String} (h : ∀ name ∈ names, IsName name)
    (stack : List String) : walk stack names = some (names.reverse ++ stack) := by
  induction names generalizing stack with
  | nil => rfl
  | cons name names ih =>
    obtain ⟨hname, hnames⟩ := List.forall_mem_cons.mp h
    rw [walk_cons, turn_name hname, Option.bind_some, ih hnames, List.reverse_cons,
      List.append_assoc, List.singleton_append]

/-- The stack grows as far as a part leads down. -/
theorem length_of_turn (h : turn stack part = some stack') :
    (stack'.length : Int) = stack.length + fall part := by
  unfold turn at h
  unfold fall
  split at h
  · rename_i hidle
    rw [if_pos hidle, ← Option.some.inj h, Int.add_zero]
  · rename_i hcounts
    rw [if_neg hcounts]
    split at h
    · rename_i hup
      rw [if_pos hup]
      cases stack with
      | nil => cases h
      | cons name below =>
        rw [← Option.some.inj h, List.length_cons]
        omega
    · rename_i hname
      rw [if_neg hname, ← Option.some.inj h, List.length_cons]
      omega

/-- A part cannot be followed if it leads up from an empty stack. -/
theorem turn_eq_none_iff : turn stack part = none ↔ (stack.length : Int) + fall part < 0 := by
  constructor
  · intro h
    unfold turn at h
    split at h
    · cases h
    · rename_i hcounts
      split at h
      · rename_i hup
        cases stack with
        | nil =>
          rw [fall, if_neg hcounts, if_pos hup]
          decide
        | cons name below => cases h
      · cases h
  · intro hbelow
    cases hturn : turn stack part with
    | none => rfl
    | some stack' =>
      -- Otherwise the next stack would have less than no names.
      have hlength := length_of_turn hturn
      omega

/-- At the end of a walk the stack has grown as far as the parts lead down. -/
theorem length_of_walk (h : walk stack parts = some stack') :
    (stack'.length : Int) = stack.length + depth parts := by
  induction parts generalizing stack with
  | nil =>
    rw [← Option.some.inj h, depth_nil, Int.add_zero]
  | cons part parts ih =>
    obtain ⟨next, hturn, hrest⟩ := Option.bind_eq_some_iff.mp h
    rw [ih hrest, length_of_turn hturn, depth_cons, Int.add_assoc]

/-- A walk fails where the parts so far lead up further than the stack is high. -/
theorem walk_eq_none_iff : walk stack parts = none ↔
    ∃ front, front <+: parts ∧ (stack.length : Int) + depth front < 0 := by
  induction parts generalizing stack with
  | nil =>
    constructor
    · exact nofun
    · rintro ⟨front, hfront, hbelow⟩
      rw [List.prefix_nil.mp hfront, depth_nil] at hbelow
      omega
  | cons part parts ih =>
    rw [walk_cons]
    cases hturn : turn stack part with
    | none =>
      have hbelow := turn_eq_none_iff.mp hturn
      refine ⟨fun _ => ⟨[part], by simp, ?_⟩, fun _ => rfl⟩
      rw [depth_cons, depth_nil]
      omega
    | some next =>
      have hlength := length_of_turn hturn
      rw [Option.bind_some, ih]
      constructor
      · rintro ⟨front, hfront, hbelow⟩
        refine ⟨part :: front, List.cons_prefix_cons.mpr ⟨rfl, hfront⟩, ?_⟩
        rw [depth_cons]
        omega
      · rintro ⟨front, hfront, hbelow⟩
        cases front with
        | nil =>
          rw [depth_nil] at hbelow
          omega
        | cons first front =>
          obtain ⟨rfl, hfront'⟩ := List.cons_prefix_cons.mp hfront
          rw [depth_cons] at hbelow
          exact ⟨front, hfront', by omega⟩

end Walks

/-! ## Components -/

/-- Empty parts are passed over. -/
theorem walk_filter (stack parts : List String) :
    walk stack (parts.filter (· ≠ "")) = walk stack parts := by
  induction parts generalizing stack with
  | nil => rfl
  | cons part parts ih =>
    by_cases hempty : part = ""
    · have hturn : turn stack part = some stack := if_pos (Or.inl hempty)
      rw [List.filter_cons_of_neg (by simpa using hempty), walk_cons, hturn, Option.bind_some, ih]
    · rw [List.filter_cons_of_pos (by simpa using hempty), walk_cons, walk_cons]
      exact congrArg _ (funext ih)

/-- Following the components of parts that are not empty is a walk. What is followed has its top at
the end. -/
theorem descend_eq_walk {parts : List String} (h : ∀ part ∈ parts, part ≠ "")
    (names : List String) :
    descend names (parts.filterMap Component.ofPart?) =
      (walk names.reverse parts).map List.reverse := by
  induction parts generalizing names with
  | nil =>
    rw [walk_nil, Option.map_some, List.reverse_reverse]
    rfl
  | cons part parts ih =>
    obtain ⟨hpart, hparts⟩ := List.forall_mem_cons.mp h
    by_cases hdot : part = "."
    · have hturn : turn names.reverse part = some names.reverse := if_pos (Or.inr hdot)
      have hnone : Component.ofPart? part = none := if_pos hdot
      rw [List.filterMap_cons_none hnone, walk_cons, hturn, Option.bind_some, ih hparts]
    · have hcounts : ¬IsIdle part := fun hidle => hidle.elim hpart hdot
      by_cases hup : part = ".."
      · have hsome : Component.ofPart? part = some .parent := by
          rw [Component.ofPart?, if_neg hdot, if_pos hup]
        rw [List.filterMap_cons_some hsome, walk_cons, turn, if_neg hcounts, if_pos hup]
        cases names with
        | nil => rfl
        | cons name names =>
          -- The name that is taken off is the last one.
          obtain ⟨top, below, hsplit⟩ :=
            List.exists_cons_of_ne_nil (mt List.reverse_eq_nil_iff.mp (List.cons_ne_nil name names))
          have hbelow : (name :: names).dropLast.reverse = below := by
            rw [← List.tail_reverse, hsplit, List.tail_cons]
          rw [hsplit, descend, ih hparts, hbelow]
          rfl
      · have hsome : Component.ofPart? part = some (.normal part) := by
          rw [Component.ofPart?, if_neg hdot, if_neg hup]
        have hpushed : (names ++ [part]).reverse = part :: names.reverse := by simp
        rw [List.filterMap_cons_some hsome, walk_cons, turn, if_neg hcounts, if_neg hup, descend,
          ih hparts, hpushed]
        rfl

/-! ## Texts -/

/-- The parts of a text between its slashes, empty ones as well. -/
def sections (text : String) : List String := (text.toList.splitOn '/').map String.ofList

/-- A text is what another one begins with, cut off at a slash, or the whole of it. -/
def IsStage (stage text : String) : Prop := text = stage ∨ ∃ rest, text = stage ++ "/" ++ rest

/-- A text has at least one part. -/
theorem sections_ne_nil (text : String) : sections text ≠ [] :=
  mt List.map_eq_nil_iff.mp (List.splitOnP_ne_nil _ _)

/-- The parts of a path are those between its slashes that are not empty. -/
theorem parts_eq_filter (text : String) :
    (Path.mk text).parts = (sections text).filter (· ≠ "") := by
  unfold parts sections
  rw [List.filter_map]
  congr 1
  apply List.filter_congr
  intro piece _
  simp

/-- A slash stands between parts. -/
theorem sections_slash (front back : String) :
    sections (front ++ "/" ++ back) = sections front ++ sections back := by
  unfold sections
  have hslash : "/".toList = ['/'] := rfl
  rw [String.toList_append, String.toList_append, hslash, List.append_assoc, List.singleton_append,
    List.splitOn_eq_splitOnP, List.splitOnP_append_cons _ _ (by simp), List.map_append]
  rfl

/-- A text is its parts with slashes between them. -/
theorem intercalate_sections (text : String) : "/".intercalate (sections text) = text := by
  apply String.toList_injective
  have hslash : "/".toList = ['/'] := rfl
  have hparts : (sections text).map String.toList = text.toList.splitOn '/' := by
    unfold sections
    rw [List.map_map]
    simp
  rw [String.toList_intercalate, hslash, hparts, List.intercalate_splitOn]

/-- Parts without slashes can be read back from the text that they are written as. -/
theorem sections_intercalate {parts : List String} (hne : parts ≠ [])
    (h : ∀ part ∈ parts, '/' ∉ part.toList) : sections ("/".intercalate parts) = parts := by
  have hslash : "/".toList = ['/'] := rfl
  have hpieces : ∀ piece ∈ parts.map String.toList, '/' ∉ piece := by
    intro piece hpiece
    obtain ⟨part, hpart, rfl⟩ := List.mem_map.mp hpiece
    exact h part hpart
  unfold sections
  rw [String.toList_intercalate, hslash,
    List.splitOn_intercalate '/' hpieces (mt List.map_eq_nil_iff.mp hne), List.map_map]
  simp

/-- A text without a slash is a part of its own. -/
theorem sections_of_not_mem {text : String} (h : '/' ∉ text.toList) : sections text = [text] := by
  have hparts : ∀ part ∈ [text], '/' ∉ part.toList := by simpa using h
  have hsections := sections_intercalate (List.cons_ne_nil text []) hparts
  rwa [String.intercalate_singleton] at hsections

/-- The first parts of a text are those of a stage of it. -/
theorem isStage_iff {front : List String} {text : String} (hne : front ≠ []) :
    front <+: sections text ↔ ∃ stage, IsStage stage text ∧ sections stage = front := by
  constructor
  · rintro ⟨back, hback⟩
    have htext := intercalate_sections text
    have hslashes : ∀ part ∈ front, '/' ∉ part.toList := by
      intro part hpart
      have hmem : part ∈ sections text := hback ▸ List.mem_append_left back hpart
      obtain ⟨piece, hpiece, rfl⟩ := List.mem_map.mp hmem
      rw [String.toList_ofList]
      exact not_mem_of_mem_splitOn hpiece
    refine ⟨"/".intercalate front, ?_, sections_intercalate hne hslashes⟩
    rw [← hback] at htext
    by_cases hend : back = []
    · rw [hend, List.append_nil] at htext
      exact Or.inl htext.symm
    · rw [String.intercalate_append_of_ne_nil hne hend] at htext
      exact Or.inr ⟨_, htext.symm⟩
  · rintro ⟨stage, rfl | ⟨rest, rfl⟩, rfl⟩
    · exact List.prefix_rfl
    · rw [sections_slash]
      exact List.prefix_append _ _

/-- The walk over a text fails if a stage of it has more steps up than names. -/
theorem walk_sections_eq_none_iff {text : String} : walk [] (sections text) = none ↔
    ∃ stage, IsStage stage text ∧ depth (sections stage) < 0 := by
  rw [walk_eq_none_iff]
  constructor
  · rintro ⟨front, hfront, hbelow⟩
    rw [List.length_nil] at hbelow
    have hne : front ≠ [] := by
      rintro rfl
      exact absurd hbelow (by decide)
    obtain ⟨stage, hstage, rfl⟩ := (isStage_iff hne).mp hfront
    exact ⟨stage, hstage, by omega⟩
  · rintro ⟨stage, hstage, hbelow⟩
    refine ⟨sections stage, (isStage_iff (sections_ne_nil stage)).mpr ⟨stage, hstage, rfl⟩, ?_⟩
    rw [List.length_nil]
    omega

/-! ## Detours -/

/-- A place between the parts of a text: after a slash, or in front of a first part. -/
def IsPlace (front back : String) : Prop :=
  (∃ start, front = start ++ "/") ∨ front = "" ∧ (Path.mk back).isAbsolute = false

/-- What leads nowhere between two parts: one more slash, a dot, or a name and a step up. A slash in
front of the first part leads to the root. -/
inductive IsDetour (front : String) : String → Prop
  /-- Another slash. -/
  | slash (h : front ≠ "") : IsDetour front "/"
  /-- The directory itself. -/
  | dot : IsDetour front "./"
  /-- Into a directory and back. -/
  | back {name : String} (h : IsName name) : IsDetour front (name ++ "/../")

/-- A detour is some parts that a walk ends where it began with. -/
theorem IsDetour.exists_walk {front extra : String} (h : IsDetour front extra) :
    ∃ lost, extra = lost ++ "/" ∧ (front = "" → (Path.mk extra).isAbsolute = false) ∧
      ∀ stack, walk stack (sections lost) = some stack := by
  cases h with
  | slash hne => exact ⟨"", rfl, fun hempty => absurd hempty hne, fun _ => rfl⟩
  | dot => exact ⟨".", rfl, fun _ => rfl, fun _ => rfl⟩
  | @back name hname =>
    have htext : name ++ "/../" = name ++ "/" ++ ".." ++ "/" := by
      rw [String.append_assoc, String.append_assoc]
      rfl
    have hnames : ∀ part ∈ [name], IsName part := by simpa using hname
    refine ⟨name ++ "/" ++ "..", htext, fun _ => ?_, fun stack => ?_⟩
    · rw [isAbsolute_append hname.nonempty]
      simpa using isAbsolute_intercalate hnames
    · have hup : walk (name :: stack) (sections "..") = some stack := rfl
      rw [sections_slash, sections_of_not_mem hname.single, walk_append, walk_names hnames]
      exact hup

/-- A text with a slash at the end is not empty. -/
theorem append_slash_ne_empty (start : String) : start ++ "/" ≠ "" :=
  fun h => absurd (String.append_eq_empty_iff.mp h).2 (by decide)

/-- A walk ends where it did if a detour is put in. -/
theorem walk_detour {front extra back : String} (hplace : IsPlace front back)
    (hdetour : IsDetour front extra) (stack : List String) :
    walk stack (sections (front ++ extra ++ back)) = walk stack (sections (front ++ back)) := by
  obtain ⟨lost, rfl, -, hlost⟩ := hdetour.exists_walk
  have hback (next : List String) :
      walk next (sections (lost ++ "/" ++ back)) = walk next (sections back) := by
    rw [sections_slash, walk_append, hlost, Option.bind_some]
  rcases hplace with ⟨start, rfl⟩ | ⟨rfl, -⟩
  · have htext : start ++ "/" ++ (lost ++ "/") ++ back = start ++ "/" ++ (lost ++ "/" ++ back) := by
      simp only [String.append_assoc]
    rw [htext, sections_slash start (lost ++ "/" ++ back), sections_slash start back, walk_append,
      walk_append]
    exact congrArg _ (funext hback)
  · rw [String.empty_append, String.empty_append, hback]

/-- Whether a text starts at the root does not change if a detour is put in. -/
theorem isAbsolute_detour {front extra back : String} (hplace : IsPlace front back)
    (hdetour : IsDetour front extra) :
    (Path.mk (front ++ extra ++ back)).isAbsolute = (Path.mk (front ++ back)).isAbsolute := by
  by_cases hfront : front = ""
  · -- Both texts are relative.
    have hback : (Path.mk back).isAbsolute = false := by
      rcases hplace with ⟨start, hstart⟩ | ⟨-, hback⟩
      · exact absurd (hstart.symm.trans hfront) (append_slash_ne_empty start)
      · exact hback
    obtain ⟨lost, hlost, hrelative, -⟩ := hdetour.exists_walk
    have hne : extra ≠ "" := hlost ▸ append_slash_ne_empty lost
    rw [hfront, String.empty_append, String.empty_append, isAbsolute_append hne, hrelative hfront,
      hback]
  · rw [String.append_assoc, isAbsolute_append hfront, isAbsolute_append hfront]

/-! ## Joined names -/

/-- What names are joined to comes first, whether there are any or not. -/
theorem startsWith_join_names (base : Path) {names : List String}
    (h : ∀ name ∈ names, IsName name) :
    (base.join ⟨"/".intercalate names⟩).startsWith base = true := by
  unfold startsWith
  rw [List.isPrefixOf_iff_prefix, components_join_names base h]
  exact List.prefix_append _ _

end Path

/-! ## Programs -/

/-- Where a program is, by the walk over the parts of its text. -/
def walkedPath (mountDir : Path) (program : String) : Except MountError Path :=
  if program.toList.head? = some '/' then .error (.absolutePath program)
  else match Path.walk [] (Path.sections program) with
    | none | some [] => .error (.pathEscapes program)
    | some stack => .ok (mountDir.join ⟨"/".intercalate stack.reverse⟩)

/-- The first character of an absolute path is a slash. -/
theorem head?_eq_slash_iff {program : String} :
    program.toList.head? = some '/' ↔ ∃ rest, program = "/" ++ rest := by
  rw [List.head?_eq_some_iff]
  constructor
  · rintro ⟨rest, hrest⟩
    have hslash : "/".toList = ['/'] := rfl
    refine ⟨String.ofList rest, String.toList_injective ?_⟩
    rw [hrest, String.toList_append, hslash, String.toList_ofList, List.singleton_append]
  · rintro ⟨rest, rfl⟩
    exact ⟨rest.toList, String.toList_append⟩

/-- Following the components of a relative path is the walk over its parts. -/
theorem descend_components {program : String} (h : (Path.mk program).isAbsolute = false) :
    Path.descend [] (Path.mk program).components =
      (Path.walk [] (Path.sections program)).map List.reverse := by
  have hparts := Path.parts_eq_filter program
  have hne : ∀ part ∈ (Path.mk program).parts, part ≠ "" := by
    intro part hpart
    rw [hparts] at hpart
    exact of_decide_eq_true (List.mem_filter.mp hpart).2
  have hwalk := Path.descend_eq_walk hne []
  rw [List.reverse_nil, hparts, Path.walk_filter, ← hparts] at hwalk
  rw [← hwalk]
  unfold Path.components
  rw [h, if_neg Bool.false_ne_true]
  split <;> rfl

/-- Where the walk over a relative path ends is told by names. -/
theorem isName_of_walk {program : String} (h : (Path.mk program).isAbsolute = false)
    {stack : List String} (hwalk : Path.walk [] (Path.sections program) = some stack) :
    ∀ name ∈ stack.reverse, Path.IsName name := by
  have hdescend := descend_components h
  rw [hwalk, Option.map_some] at hdescend
  exact Path.isName_of_descend hdescend (fun _ hmem => nomatch hmem)
    fun _ hname => Path.isName_of_mem_components hname

/-- A program is where the walk over the parts of its text ends. -/
theorem programPath_eq_walkedPath (mountDir : Path) (program : String) :
    programPath mountDir program = walkedPath mountDir program := by
  unfold programPath walkedPath
  by_cases habsolute : (Path.mk program).isAbsolute = true
  · rw [if_pos habsolute, if_pos (eq_of_beq habsolute)]
  · have hrelative := eq_false_of_ne_true habsolute
    rw [if_neg habsolute, if_neg fun hhead => habsolute (beq_iff_eq.mpr hhead),
      descend_components hrelative]
    cases hwalk : Path.walk [] (Path.sections program) with
    | none => rfl
    | some stack =>
      cases stack with
      | nil => rfl
      | cons name below =>
        have hnames := isName_of_walk hrelative hwalk
        have hbelow := Path.startsWith_join_names mountDir hnames
        rw [Option.map_some]
        split
        · rename_i heq
          cases heq
        · rename_i heq
          exact absurd (Option.some.inj heq) (by simp)
        · rename_i heq
          rw [← Option.some.inj heq]
          exact if_pos hbelow

/-- What names lead to is found. -/
theorem programPath_intercalate (mountDir : Path) {names : List String} (hne : names ≠ [])
    (h : ∀ name ∈ names, Path.IsName name) :
    programPath mountDir ("/".intercalate names) =
      .ok (mountDir.join ⟨"/".intercalate names⟩) := by
  have hrelative := Path.isAbsolute_intercalate h
  have hhead : ("/".intercalate names).toList.head? ≠ some '/' := ne_of_beq_false hrelative
  have hwalk := Path.walk_names h []
  rw [List.append_nil] at hwalk
  obtain ⟨name, below, hstack⟩ :=
    List.exists_cons_of_ne_nil (mt List.reverse_eq_nil_iff.mp hne)
  rw [programPath_eq_walkedPath, walkedPath, if_neg hhead,
    Path.sections_intercalate hne fun name hname => (h name hname).single, hwalk, hstack]
  dsimp only
  rw [← hstack, List.reverse_reverse]

/-- A walk is refused if it fails or ends where it began. -/
theorem walkedPath_eq_pathEscapes_iff {mountDir : Path} {program : String}
    (h : ¬∃ rest, program = "/" ++ rest) :
    walkedPath mountDir program = .error (.pathEscapes program) ↔
      (∃ stage, Path.IsStage stage program ∧ Path.depth (Path.sections stage) < 0) ∨
        Path.depth (Path.sections program) = 0 := by
  unfold walkedPath
  rw [if_neg (mt head?_eq_slash_iff.mp h)]
  cases hwalk : Path.walk [] (Path.sections program) with
  | none => exact iff_of_true rfl (Or.inl (Path.walk_sections_eq_none_iff.mp hwalk))
  | some stack =>
    have hnever := mt Path.walk_sections_eq_none_iff.mpr
      (fun hnone => Option.some_ne_none stack (hwalk.symm.trans hnone))
    have hlength := Path.length_of_walk hwalk
    rw [or_iff_right hnever]
    cases stack with
    | nil =>
      rw [List.length_nil] at hlength
      exact iff_of_true rfl (by omega)
    | cons name below =>
      rw [List.length_cons, List.length_nil] at hlength
      exact iff_of_false nofun (by omega)

/-- A walk leads to every program that is found. -/
theorem exists_walk_of_programPath {mountDir path : Path} {program : String}
    (h : programPath mountDir program = .ok path) :
    ∃ names, Path.walk [] (Path.sections program) = some names := by
  rw [programPath_eq_walkedPath] at h
  unfold walkedPath at h
  split at h
  · cases h
  · split at h
    · cases h
    · cases h
    · rename_i names _ hwalk
      exact ⟨names, hwalk⟩

/-- Two texts that both start at the root or both do not, and whose walks end alike, name the same
program. -/
theorem mapError_walkedPath (mountDir : Path) {program program' : String}
    (habsolute : (Path.mk program).isAbsolute = (Path.mk program').isAbsolute)
    (hwalk : Path.walk [] (Path.sections program) = Path.walk [] (Path.sections program')) :
    (walkedPath mountDir program).mapError MountError.name =
      (walkedPath mountDir program').mapError MountError.name := by
  have hhead : program.toList.head? = some '/' ↔ program'.toList.head? = some '/' :=
    beq_iff_eq.symm.trans ((Bool.eq_iff_iff.mp habsolute).trans beq_iff_eq)
  unfold walkedPath
  simp only [hhead, hwalk]
  split
  · rfl
  · split <;> rfl

/-- What is known of the program that a text names in a partition mounted at a directory. -/
structure ResolvesWithin (mountDir : Path) (program : String) : Prop where
  /-- It is where the walk over the parts of the text ends. -/
  walked : programPath mountDir program = walkedPath mountDir program
  /-- A text is reported as absolute if it begins with a slash, and only then. -/
  absolute : programPath mountDir program = .error (.absolutePath program) ↔
    ∃ rest, program = "/" ++ rest
  /-- A text is reported as leading out if it steps up from the mount directory on the way, or names
  the mount directory in the end, and only then. -/
  escapes : programPath mountDir program = .error (.pathEscapes program) ↔
    (¬∃ rest, program = "/" ++ rest) ∧
      ((∃ stage, Path.IsStage stage program ∧ Path.depth (Path.sections stage) < 0) ∨
        Path.depth (Path.sections program) = 0)
  /-- What is found has the components of the mount directory and then one or more names. Looking
  these names up finds the same. -/
  below : ∀ path, programPath mountDir program = .ok path →
    ∃ names ≠ [], (∀ name ∈ names, Path.IsName name) ∧
      path = mountDir.join ⟨"/".intercalate names⟩ ∧
      path.components = mountDir.components ++ names.map .normal ∧
      programPath mountDir ("/".intercalate names) = .ok path
  /-- Nothing that the text begins with leads out of the mount directory if something is found. -/
  inside : ∀ path, programPath mountDir program = .ok path →
    ∀ stage, Path.IsStage stage program →
      ∃ names, Path.walk [] (Path.sections stage) = some names ∧
        (names.length : Int) = Path.depth (Path.sections stage)
  /-- Where a walk ends is found to be below the mount directory. -/
  unchecked : (¬∃ rest, program = "/" ++ rest) →
    ∀ names, Path.walk [] (Path.sections program) = some names →
      (mountDir.join ⟨"/".intercalate names.reverse⟩).startsWith mountDir = true
  /-- A detour between two parts changes nothing, except for the text in a report. -/
  detours : ∀ front extra back, program = front ++ back → Path.IsPlace front back →
    Path.IsDetour front extra →
    (programPath mountDir (front ++ extra ++ back)).mapError MountError.name =
      (programPath mountDir program).mapError MountError.name

/-- Programs are resolved within the mount directory. -/
theorem programPath_resolvesWithin (mountDir : Path) (program : String) :
    ResolvesWithin mountDir program where
  walked := programPath_eq_walkedPath mountDir program
  absolute := by
    rw [programPath_eq_walkedPath, ← head?_eq_slash_iff]
    unfold walkedPath
    split
    · rename_i hhead
      exact iff_of_true rfl hhead
    · rename_i hhead
      refine iff_of_false ?_ hhead
      split <;> exact nofun
  escapes := by
    by_cases habsolute : ∃ rest, program = "/" ++ rest
    · rw [programPath_eq_walkedPath, walkedPath, if_pos (head?_eq_slash_iff.mpr habsolute)]
      exact iff_of_false nofun fun h => h.1 habsolute
    · rw [programPath_eq_walkedPath, walkedPath_eq_pathEscapes_iff habsolute]
      exact (and_iff_right habsolute).symm
  below := by
    intro path hpath
    obtain ⟨names, hne, hnames, rfl⟩ := exists_names_of_programPath hpath
    exact ⟨names, hne, hnames, rfl, Path.components_join_names mountDir hnames,
      programPath_intercalate mountDir hne hnames⟩
  inside := by
    intro path hpath stage hstage
    obtain ⟨names, hwalk⟩ := exists_walk_of_programPath hpath
    obtain ⟨back, hback⟩ := (Path.isStage_iff (Path.sections_ne_nil stage)).mpr ⟨stage, hstage, rfl⟩
    rw [← hback, Path.walk_append] at hwalk
    obtain ⟨reached, hreached, -⟩ := Option.bind_eq_some_iff.mp hwalk
    have hlength := Path.length_of_walk hreached
    rw [List.length_nil] at hlength
    exact ⟨reached, hreached, by omega⟩
  unchecked := by
    intro hrelative names hwalk
    have habsolute : (Path.mk program).isAbsolute = false :=
      eq_false_of_ne_true fun h => hrelative (head?_eq_slash_iff.mp (eq_of_beq h))
    exact Path.startsWith_join_names mountDir (isName_of_walk habsolute hwalk)
  detours := by
    rintro front extra back rfl hplace hdetour
    have habsolute := Path.isAbsolute_detour hplace hdetour
    have hwalk := Path.walk_detour hplace hdetour []
    rw [programPath_eq_walkedPath, programPath_eq_walkedPath]
    exact mapError_walkedPath mountDir habsolute hwalk

end SlotUpdate
