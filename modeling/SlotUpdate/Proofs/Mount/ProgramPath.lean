import SlotUpdate.Mount.Program

/-!
# Programs are below the mount directory

A path that `programPath` gives is the mount directory followed by the names that lead from it to
the program. There is at least one of them, and none leads up (`isBelow_of_programPath`).

Paths are texts, so this is first shown of characters: `Path.pieces` are what stands between
slashes, and joining puts the pieces of one path after those of the other (`Path.parts_join`). The
same goes for components (`Path.components_join`) if the second path begins with a name.
-/

namespace SlotUpdate

/-! ## Pieces between slashes -/

/-- No piece of a split contains the element that was split on. -/
theorem not_mem_of_mem_splitOn {β : Type} [DecidableEq β] {x : β} {l piece : List β}
    (h : piece ∈ l.splitOn x) : x ∉ piece := by
  rw [List.splitOn_eq_splitOnP] at h
  induction l generalizing piece with
  | nil =>
    rw [List.splitOnP_nil] at h
    rw [List.mem_singleton.mp h]
    exact List.not_mem_nil
  | cons y l ih =>
    rw [List.splitOnP_cons_eq_if_modifyHead] at h
    split at h
    · rcases List.mem_cons.mp h with rfl | h
      · exact List.not_mem_nil
      · exact ih h
    · rename_i hne
      obtain ⟨first, others, hsplit⟩ :=
        List.exists_cons_of_ne_nil (List.splitOnP_ne_nil (fun z => z == x) l)
      rw [hsplit, List.modifyHead_cons] at h
      rw [hsplit] at ih
      rcases List.mem_cons.mp h with rfl | h
      · have hfirst : x ∉ first := ih List.mem_cons_self
        have hy : x ≠ y := fun heq => hne (by simp [heq])
        exact fun hmem => (List.mem_cons.mp hmem).elim hy hfirst
      · exact ih (List.mem_cons_of_mem first h)

namespace Path

/-- The pieces of characters between slashes, without empty ones. -/
def pieces (cs : List Char) : List (List Char) := (cs.splitOn '/').filter (· ≠ [])

/-- The parts of a path are the pieces of its text. -/
theorem parts_eq (p : Path) : p.parts = (pieces p.text.toList).map String.ofList := rfl

/-- Nothing has no pieces. -/
@[simp]
theorem pieces_nil : pieces [] = [] := by
  simp [pieces]

/-- A slash stands between pieces. -/
theorem pieces_slash (cs ds : List Char) : pieces (cs ++ '/' :: ds) = pieces cs ++ pieces ds := by
  unfold pieces
  rw [List.splitOn_eq_splitOnP, List.splitOnP_append_cons cs ds (by simp), List.filter_append]
  rfl

/-- A slash at the end stands between pieces. -/
theorem pieces_append {cs : List Char} (h : cs.getLast? = some '/') (ds : List Char) :
    pieces (cs ++ ds) = pieces cs ++ pieces ds := by
  obtain ⟨init, rfl⟩ := List.getLast?_eq_some_iff.mp h
  rw [List.append_assoc, pieces_slash, List.singleton_append, pieces_slash, pieces_nil,
    List.append_nil]

/-- A piece is not empty and has no slash. -/
theorem of_mem_pieces {cs piece : List Char} (h : piece ∈ pieces cs) :
    piece ≠ [] ∧ '/' ∉ piece := by
  obtain ⟨hmem, hne⟩ := List.mem_filter.mp h
  exact ⟨of_decide_eq_true hne, not_mem_of_mem_splitOn hmem⟩

/-- Pieces can be read back from what they are written as. -/
theorem pieces_intercalate {ls : List (List Char)} (h : ∀ l ∈ ls, l ≠ [] ∧ '/' ∉ l) :
    pieces (['/'].intercalate ls) = ls := by
  cases ls with
  | nil => exact pieces_nil
  | cons l ls =>
    unfold pieces
    rw [List.splitOn_intercalate '/' (fun l' hl' => (h l' hl').2) (List.cons_ne_nil l ls),
      List.filter_eq_self]
    exact fun l' hl' => decide_eq_true (h l' hl').1

/-! ## Joined paths -/

variable {base rel : Path}

/-- What a relative path is joined to comes first. -/
theorem join_eq (base : Path) (h : rel.isAbsolute = false) :
    base.join rel = ⟨base.text ++ rel.text⟩ ∧
        (base.text = "" ∨ base.text.toList.getLast? = some '/') ∨
      base.join rel = ⟨base.text ++ "/" ++ rel.text⟩ ∧ base.text ≠ "" := by
  unfold join
  rw [h, if_neg Bool.false_ne_true]
  split
  · rename_i hends
    exact Or.inl ⟨rfl, hends⟩
  · rename_i hends
    exact Or.inr ⟨rfl, fun hempty => hends (Or.inl hempty)⟩

/-- The parts of a joined path are those of the first path and then those of the second. -/
theorem parts_join (h : rel.isAbsolute = false) :
    (base.join rel).parts = base.parts ++ rel.parts := by
  rw [parts_eq, parts_eq, parts_eq, ← List.map_append]
  congr 1
  rcases join_eq base h with ⟨hjoin, hempty | hends⟩ | ⟨hjoin, -⟩
  · simp [hjoin, hempty]
  · rw [hjoin, String.toList_append, pieces_append hends]
  · rw [hjoin, String.toList_append, String.toList_append, List.append_assoc]
    exact pieces_slash base.text.toList rel.text.toList

/-- Whether a path starts at the root is seen from what its text begins with. -/
theorem isAbsolute_append {front : String} (hne : front ≠ "") (back : String) :
    (Path.mk (front ++ back)).isAbsolute = (Path.mk front).isAbsolute := by
  obtain ⟨c, cs, hcs⟩ := List.exists_cons_of_ne_nil (mt String.toList_eq_nil_iff.mp hne)
  unfold isAbsolute
  rw [String.toList_append, hcs]
  rfl

/-- A joined path starts at the root if the first path does. -/
theorem isAbsolute_join (h : rel.isAbsolute = false) :
    (base.join rel).isAbsolute = base.isAbsolute := by
  rcases join_eq base h with ⟨hjoin, -⟩ | ⟨hjoin, hne⟩
  · by_cases hempty : base.text = ""
    · have hbase : base.isAbsolute = false := by simp [isAbsolute, hempty]
      rw [hbase, ← h, hjoin, hempty, String.empty_append]
    · rw [hjoin, isAbsolute_append hempty]
  · rw [hjoin, String.append_assoc, isAbsolute_append hne]

/-- The components of a joined path are those of the first path and then those of the second, if
that does not begin with a dot. -/
theorem components_join (h : rel.isAbsolute = false) (hdot : rel.parts.head? ≠ some ".") :
    (base.join rel).components = base.components ++ rel.components := by
  have hrel : rel.components = rel.parts.filterMap Component.ofPart? := by
    unfold components
    rw [h, if_neg Bool.false_ne_true, if_neg hdot]
  have hhead : (base.parts ++ rel.parts).head? = some "." ↔ base.parts.head? = some "." := by
    cases base.parts with
    | nil => simp [hdot]
    | cons part parts => simp
  rw [hrel]
  unfold components
  simp only [isAbsolute_join h, parts_join h, List.filterMap_append, hhead]
  split
  · rfl
  · split <;> rfl

/-! ## Names -/

/-- The name of an entry of a directory, which leads neither up nor nowhere. -/
structure IsName (name : String) : Prop where
  /-- It is not empty. -/
  nonempty : name ≠ ""
  /-- It is not the directory itself. -/
  notCurrent : name ≠ "."
  /-- It is not the directory above. -/
  notParent : name ≠ ".."
  /-- It is a single part of a path. -/
  single : '/' ∉ name.toList

/-- A name is a component of its own. -/
theorem IsName.ofPart?_eq {name : String} (h : IsName name) :
    Component.ofPart? name = some (.normal name) := by
  unfold Component.ofPart?
  rw [if_neg h.notCurrent, if_neg h.notParent]

/-- Names are components of their own. -/
theorem filterMap_ofPart? {names : List String} (h : ∀ name ∈ names, IsName name) :
    names.filterMap Component.ofPart? = names.map .normal := by
  induction names with
  | nil => rfl
  | cons name names ih =>
    obtain ⟨hname, hnames⟩ := List.forall_mem_cons.mp h
    rw [List.filterMap_cons_some hname.ofPart?_eq, ih hnames, List.map_cons]

/-- The entries among the components of a path have names. -/
theorem isName_of_mem_components {p : Path} {name : String} (h : .normal name ∈ p.components) :
    IsName name := by
  have hmem : .normal name ∈ p.parts.filterMap Component.ofPart? := by
    unfold components at h
    split at h
    · exact (List.mem_cons.mp h).resolve_left nofun
    · split at h
      · exact (List.mem_cons.mp h).resolve_left nofun
      · exact h
  obtain ⟨part, hpart, hname⟩ := List.mem_filterMap.mp hmem
  obtain ⟨piece, hpiece, rfl⟩ := List.mem_map.mp hpart
  obtain ⟨hne, hslash⟩ := of_mem_pieces hpiece
  unfold Component.ofPart? at hname
  split at hname
  · cases hname
  · rename_i hcurrent
    split at hname
    · cases hname
    · rename_i hparent
      cases hname
      refine ⟨?_, hcurrent, hparent, ?_⟩
      · exact fun hempty => hne (String.ofList_eq_empty_iff.mp hempty)
      · rwa [String.toList_ofList]

/-- The text of names is a relative path with these names as its parts. -/
theorem parts_intercalate {names : List String} (h : ∀ name ∈ names, IsName name) :
    (Path.mk ("/".intercalate names)).parts = names := by
  have hpieces : ∀ l ∈ names.map String.toList, l ≠ [] ∧ '/' ∉ l := by
    intro l hl
    obtain ⟨name, hname, rfl⟩ := List.mem_map.mp hl
    exact ⟨mt String.toList_eq_nil_iff.mp (h name hname).nonempty, (h name hname).single⟩
  rw [parts_eq, String.toList_intercalate]
  have hslash : "/".toList = ['/'] := rfl
  rw [hslash, pieces_intercalate hpieces, List.map_map]
  simp

/-- The text of names is a relative path. -/
theorem isAbsolute_intercalate {names : List String} (h : ∀ name ∈ names, IsName name) :
    (Path.mk ("/".intercalate names)).isAbsolute = false := by
  cases names with
  | nil => rfl
  | cons name names =>
    obtain ⟨hname, -⟩ := List.forall_mem_cons.mp h
    obtain ⟨c, cs, hcs⟩ :=
      List.exists_cons_of_ne_nil (mt String.toList_eq_nil_iff.mp hname.nonempty)
    have hslash : c ≠ '/' := by
      rintro rfl
      exact hname.single (hcs ▸ List.mem_cons_self)
    have hhead : (['/'].intercalate ((name :: names).map String.toList)).head? = some c := by
      cases names <;> simp [List.intercalate, hcs]
    unfold isAbsolute
    rw [String.toList_intercalate]
    exact (congrArg (· == some '/') hhead).trans (by simp [hslash])

/-- Joining names puts them after the components of a path. -/
theorem components_join_names (base : Path) {names : List String}
    (h : ∀ name ∈ names, IsName name) :
    (base.join ⟨"/".intercalate names⟩).components = base.components ++ names.map .normal := by
  have habsolute := isAbsolute_intercalate h
  have hparts := parts_intercalate h
  have hdot : (Path.mk ("/".intercalate names)).parts.head? ≠ some "." := by
    rw [hparts]
    exact fun hhead => (h "." (List.mem_of_head? hhead)).notCurrent rfl
  have hnames := filterMap_ofPart? h
  rw [components_join habsolute hdot]
  unfold components
  rw [habsolute, if_neg Bool.false_ne_true, if_neg hdot, hparts, hnames]

/-- A path is below another one: it is followed by one or more names. -/
def IsBelow (p base : Path) : Prop :=
  ∃ names ≠ [], (∀ name ∈ names, IsName name) ∧
    p.components = base.components ++ names.map .normal

/-- Joining names leads below a path. -/
theorem isBelow_join (base : Path) {names : List String} (hne : names ≠ [])
    (h : ∀ name ∈ names, IsName name) : (base.join ⟨"/".intercalate names⟩).IsBelow base :=
  ⟨names, hne, h, components_join_names base h⟩

/-- Components that are names lead to names. -/
theorem isName_of_descend {names names' : List String} {cs : List Component}
    (h : descend names cs = some names') (hnames : ∀ name ∈ names, IsName name)
    (hcs : ∀ name, .normal name ∈ cs → IsName name) : ∀ name ∈ names', IsName name := by
  induction names, cs using descend.induct with
  | case1 names =>
    obtain rfl := Option.some.inj h
    exact hnames
  | case2 names name rest ih =>
    unfold descend at h
    refine ih h ?_ fun name' hname' => hcs name' (List.mem_cons_of_mem _ hname')
    intro name' hname'
    rcases List.mem_append.mp hname' with hmem | hmem
    · exact hnames name' hmem
    · rw [List.mem_singleton.mp hmem]
      exact hcs name List.mem_cons_self
  | case3 names rest ih =>
    unfold descend at h
    exact ih h hnames fun name' hname' => hcs name' (List.mem_cons_of_mem _ hname')
  | case4 => cases h
  | case5 name names rest ih =>
    -- A step up leaves a part of the names.
    unfold descend at h
    refine ih h (fun name' hname' => hnames name' (List.dropLast_subset _ hname')) ?_
    exact fun name' hname' => hcs name' (List.mem_cons_of_mem _ hname')
  | case6 =>
    unfold descend at h
    cases h

end Path

/-- What is found of a partition is its directory joined with names. -/
theorem exists_names_of_programPath {mountDir path : Path} {program : String}
    (h : programPath mountDir program = .ok path) :
    ∃ names ≠ [], (∀ name ∈ names, Path.IsName name) ∧
      path = mountDir.join ⟨"/".intercalate names⟩ := by
  unfold programPath at h
  split at h
  · cases h
  · split at h
    · cases h
    · cases h
    · rename_i names hne hdescend
      have hnames := Path.isName_of_descend hdescend (fun _ hmem => nomatch hmem)
        fun _ hname => Path.isName_of_mem_components hname
      dsimp only at h
      split at h
      · cases h
        exact ⟨names, hne, hnames, rfl⟩
      · cases h

/-- The program of a partition is below the directory where the partition is mounted. -/
theorem isBelow_of_programPath {mountDir path : Path} {program : String}
    (h : programPath mountDir program = .ok path) : path.IsBelow mountDir := by
  obtain ⟨names, hne, hnames, rfl⟩ := exists_names_of_programPath h
  exact Path.isBelow_join mountDir hne hnames

end SlotUpdate
