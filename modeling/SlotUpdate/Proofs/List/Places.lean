/-!
# Places in a list

What stands before an element of a list, and what a list of happenings keeps to. `Keeps` says of a
list that each of its elements is allowed by those before it. This is shown part by part
(`keeps_append`), and read off at every place (`Keeps.of_split`).
-/

namespace SlotUpdate

variable {β : Type}

/-- Where an element stands that occurs once in a list. -/
theorem split_unique {l₁ r₁ l₂ r₂ : List β} {x y : β} (h : l₁ ++ x :: r₁ = l₂ ++ y :: r₂)
    (hl : y ∉ l₁) (hr : y ∉ r₁) : l₁ = l₂ ∧ x = y := by
  rcases List.append_eq_append_iff.mp h with ⟨m, rfl, hm⟩ | ⟨m, rfl, hm⟩
  · cases m with
    | nil => simpa using (List.cons.inj hm).1
    | cons z m =>
      obtain ⟨-, rfl⟩ := List.cons.inj hm
      simp at hr
  · cases m with
    | nil => simpa using (List.cons.inj hm).1.symm
    | cons z m =>
      obtain ⟨rfl, -⟩ := List.cons.inj hm
      simp at hl

/-- What stands before the first occurrence of an element stands before every occurrence. -/
theorem prefix_of_not_mem {l₁ r₁ l₂ r₂ : List β} {y : β} (h : l₁ ++ r₁ = l₂ ++ y :: r₂)
    (hl : y ∉ l₁) : l₁ <+: l₂ := by
  rcases List.append_eq_append_iff.mp h with ⟨m, rfl, -⟩ | ⟨m, rfl, hm⟩
  · exact List.prefix_append l₁ m
  · cases m with
    | nil => simp
    | cons z m =>
      obtain ⟨rfl, -⟩ := List.cons.inj hm
      simp at hl

/-- An element that does not occur in the last part of a list stands before it. -/
theorem split_append_of_not_mem {l₁ r₁ l₂ r₂ : List β} {y : β} (h : l₁ ++ r₁ = l₂ ++ y :: r₂)
    (hr : y ∉ r₁) : ∃ m, l₁ = l₂ ++ y :: m ∧ r₂ = m ++ r₁ := by
  rcases List.append_eq_append_iff.mp h with ⟨m, rfl, hm⟩ | ⟨m, rfl, hm⟩
  · rw [hm] at hr
    simp at hr
  · cases m with
    | nil =>
      rw [List.nil_append] at hm
      rw [← hm] at hr
      simp at hr
    | cons z m =>
      obtain ⟨rfl, rfl⟩ := List.cons.inj hm
      exact ⟨m, rfl, rfl⟩

/-- The last element of a list stands in its last part. -/
theorem mem_of_append_eq_concat {l₁ l₂ l : List β} {y : β} (h : l₁ ++ l₂ = l ++ [y])
    (hne : l₂ ≠ []) : y ∈ l₂ := by
  rcases List.eq_nil_or_concat l₂ with hnil | ⟨m, z, hconcat⟩
  · exact absurd hnil hne
  · rw [List.concat_eq_append] at hconcat
    subst hconcat
    rw [← List.append_assoc] at h
    obtain ⟨-, hlast⟩ := List.append_inj' h rfl
    rw [List.singleton_inj.mp hlast]
    exact List.mem_append_right m (List.mem_singleton_self y)

/-- The last element of the beginning of an increasing list is not behind its last element. -/
theorem le_getLast?_of_prefix {l l' : List Nat} (hsorted : l'.Pairwise (· < ·)) (h : l <+: l')
    {i : Nat} (hi : l.getLast? = some i) : ∃ j, l'.getLast? = some j ∧ i ≤ j := by
  have hmem : i ∈ l' := h.subset (List.mem_of_getLast? hi)
  rcases List.eq_nil_or_concat l' with rfl | ⟨m, j, rfl⟩
  · cases hmem
  · rw [List.concat_eq_append] at hmem hsorted ⊢
    refine ⟨j, List.getLast?_concat, ?_⟩
    rcases List.mem_append.mp hmem with hmem | hmem
    · obtain ⟨-, -, hlt⟩ := List.pairwise_append.mp hsorted
      exact Nat.le_of_lt (hlt i hmem j (List.mem_singleton_self j))
    · exact Nat.le_of_eq (List.mem_singleton.mp hmem)

/-- A list keeps a law after a past: each of its elements is allowed by those before it. -/
def Keeps (law : List β → β → Prop) (past : List β) : List β → Prop
  | [] => True
  | e :: es => law past e ∧ Keeps law (past ++ [e]) es

variable {law : List β → β → Prop} {past : List β}

/-- An empty list keeps every law. -/
@[simp]
theorem keeps_nil : Keeps law past [] := trivial

/-- The first element is allowed by the past, and is the past of the others. -/
@[simp]
theorem keeps_cons (e : β) (es : List β) :
    Keeps law past (e :: es) ↔ law past e ∧ Keeps law (past ++ [e]) es := Iff.rfl

/-- A part of a list keeps a law after what stands before it. -/
@[simp]
theorem keeps_append (es fs : List β) :
    Keeps law past (es ++ fs) ↔ Keeps law past es ∧ Keeps law (past ++ es) fs := by
  induction es generalizing past with
  | nil => simp
  | cons e es ih => simp [ih, and_assoc]

/-- Elements that are allowed after every past keep the law. -/
theorem Keeps.of_forall {es : List β} (h : ∀ e ∈ es, ∀ past, law past e) : Keeps law past es := by
  induction es generalizing past with
  | nil => trivial
  | cons e es ih =>
    exact ⟨h e List.mem_cons_self past, ih fun f hf => h f (List.mem_cons_of_mem e hf)⟩

/-- Wherever an element stands in a list that keeps a law, it is allowed by those before it. -/
theorem Keeps.of_split {es before after : List β} {e : β} (h : Keeps law [] es)
    (hes : es = before ++ e :: after) : law before e := by
  subst hes
  obtain ⟨-, hlaw, -⟩ := (keeps_append before (e :: after)).mp h
  exact hlaw

end SlotUpdate
