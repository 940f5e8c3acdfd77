import Mathlib.Data.List.DropRight

/-!
# Splitting and trimming lists

A list is split at an element into pieces, and elements that do not count are trimmed off the end of
a piece. The first piece ends where the element stands for the first time (`splitOn_cons`).

`Trimmed p l text` says without a function that `text` is left of `l` when the elements that satisfy
`p` are taken off its end. There is exactly one such text (`trimmed_iff`), more of the same elements
at the end of `l` do not change it (`rdropWhile_append`), and what a list starts with, its text
starts with as well (`Trimmed.starts_iff`).
-/

namespace SlotUpdate

/-! ## Splitting -/

section Splitting

variable {β : Type} [DecidableEq β] {x : β} {piece rest : List β}

/-- Without the element there is one piece. -/
theorem splitOn_of_not_mem (h : x ∉ piece) : piece.splitOn x = [piece] := by
  have hall : ∀ y ∈ piece, (y == x) = false := by
    intro y hy
    rw [beq_eq_false_iff_ne]
    rintro rfl
    exact h hy
  rw [List.splitOn_eq_splitOnP, List.splitOnP_eq_singleton hall]

/-- The first piece ends at the element. -/
theorem splitOn_cons (h : x ∉ piece) :
    (piece ++ x :: rest).splitOn x = piece :: rest.splitOn x := by
  rw [List.splitOn_eq_splitOnP, List.splitOnP_append_cons piece rest (by simp),
    ← List.splitOn_eq_splitOnP, ← List.splitOn_eq_splitOnP, splitOn_of_not_mem h]
  rfl

/-- Pieces that each end with the element are the pieces, and an empty one after the last. -/
theorem splitOn_flatMap {pieces : List (List β)} (h : ∀ piece ∈ pieces, x ∉ piece) :
    (pieces.flatMap (· ++ [x])).splitOn x = pieces ++ [[]] := by
  induction pieces with
  | nil => exact splitOn_of_not_mem List.not_mem_nil
  | cons piece pieces ih =>
    obtain ⟨hfirst, hothers⟩ := List.forall_mem_cons.mp h
    rw [List.flatMap_cons, List.append_assoc, List.singleton_append, splitOn_cons hfirst,
      ih hothers, List.cons_append]

end Splitting

/-! ## Trimming -/

variable {α : Type} {p : α → Bool} {l text other tail : List α}

/-- A list is a text and elements that are trimmed off it. -/
structure Trimmed (p : α → Bool) (l text : List α) : Prop where
  /-- Nothing but trimmed elements follows the text. -/
  spelling : ∃ tail, l = text ++ tail ∧ ∀ x ∈ tail, p x = true
  /-- The text does not end in one of them. -/
  ends : ∀ x ∈ text.getLast?, p x = false

/-- What is left after dropping from the right is the trimmed text. -/
theorem trimmed_rdropWhile (p : α → Bool) (l : List α) : Trimmed p l (l.rdropWhile p) := by
  constructor
  · exact ⟨l.rtakeWhile p, List.rdropWhile_append_rtakeWhile.symm, fun x => List.mem_rtakeWhile_imp⟩
  · intro x hx
    obtain ⟨hne, rfl⟩ := List.mem_getLast?_eq_getLast hx
    exact Bool.eq_false_iff.mpr (List.rdropWhile_last_not p l hne)

/-- Trimmed elements at the end do not matter. -/
theorem rdropWhile_append (h : ∀ x ∈ tail, p x = true) :
    (l ++ tail).rdropWhile p = l.rdropWhile p := by
  induction tail using List.reverseRecOn with
  | nil => rw [List.append_nil]
  | append_singleton tail x ih =>
    obtain ⟨htail, hx⟩ := List.forall_mem_append.mp h
    rw [← List.append_assoc, List.rdropWhile_concat_pos p _ x (hx x (List.mem_singleton_self x)),
      ih htail]

/-- A text is left exactly if dropping from the right gives it. -/
theorem trimmed_iff : Trimmed p l text ↔ l.rdropWhile p = text := by
  constructor
  · rintro ⟨⟨tail, rfl, htail⟩, hends⟩
    rw [rdropWhile_append htail, List.rdropWhile_eq_self_iff]
    intro hne
    rw [hends _ (List.getLast?_eq_some_getLast hne)]
    exact Bool.false_ne_true
  · rintro rfl
    exact trimmed_rdropWhile p l

/-- Only one text is left of a list. -/
theorem Trimmed.unique (h : Trimmed p l text) (h' : Trimmed p l other) : text = other :=
  (trimmed_iff.mp h).symm.trans (trimmed_iff.mp h')

/-- What does not end in a trimmed element starts the list exactly if it starts the text. -/
theorem Trimmed.starts_iff {start : List α} (h : Trimmed p l text)
    (hstart : ∀ x ∈ start.getLast?, p x = false) : start <+: l ↔ start <+: text := by
  obtain ⟨⟨tail, rfl, htail⟩, -⟩ := h
  refine ⟨fun hl => ?_, fun htext => htext.trans (List.prefix_append text tail)⟩
  rcases List.prefix_or_prefix_of_prefix hl (List.prefix_append text tail) with htext | ⟨m, rfl⟩
  · exact htext
  -- What goes beyond the text is trimmed, so that the start could not end there.
  · rcases List.eq_nil_or_concat' m with rfl | ⟨m, x, rfl⟩
    · exact (List.append_nil text).symm ▸ List.prefix_refl text
    · have hx : x ∈ tail := by
        obtain ⟨rest, hrest⟩ := hl
        rw [List.append_assoc, List.append_cancel_left_eq] at hrest
        rw [← hrest]
        simp
      rw [← List.append_assoc, List.getLast?_concat] at hstart
      have hfalse := hstart x rfl
      rw [htail x hx] at hfalse
      cases hfalse

end SlotUpdate
