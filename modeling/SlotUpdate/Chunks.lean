/-!
# Chunks of a list

`chunks n xs` cuts a list into pieces of `n` elements, `n` positive, the last one shorter if the
length is no multiple of `n`. Nothing is lost (`flatten_chunks`), and no piece is empty or longer
than `n` (`length_le_of_mem_chunks`, `ne_nil_of_mem_chunks`).
-/

namespace SlotUpdate

/-- The pieces of `n` elements of a list, in order; the last one may be shorter. -/
def chunks {α : Type} (n : Nat) (xs : List α) (pos : 0 < n := by decide) : List (List α) :=
  if _h : xs = [] then [] else xs.take n :: chunks n (xs.drop n) pos
termination_by xs.length
decreasing_by
  -- Something is left and something is taken off.
  have hx : 0 < xs.length := List.length_pos_iff.2 _h
  rw [List.length_drop]
  omega

/-- The pieces hold the list, in order. -/
theorem flatten_chunks {α : Type} (n : Nat) (xs : List α) (pos : 0 < n) :
    (chunks n xs pos).flatten = xs := by
  fun_induction chunks n xs pos with
  | case1 => rfl
  | case2 xs h ih => rw [List.flatten_cons, ih, List.take_append_drop]

/-- No piece is longer than `n`. -/
theorem length_le_of_mem_chunks {α : Type} {n : Nat} {xs p : List α} {pos : 0 < n}
    (h : p ∈ chunks n xs pos) : p.length ≤ n := by
  fun_induction chunks n xs pos with
  | case1 => cases h
  | case2 xs hx ih =>
    rcases List.mem_cons.1 h with rfl | h
    · exact List.length_take_le n xs
    · exact ih h

/-- No piece is empty. -/
theorem ne_nil_of_mem_chunks {α : Type} {n : Nat} {xs p : List α} {pos : 0 < n}
    (h : p ∈ chunks n xs pos) : p ≠ [] := by
  fun_induction chunks n xs pos with
  | case1 => cases h
  | case2 xs hx ih =>
    rcases List.mem_cons.1 h with rfl | h
    · simp [List.take_eq_nil_iff, Nat.ne_of_gt pos, hx]
    · exact ih h

end SlotUpdate
