import SlotUpdate.Proofs.List.Pieces
import SlotUpdate.Text.Blank

/-!
# Texts with any line ends

`Text.Written lines text` says that a text is made of lines that end in a newline, with a carriage
return before it or without; the last one may have no end. `Text.lines` finds these lines: it takes
them off the front one by one (`linesChars_line`). It cannot tell a carriage return that belongs to
a line from one that belongs to its end, so a line is found up to that (`uncarried`).
-/

namespace SlotUpdate.Text

/-- What may stand after a line of a text. -/
inductive IsLineEnd : String → Prop where
  /-- A newline alone. -/
  | newline : IsLineEnd "\n"
  /-- A carriage return and a newline. -/
  | carriage : IsLineEnd "\r\n"

/-- A text is made of lines, in order. Each has an end, and the last one may have none. -/
inductive Written : List String → String → Prop where
  /-- No lines are the empty text. -/
  | nil : Written [] ""
  /-- A last line without an end. -/
  | last (line : String) : Written [line] line
  /-- A line with its end, and the others. -/
  | cons {line ending : String} {lines : List String} {text : String} (ends : IsLineEnd ending)
    (rest : Written lines text) : Written (line :: lines) (line ++ ending ++ text)

/-- A line without the carriage return at its end, if there is one. -/
def uncarried (l : List Char) : List Char :=
  if l.getLast? = some '\r' then l.dropLast else l

variable {line rest : List Char}

/-- A line that a newline ends is the first line. -/
theorem linesChars_line (h : '\n' ∉ line) :
    linesChars (line ++ '\n' :: rest) = uncarried line :: linesChars rest := by
  obtain ⟨first, others, hrest⟩ :=
    List.exists_cons_of_ne_nil (List.splitOnP_ne_nil (· == '\n') rest)
  rw [← List.splitOn_eq_splitOnP] at hrest
  unfold linesChars
  simp only [splitOn_cons h, hrest, List.getLast?_cons_cons, List.dropLast_cons_cons, List.map_cons]
  split <;> rfl

/-- A line that the text ends is the only one. -/
theorem linesChars_last (h : '\n' ∉ line) (hne : line ≠ []) : linesChars line = [line] := by
  unfold linesChars
  simp only [splitOn_of_not_mem h, List.dropLast_singleton, List.map_nil, List.getLast?_singleton]
  rfl

/-- A carriage return that belongs to the end of a line does not belong to the line. -/
theorem uncarried_append (l : List Char) : uncarried (l ++ ['\r']) = l := by
  unfold uncarried
  rw [if_pos (by rw [List.getLast?_concat]), List.dropLast_concat]

/-! ## Lines of a text -/

/-- The first line of a text is found, but for a carriage return at its end. -/
theorem lines_line {first ending : String} (ends : IsLineEnd ending)
    (h : '\n' ∉ first.toList) (text : String) :
    ∃ found, lines (first ++ ending ++ text) = found :: lines text ∧
      (found = first ∨ found = String.ofList (uncarried first.toList)) := by
  cases ends with
  | newline =>
    have htext : (first ++ "\n" ++ text).toList = first.toList ++ '\n' :: text.toList := by
      rw [String.toList_append, String.toList_append, List.append_assoc]
      rfl
    refine ⟨_, ?_, Or.inr rfl⟩
    rw [lines, htext, linesChars_line h, List.map_cons, lines]
  | carriage =>
    have htext : (first ++ "\r\n" ++ text).toList =
        (first.toList ++ ['\r']) ++ '\n' :: text.toList := by
      rw [String.toList_append, String.toList_append, List.append_assoc, List.append_assoc]
      rfl
    have hclean : '\n' ∉ first.toList ++ ['\r'] := by
      rw [List.mem_append, not_or]
      exact ⟨h, by decide⟩
    refine ⟨first, ?_, Or.inl rfl⟩
    rw [lines, htext, linesChars_line hclean, uncarried_append, List.map_cons, String.ofList_toList,
      lines]

/-- A line that the text ends is found if it is not empty. -/
theorem lines_last {last : String} (h : '\n' ∉ last.toList) (hne : last ≠ "") :
    lines last = [last] := by
  have hchars : last.toList ≠ [] := fun hnil => hne (String.toList_inj.mp hnil)
  rw [lines, linesChars_last h hchars, List.map_singleton, String.ofList_toList]

/-- The empty text has no lines. -/
theorem lines_empty : lines "" = [] := rfl

end SlotUpdate.Text
