import SlotUpdate.Progress.LineBuffer

/-!
# Lines do not depend on pieces

A line buffer that takes a byte stream in two pieces gives out what it gives out when it takes the
stream at once (`LineBuffer.push_append`). The proof follows the stream byte by byte: one more byte
either ends the line (`push_newline`) or is appended to it (`push_cons`), and appending in two parts
is appending at once (`append_append`), also where the line grows too long in between.

`keptLines` tells the lines of a whole stream without a buffer: its segments that a newline ends, if
they are not too long. Those are what a buffer gives out that was empty at first
(`lines_push_empty`).
-/

namespace SlotUpdate.LineBuffer

namespace Pushed

/-- What two pushes give out, the second into the buffer after the first. -/
def andThen (first : Pushed) (next : LineBuffer → Pushed) : Pushed :=
  let second := next first.buffer
  ⟨second.buffer, first.lines ++ second.lines, first.log ++ second.log⟩

/-- Of three pushes, any two neighbours can be taken together. -/
theorem andThen_assoc (first : Pushed) (f g : LineBuffer → Pushed) :
    (first.andThen f).andThen g = first.andThen fun b => (f b).andThen g := by
  simp [andThen, List.append_assoc]

end Pushed

/-- What appending bytes without a newline gives out. -/
def extended (b : LineBuffer) (piece : Bytes) : Pushed :=
  ⟨(b.append piece).1, [], (b.append piece).2⟩

/-- What appending the rest of a line gives out. -/
def completed (b : LineBuffer) (piece : Bytes) : Pushed :=
  ⟨empty, (b.append piece).1.finished, (b.append piece).2⟩

/-- Appending in two parts is appending at once. -/
theorem append_append (b : LineBuffer) (x y : Bytes) :
    b.append (x ++ y) =
      (((b.append x).1.append y).1, (b.append x).2 ++ ((b.append x).1.append y).2) := by
  obtain ⟨pending, overflowed⟩ := b
  cases overflowed with
  | true => rfl
  | false =>
    unfold append
    by_cases hx : maxLineLength < pending.length + x.length
    · have hxy : maxLineLength < pending.length + (x.length + y.length) := by omega
      simp [hx, hxy]
    · by_cases hy : maxLineLength < pending.length + x.length + y.length
      · have hxy : maxLineLength < pending.length + (x.length + y.length) := by omega
        simp [hx, hxy, hy]
      · have hxy : ¬maxLineLength < pending.length + (x.length + y.length) := by omega
        simp [hx, hxy, hy]

/-- Extending a line in two parts is extending it at once. -/
theorem extended_append (b : LineBuffer) (x y : Bytes) :
    b.extended (x ++ y) = (b.extended x).andThen (·.extended y) := by
  unfold extended Pushed.andThen
  rw [append_append]
  rfl

/-- Extending a line before it is completed is completing it at once. -/
theorem completed_append (b : LineBuffer) (x y : Bytes) :
    b.completed (x ++ y) = (b.extended x).andThen (·.completed y) := by
  unfold completed extended Pushed.andThen
  rw [append_append]
  rfl

/-- A piece that is not the last ends with a newline. -/
theorem pushPieces_cons (b : LineBuffer) (piece : Bytes) {rest : List Bytes} (h : rest ≠ []) :
    b.pushPieces (piece :: rest) = (b.completed piece).andThen (·.pushPieces rest) := by
  cases rest with
  | nil => exact absurd rfl h
  | cons next rest => rfl

/-- The first part of a piece can be appended before the rest is pushed. -/
theorem pushPieces_append (b : LineBuffer) (x y : Bytes) (rest : List Bytes) :
    b.pushPieces ((x ++ y) :: rest) = (b.extended x).andThen (·.pushPieces (y :: rest)) := by
  cases rest with
  | nil => exact b.extended_append x y
  | cons next rest =>
    show (b.completed (x ++ y)).andThen (·.pushPieces (next :: rest)) =
      (b.extended x).andThen fun b => (b.completed y).andThen (·.pushPieces (next :: rest))
    rw [completed_append, Pushed.andThen_assoc]

/-! ## Byte by byte -/

/-- Pushing nothing gives out nothing. -/
theorem push_nil (b : LineBuffer) : b.push [] = b.extended [] := by
  unfold push
  rw [List.splitOn_eq_splitOnP, List.splitOnP_nil]
  rfl

/-- A newline ends the line. -/
theorem push_newline (b : LineBuffer) (xs : Bytes) :
    b.push (newline :: xs) = (b.completed []).andThen (·.push xs) := by
  unfold push
  rw [List.splitOn_eq_splitOnP, List.splitOn_eq_splitOnP, List.splitOnP_cons_eq_if_modifyHead,
    if_pos (by simp)]
  exact b.pushPieces_cons [] (List.splitOnP_ne_nil _ xs)

/-- What is appended before the rest of a stream can be pushed with it. -/
theorem push_of_extended (b : LineBuffer) {x xs : Bytes} (h : newline ∉ x) :
    b.push (x ++ xs) = (b.extended x).andThen (·.push xs) := by
  have hsplit : ∀ head rest, xs.splitOn newline = head :: rest →
      (x ++ xs).splitOn newline = (x ++ head) :: rest := by
    intro head rest hxs
    induction x with
    | nil => exact hxs
    | cons y x ih =>
      obtain ⟨hy, hx⟩ := not_or.mp fun hmem => h (List.mem_cons.mpr hmem)
      have hne : ¬(y == newline) = true := by
        rw [beq_iff_eq]
        exact fun heq => hy heq.symm
      have hrest := ih hx
      rw [List.splitOn_eq_splitOnP] at hrest ⊢
      rw [List.cons_append, List.splitOnP_cons_eq_if_modifyHead, if_neg hne, hrest]
      rfl
  obtain ⟨head, rest, hxs⟩ : ∃ head rest, xs.splitOn newline = head :: rest := by
    rw [List.splitOn_eq_splitOnP]
    exact List.exists_cons_of_ne_nil (List.splitOnP_ne_nil _ xs)
  unfold push
  rw [hsplit head rest hxs, hxs]
  exact b.pushPieces_append x head rest

/-- Another byte than a newline is appended to the line. -/
theorem push_cons (b : LineBuffer) {x : UInt8} (h : x ≠ newline) (xs : Bytes) :
    b.push (x :: xs) = (b.extended [x]).andThen (·.push xs) :=
  b.push_of_extended (x := [x]) fun hmem => h (List.mem_singleton.mp hmem).symm

/-- Pushing a stream in two pieces is pushing it at once. -/
theorem push_append (b : LineBuffer) (xs ys : Bytes) :
    b.push (xs ++ ys) = (b.push xs).andThen (·.push ys) := by
  induction xs generalizing b with
  | nil =>
    rw [push_nil]
    exact b.push_of_extended (x := []) List.not_mem_nil
  | cons x xs ih =>
    by_cases hx : x = newline
    · rw [hx, List.cons_append, push_newline, push_newline, Pushed.andThen_assoc]
      simp only [ih]
    · rw [List.cons_append, b.push_cons hx, b.push_cons hx, Pushed.andThen_assoc]
      simp only [ih]

/-! ## The lines of a stream -/

/-- The lines of a stream that are kept: its segments that a newline ends, except those that are too
long. -/
def keptLines (stream : Bytes) : List String :=
  ((stream.splitOn newline).dropLast.filter (·.length ≤ maxLineLength)).map Utf8.decodeLossy

/-- A line of which nothing was there before is kept if it is not too long. -/
theorem finished_append_empty (piece : Bytes) :
    (empty.append piece).1.finished =
      if piece.length ≤ maxLineLength then [Utf8.decodeLossy piece] else [] := by
  unfold append empty finished
  by_cases h : maxLineLength < piece.length
  · simp [h]
  · simp [h, Nat.le_of_not_lt h]

/-- An empty buffer gives out the pieces that are not the last, except those that are too long. -/
theorem lines_pushPieces_empty (pieces : List Bytes) :
    (empty.pushPieces pieces).lines =
      (pieces.dropLast.filter (·.length ≤ maxLineLength)).map Utf8.decodeLossy := by
  induction pieces with
  | nil => rfl
  | cons piece rest ih =>
    cases rest with
    | nil => rfl
    | cons next rest =>
      rw [pushPieces_cons _ _ (List.cons_ne_nil next rest)]
      show (empty.append piece).1.finished ++ (empty.pushPieces (next :: rest)).lines = _
      rw [ih, finished_append_empty, List.dropLast_cons_cons, List.filter_cons]
      by_cases h : piece.length ≤ maxLineLength
      · simp [h]
      · simp [h]

/-- An empty buffer gives out the lines of the stream that are kept. -/
theorem lines_push_empty (stream : Bytes) : (empty.push stream).lines = keptLines stream :=
  lines_pushPieces_empty _

/-- A line that is cut in the middle of a character is read like any other. -/
example : keptLines [0x67, 0xC3, 0xA9, 0x0A, 0x78] = ["gé"] := by decide +kernel

end SlotUpdate.LineBuffer
