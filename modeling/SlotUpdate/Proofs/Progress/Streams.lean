import SlotUpdate.Proofs.Progress.Lines

/-!
# Streams in any chunks

What a line buffer gives out is a matter of the stream alone, however the stream is cut into chunks.
`Segmented` takes a stream apart into the segments that a newline ends and the tail after the last
newline, without a buffer. `since` is what a buffer gave out since it was cleared last, for any
history of chunks and clearings, and `stream` is what was pushed since then.

A history is one push of its stream (`since_eq_push`), since two pushes are one
(`push_append`). A push of a stream goes through its segments one by one (`push_segment`): each of
them begins with an empty buffer, so that what becomes of it depends on its own length only
(`push_segmented`). `lines_of_any_chunks` puts both together.
-/

namespace SlotUpdate.LineBuffer

/-! ## Segments and the tail -/

/-- A stream is made of segments, each with the newline that ends it, and of a tail. -/
structure Segmented (stream : Bytes) (segments : List Bytes) (tail : Bytes) : Prop where
  /-- Nothing else is in the stream. -/
  whole : stream = segments.flatMap (· ++ [newline]) ++ tail
  /-- No segment holds a newline. -/
  segments_clean : ∀ segment ∈ segments, newline ∉ segment
  /-- Neither does the tail. -/
  tail_clean : newline ∉ tail

/-- Every stream can be taken apart. -/
theorem exists_segmented (stream : Bytes) : ∃ segments tail, Segmented stream segments tail := by
  induction stream with
  | nil => exact ⟨[], [], rfl, List.forall_mem_nil _, List.not_mem_nil⟩
  | cons x xs ih =>
    obtain ⟨segments, tail, rfl, hsegments, htail⟩ := ih
    by_cases hx : x = newline
    · -- A newline in front ends an empty segment.
      have hclean : ∀ segment ∈ [] :: segments, newline ∉ segment :=
        List.forall_mem_cons.2 ⟨List.not_mem_nil, hsegments⟩
      exact ⟨[] :: segments, tail, by rw [hx]; rfl, hclean, htail⟩
    · have hcons : ∀ {ys : Bytes}, newline ∉ ys → newline ∉ x :: ys := by
        intro ys hys
        rw [List.mem_cons, not_or]
        exact ⟨Ne.symm hx, hys⟩
      -- Any other byte belongs to the first segment, or to the tail if there is none.
      cases segments with
      | nil => exact ⟨[], x :: tail, rfl, List.forall_mem_nil _, hcons htail⟩
      | cons segment rest =>
        obtain ⟨hsegment, hrest⟩ := List.forall_mem_cons.1 hsegments
        have hclean : ∀ s ∈ (x :: segment) :: rest, newline ∉ s :=
          List.forall_mem_cons.2 ⟨hcons hsegment, hrest⟩
        exact ⟨(x :: segment) :: rest, tail, rfl, hclean, htail⟩

/-! ## Pushing a stream -/

/-- A segment is completed before the rest of the stream is pushed. -/
theorem push_segment (b : LineBuffer) {segment : Bytes} (h : newline ∉ segment) (rest : Bytes) :
    b.push (segment ++ newline :: rest) = (b.completed segment).andThen (·.push rest) := by
  calc b.push (segment ++ newline :: rest)
    _ = (b.extended segment).andThen (·.push (newline :: rest)) := b.push_of_extended h
    _ = (b.extended segment).andThen fun b => (b.completed []).andThen (·.push rest) := by
        simp only [push_newline]
    _ = (b.completed segment).andThen (·.push rest) := by
        rw [← Pushed.andThen_assoc, ← completed_append, List.append_nil]

/-- The tail extends the line. -/
theorem push_tail (b : LineBuffer) {tail : Bytes} (h : newline ∉ tail) :
    b.push tail = b.extended tail := by
  calc b.push tail
    _ = (b.extended tail).andThen (·.push []) := by
        rw [← b.push_of_extended h, List.append_nil]
    _ = (b.extended tail).andThen (·.extended []) := by
        simp only [push_nil]
    _ = b.extended tail := by
        rw [← extended_append, List.append_nil]

/-- The segments that are not too long, as lines. -/
def kept (segments : List Bytes) : List String :=
  (segments.filter (·.length ≤ maxLineLength)).map Utf8.decodeLossy

/-- A warning for each piece that is too long. -/
def warnings (pieces : List Bytes) : List LogLine :=
  List.replicate (pieces.countP (maxLineLength < ·.length)) tooLong

/-- What of a tail is kept for the rest of its line. -/
def keptTail (tail : Bytes) : Bytes :=
  if tail.length ≤ maxLineLength then tail else []

/-- What is kept of a tail without a newline has none. -/
theorem newline_not_mem_keptTail {tail : Bytes} (h : newline ∉ tail) : newline ∉ keptTail tail := by
  unfold keptTail
  split
  · exact h
  · exact List.not_mem_nil

/-- No more of a tail is kept than the longest line. -/
theorem length_keptTail_le (tail : Bytes) : (keptTail tail).length ≤ maxLineLength := by
  unfold keptTail
  split
  case isTrue hshort => exact hshort
  case isFalse => exact Nat.zero_le _

/-- One more piece is warned about before those after it. -/
theorem warnings_cons (piece : Bytes) (pieces : List Bytes) :
    warnings (piece :: pieces) = warnings [piece] ++ warnings pieces := by
  unfold warnings
  rw [List.replicate_append_replicate, ← List.countP_append, List.singleton_append]

/-- A line that begins with a piece keeps it and warns of nothing, or is too long. -/
theorem append_empty (piece : Bytes) :
    (empty.append piece).1.pending = keptTail piece ∧
      (empty.append piece).2 = warnings [piece] := by
  unfold append empty keptTail warnings
  by_cases h : maxLineLength < piece.length
  · simp [h, Nat.not_le_of_lt h]
  · simp [h, Nat.le_of_not_lt h]

/-- A segment that begins with an empty buffer is kept as a line, or warned about. -/
theorem completed_empty (segment : Bytes) :
    empty.completed segment = ⟨empty, kept [segment], warnings [segment]⟩ := by
  unfold completed
  rw [finished_append_empty, (append_empty segment).2]
  by_cases h : segment.length ≤ maxLineLength
  · simp [kept, h]
  · simp [kept, h]

/-- What a push of a whole stream into an empty buffer gives out, by its segments and its tail. -/
theorem push_segmented {stream : Bytes} {segments : List Bytes} {tail : Bytes}
    (h : Segmented stream segments tail) :
    (empty.push stream).lines = kept segments ∧
      (empty.push stream).log = warnings (segments ++ [tail]) ∧
      (empty.push stream).buffer.pending = keptTail tail := by
  obtain ⟨rfl, hsegments, htail⟩ := h
  induction segments with
  | nil =>
    obtain ⟨hpending, hlog⟩ := append_empty tail
    show (empty.push tail).lines = [] ∧ (empty.push tail).log = warnings [tail] ∧
      (empty.push tail).buffer.pending = keptTail tail
    rw [empty.push_tail htail]
    exact ⟨rfl, hlog, hpending⟩
  | cons segment rest ih =>
    obtain ⟨hsegment, hrest⟩ := List.forall_mem_cons.1 hsegments
    obtain ⟨hlines, hlog, hpending⟩ := ih hrest
    -- The segment leaves an empty buffer behind, whether it is kept or not.
    have hpush : empty.push ((segment :: rest).flatMap (· ++ [newline]) ++ tail) =
        (Pushed.mk empty (kept [segment]) (warnings [segment])).andThen
          (·.push (rest.flatMap (· ++ [newline]) ++ tail)) := by
      rw [← completed_empty, ← empty.push_segment hsegment]
      simp
    rw [hpush]
    refine ⟨?_, ?_, hpending⟩
    · show kept [segment] ++ (empty.push _).lines = kept (segment :: rest)
      rw [hlines]
      simp only [kept, ← List.map_append, ← List.filter_append, List.singleton_append]
    · show warnings [segment] ++ (empty.push _).log = warnings (segment :: rest ++ [tail])
      rw [hlog, List.cons_append, warnings_cons segment (rest ++ [tail])]

/-! ## Histories -/

/-- What is done with a line buffer. -/
inductive Use where
  /-- The next bytes of the stream arrive. -/
  | push (chunk : Bytes)
  /-- The buffer is cleared, and a new stream begins. -/
  | clear
  deriving Repr, DecidableEq

/-- What was given out since the buffer was cleared last, after one more use. -/
def Pushed.next (given : Pushed) : Use → Pushed
  | .push chunk => given.andThen (·.push chunk)
  | .clear => ⟨empty, [], []⟩

/-- What a buffer gave out since it was cleared last, or since it was new, with the buffer. -/
def since (uses : List Use) : Pushed :=
  uses.foldl Pushed.next ⟨empty, [], []⟩

/-- The stream since the buffer was cleared last, after one more use. -/
def streamNext (stream : Bytes) : Use → Bytes
  | .push chunk => stream ++ chunk
  | .clear => []

/-- The stream since the buffer was cleared last, or since it was new. -/
def stream (uses : List Use) : Bytes :=
  uses.foldl streamNext []

/-- A history is one push of the stream since the buffer was cleared last. -/
theorem since_eq_push (uses : List Use) : since uses = empty.push (stream uses) := by
  -- The stream before the remaining uses is kept general, since each of them may extend it.
  have hgeneral : ∀ before, uses.foldl Pushed.next (empty.push before) =
      empty.push (uses.foldl streamNext before) := by
    induction uses with
    | nil => exact fun _ => rfl
    | cons use rest ih =>
      intro before
      have hnext : (empty.push before).next use = empty.push (streamNext before use) := by
        cases use with
        | push chunk => exact (empty.push_append before chunk).symm
        | clear => rfl
      rw [List.foldl_cons, List.foldl_cons, hnext, ih]
  exact hgeneral []

/-- In every state that pushes and clearings lead to, pushing a stream in two pieces is pushing it at
once. What was given out since the buffer was cleared last is a matter of the stream since then,
whatever its chunks are: a line for each segment that is not too long, read as a whole, a warning
for each segment and for the tail if they are too long, and the tail is pending if it is not. So no
newline is ever pending, and never more than the longest line. -/
theorem lines_of_any_chunks (uses : List Use) :
    (∀ xs ys, ((since uses).buffer.push (xs ++ ys)).lines =
        ((since uses).buffer.push xs).lines ++
          (((since uses).buffer.push xs).buffer.push ys).lines ∧
      ((since uses).buffer.push (xs ++ ys)).log =
        ((since uses).buffer.push xs).log ++ (((since uses).buffer.push xs).buffer.push ys).log ∧
      ((since uses).buffer.push (xs ++ ys)).buffer =
        (((since uses).buffer.push xs).buffer.push ys).buffer) ∧
    (∃ segments tail, Segmented (stream uses) segments tail ∧
      (since uses).lines =
        (segments.filter (·.length ≤ maxLineLength)).map Utf8.decodeLossy ∧
      (since uses).log =
        List.replicate ((segments ++ [tail]).countP (maxLineLength < ·.length)) tooLong ∧
      (since uses).buffer.pending = if tail.length ≤ maxLineLength then tail else []) ∧
    newline ∉ (since uses).buffer.pending ∧
    (since uses).buffer.pending.length ≤ maxLineLength := by
  obtain ⟨segments, tail, hsegmented⟩ := exists_segmented (stream uses)
  obtain ⟨hlines, hlog, hpending⟩ := push_segmented hsegmented
  rw [← since_eq_push] at hlines hlog hpending
  refine ⟨?_, ⟨segments, tail, hsegmented, hlines, hlog, hpending⟩, ?_, ?_⟩
  · intro xs ys
    rw [push_append]
    exact ⟨rfl, rfl, rfl⟩
  · rw [hpending]
    exact newline_not_mem_keptTail hsegmented.tail_clean
  · rw [hpending]
    exact length_keptTail_le tail

end SlotUpdate.LineBuffer
