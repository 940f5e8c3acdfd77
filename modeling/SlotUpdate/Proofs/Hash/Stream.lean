import SlotUpdate.Hash.Sha256

/-!
# Digests in pieces

A `RunningDigest` takes a message piece by piece, and its digest is that of the whole message,
wherever the message is cut. `Sha256.stream` is one: it mixes a block into the state as soon as the
block is whole, and keeps the bytes behind the last whole block until the others of their block
come.

`Stream.Holds` says which message a state has taken: what is mixed in and what is kept are that
message, cut at a whole number of blocks. One more piece adds to it (`Stream.Holds.update`), since
whole blocks can be mixed in before the others (`absorb_append`).
-/

namespace SlotUpdate

/-- A digest that takes a message in pieces. -/
structure RunningDigest (κ : Type) where
  /-- The state before the first piece. -/
  start : κ
  /-- Take one more piece. -/
  update : κ → Bytes → κ
  /-- The digest of what was taken. -/
  finish : κ → Bytes
  /-- The digest of all pieces is that of the message that they make up. -/
  finish_foldl : ∀ pieces : List Bytes,
    finish (pieces.foldl update start) = sha256 pieces.flatten

/-- A list that is cut at a whole number of pieces can be cut into pieces in two parts. -/
theorem chunks_append {α : Type} {n : Nat} {pos : 0 < n} {xs : List α} (ys : List α)
    (h : n ∣ xs.length) : chunks n (xs ++ ys) pos = chunks n xs pos ++ chunks n ys pos := by
  fun_induction chunks n xs pos with
  | case1 => rfl
  | case2 xs hne ih =>
    -- The first part is not empty, so it has all elements of the first piece.
    have hn : n ≤ xs.length := Nat.le_of_dvd (List.length_pos_iff.mpr hne) h
    have hdrop : n ∣ (xs.drop n).length := by
      rw [List.length_drop]
      exact Nat.dvd_sub h (Nat.dvd_refl n)
    rw [chunks, dif_neg (List.append_ne_nil_of_left_ne_nil hne ys),
      List.take_append_of_le_length hn, List.drop_append_of_le_length hn, ih hdrop,
      List.cons_append]

namespace Sha256

/-- A block is not empty. -/
theorem block_pos : 0 < 64 := by decide

/-- Mix blocks into a state. -/
def absorb (state : State) (blocks : Bytes) : State :=
  (chunks 64 blocks block_pos).foldl compress state

/-- Whole blocks can be mixed in before the others. -/
theorem absorb_append {blocks : Bytes} (state : State) (rest : Bytes) (h : 64 ∣ blocks.length) :
    absorb state (blocks ++ rest) = absorb (absorb state blocks) rest := by
  unfold absorb
  rw [chunks_append rest h, List.foldl_append]

/-- A message that is taken in pieces. -/
structure Stream where
  /-- The state after all whole blocks. -/
  state : State
  /-- The bytes behind the last whole block. -/
  pending : Bytes
  /-- How many bytes were taken. -/
  count : Nat
  /-- The bytes that are kept are no whole block. -/
  pending_lt : pending.length < 64

namespace Stream

/-- Nothing is taken yet. -/
def start : Stream := ⟨.start, [], 0, block_pos⟩

/-- Take one more piece. -/
def update (s : Stream) (piece : Bytes) : Stream :=
  let waiting := s.pending ++ piece
  let whole := waiting.length / 64 * 64
  { state := absorb s.state (waiting.take whole)
    pending := waiting.drop whole
    count := s.count + piece.length
    pending_lt := by
      rw [List.length_drop]
      omega }

/-- The digest of what was taken: what is kept and the padding are the last blocks. -/
def finish (s : Stream) : Bytes := (absorb s.state (s.pending ++ padding s.count)).digest

/-- A message was taken: whole blocks of it are mixed into the state, and the rest is kept. -/
structure Holds (s : Stream) (message : Bytes) : Prop where
  /-- The bytes of the message are counted. -/
  count : s.count = message.length
  /-- They are mixed in or kept. -/
  mixed : ∃ blocks, message = blocks ++ s.pending ∧ 64 ∣ blocks.length ∧
    s.state = absorb .start blocks

variable {s : Stream} {message : Bytes}

/-- At the start nothing was taken. -/
theorem holds_start : start.Holds [] where
  count := rfl
  mixed := by
    refine ⟨[], rfl, Nat.dvd_zero 64, ?_⟩
    rw [absorb, chunks, dif_pos rfl]
    rfl

/-- One more piece adds to the message. -/
theorem Holds.update (h : s.Holds message) (piece : Bytes) :
    (s.update piece).Holds (message ++ piece) := by
  obtain ⟨blocks, hmessage, hwhole, hstate⟩ := h.mixed
  refine ⟨?_, blocks ++ (s.pending ++ piece).take ((s.pending ++ piece).length / 64 * 64),
    ?_, ?_, ?_⟩
  · show s.count + piece.length = _
    rw [h.count, List.length_append]
  · show message ++ piece = _ ++ (s.pending ++ piece).drop _
    rw [List.append_assoc, List.take_append_drop, hmessage, List.append_assoc]
  · have htake : ((s.pending ++ piece).take ((s.pending ++ piece).length / 64 * 64)).length =
        (s.pending ++ piece).length / 64 * 64 :=
      List.length_take_of_le (Nat.div_mul_le_self _ 64)
    rw [List.length_append, htake]
    exact Nat.dvd_add hwhole (Nat.dvd_mul_left 64 _)
  · rw [absorb_append _ _ hwhole, ← hstate]
    rfl

/-- All pieces are taken as the message that they make up. -/
theorem Holds.foldl (h : s.Holds message) (pieces : List Bytes) :
    (pieces.foldl Stream.update s).Holds (message ++ pieces.flatten) := by
  induction pieces generalizing s message with
  | nil =>
    rw [List.flatten_nil, List.append_nil]
    exact h
  | cons piece pieces ih =>
    rw [List.foldl_cons, List.flatten_cons, ← List.append_assoc]
    exact ih (h.update piece)

/-- The digest of a message that was taken is that of the message in one. -/
theorem Holds.finish_eq (h : s.Holds message) : s.finish = sha256 message := by
  obtain ⟨blocks, hmessage, hwhole, hstate⟩ := h.mixed
  show (absorb s.state (s.pending ++ padding s.count)).digest =
    (absorb .start (message ++ padding message.length)).digest
  rw [hstate, h.count, ← absorb_append _ _ hwhole, ← List.append_assoc, ← hmessage]

end Stream

/-- The digest of a message in pieces, with the blocks mixed in as they become whole. -/
def stream : RunningDigest Stream where
  start := Stream.start
  update := Stream.update
  finish := Stream.finish
  finish_foldl pieces := (Stream.holds_start.foldl pieces).finish_eq

end Sha256

end SlotUpdate
