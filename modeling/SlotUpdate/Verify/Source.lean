import SlotUpdate.Bytes
import SlotUpdate.Hash.Sha256
import SlotUpdate.Progress.Number
import SlotUpdate.SystemError

/-!
# Reading a prefix

A source of bytes answers each read with some of the bytes that were asked for, and may be
interrupted or fail in between. `Source.readPrefix` reads up to a number of bytes, whatever the
sizes of the single reads, and `ReadPrefix.progress` says how far it was after each of them.
-/

namespace SlotUpdate

/-- How a source answers a read. -/
inductive ReadStep where
  /-- With at most one byte more than `limit`. -/
  | short (limit : Nat)
  /-- Not at all, since the call was interrupted. -/
  | interrupted
  /-- Not at all, for good. -/
  | failed (cause : SystemError)
  deriving Repr, DecidableEq

/-- A source of bytes. -/
structure Source where
  /-- The bytes that are left. -/
  contents : Bytes
  /-- How the next reads are answered. Later ones give all that is asked for. -/
  steps : List ReadStep
  deriving Repr, DecidableEq

namespace Source

/-- What a read answers. -/
inductive Answer where
  /-- Bytes, none at the end of the source. -/
  | data (bytes : Bytes) (rest : Source)
  /-- Nothing; the read can be repeated. -/
  | interrupted (rest : Source)
  /-- A failure. -/
  | failed (cause : SystemError)

/-- Read at most `want` bytes. -/
def read (s : Source) (want : Nat) : Answer :=
  match s.steps with
  | [] => .data (s.contents.take want) ⟨s.contents.drop want, []⟩
  | .short limit :: rest =>
    .data (s.contents.take (min want (limit + 1))) ⟨s.contents.drop (min want (limit + 1)), rest⟩
  | .interrupted :: rest => .interrupted ⟨s.contents, rest⟩
  | .failed cause :: _ => .failed cause

/-- How many more reads a source can answer with a byte or an interruption. -/
def size (s : Source) : Nat := s.contents.length + s.steps.length

/-- An interruption takes a step. -/
theorem size_of_interrupted {s rest : Source} {want : Nat} (h : s.read want = .interrupted rest) :
    rest.size < s.size := by
  unfold read at h
  split at h <;> cases h
  simp_all [size]

/-- A read with data takes a byte. -/
theorem size_of_data {s rest : Source} {want : Nat} {b : Bytes} (h : s.read want = .data b rest)
    (hb : b ≠ []) : rest.size < s.size := by
  unfold read at h
  split at h
  · next hs =>
    cases h
    -- The read took a byte, so fewer are left.
    have : 0 < (s.contents.take want).length := List.length_pos_iff.2 hb
    simp only [List.length_take] at this
    simp only [size, hs, List.length_drop, List.length_nil]
    omega
  · next limit r hs =>
    cases h
    have : 0 < (s.contents.take (min want (limit + 1))).length := List.length_pos_iff.2 hb
    simp only [List.length_take] at this
    simp only [size, hs, List.length_drop, List.length_cons]
    omega
  · cases h
  · cases h

end Source

/-- What reading a prefix gave. -/
structure ReadPrefix where
  /-- What the single reads gave, in order. -/
  pieces : List Bytes
  /-- The failure that ended it, if any. -/
  failure : Option SystemError
  deriving Repr, DecidableEq

/-- How many bytes a read asks for at most. -/
def readBufferSize : Nat := 128 * 1024

/-- Read until `length` bytes are there, `done` of which already are, or until the source ends. -/
def Source.readPrefix (length done : Nat) (s : Source) : ReadPrefix :=
  if done < length then
    -- No byte past the prefix is asked for.
    match _h : s.read (min (length - done) readBufferSize) with
    | .failed cause => ⟨[], some cause⟩
    | .interrupted rest => readPrefix length done rest
    | .data b rest =>
      if _hb : b = [] then ⟨[], none⟩
      else
        let after := readPrefix length (done + b.length) rest
        ⟨b :: after.pieces, after.failure⟩
  else ⟨[], none⟩
termination_by s.size
decreasing_by
  · exact Source.size_of_interrupted _h
  · exact Source.size_of_data _h _hb

namespace ReadPrefix

/-- The bytes that were read. -/
def bytes (r : ReadPrefix) : Bytes := r.pieces.flatten

/-- The digest of the bytes and their number, if reading did not fail. -/
def digest (r : ReadPrefix) : Except SystemError (Bytes × Nat) :=
  match r.failure with
  | some cause => .error cause
  | none => .ok (sha256 r.bytes, r.bytes.length)

variable {α : Type} [ProgressNumber α]

/-- The share of `length` that is read after each piece, `done` bytes before the first. -/
def shares (length : UInt64) (done : Nat) : List Bytes → List α
  | [] => []
  | b :: rest =>
    ProgressNumber.ofWord (UInt64.ofNat (done + b.length)) / ProgressNumber.ofWord length ::
      shares length (done + b.length) rest

/-- The share of `length` that is read after each read. -/
def progress (r : ReadPrefix) (length : UInt64) : List α :=
  shares length 0 r.pieces

end ReadPrefix

end SlotUpdate
