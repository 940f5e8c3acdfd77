import SlotUpdate.Bytes
import SlotUpdate.Chunks

/-!
# SHA-256

The digest function of the payload format. The message is padded to whole blocks of 64 bytes, each
block is expanded to 64 words, and 64 rounds mix it into a state of eight words, which are the
digest. `length_sha256` says that a digest has 32 bytes.
-/

namespace SlotUpdate.Sha256

/-- The first 32 bits of the fractional parts of the cube roots of the first 64 primes. -/
def roundConstants : List UInt32 := [
  0x428a2f98, 0x71374491, 0xb5c0fbcf, 0xe9b5dba5, 0x3956c25b, 0x59f111f1, 0x923f82a4, 0xab1c5ed5,
  0xd807aa98, 0x12835b01, 0x243185be, 0x550c7dc3, 0x72be5d74, 0x80deb1fe, 0x9bdc06a7, 0xc19bf174,
  0xe49b69c1, 0xefbe4786, 0x0fc19dc6, 0x240ca1cc, 0x2de92c6f, 0x4a7484aa, 0x5cb0a9dc, 0x76f988da,
  0x983e5152, 0xa831c66d, 0xb00327c8, 0xbf597fc7, 0xc6e00bf3, 0xd5a79147, 0x06ca6351, 0x14292967,
  0x27b70a85, 0x2e1b2138, 0x4d2c6dfc, 0x53380d13, 0x650a7354, 0x766a0abb, 0x81c2c92e, 0x92722c85,
  0xa2bfe8a1, 0xa81a664b, 0xc24b8b70, 0xc76c51a3, 0xd192e819, 0xd6990624, 0xf40e3585, 0x106aa070,
  0x19a4c116, 0x1e376c08, 0x2748774c, 0x34b0bcb5, 0x391c0cb3, 0x4ed8aa4a, 0x5b9cca4f, 0x682e6ff3,
  0x748f82ee, 0x78a5636f, 0x84c87814, 0x8cc70208, 0x90befffa, 0xa4506ceb, 0xbef9a3f7, 0xc67178f2]

/-- The working state: eight words. -/
structure State where
  /-- First word. -/
  a : UInt32
  /-- Second word. -/
  b : UInt32
  /-- Third word. -/
  c : UInt32
  /-- Fourth word. -/
  d : UInt32
  /-- Fifth word. -/
  e : UInt32
  /-- Sixth word. -/
  f : UInt32
  /-- Seventh word. -/
  g : UInt32
  /-- Eighth word. -/
  h : UInt32

/-- The state before the first block: the first 32 bits of the fractional parts of the square
roots of the first eight primes. -/
def State.start : State :=
  ⟨0x6a09e667, 0xbb67ae85, 0x3c6ef372, 0xa54ff53a, 0x510e527f, 0x9b05688c, 0x1f83d9ab, 0x5be0cd19⟩

/-- Rotation to the right by `n` bits, for `0 < n < 32`. -/
def rotateRight (x n : UInt32) : UInt32 :=
  (x >>> n) ||| (x <<< (32 - n))

/-- One round with the constant `k` and the schedule word `w`. -/
def round (s : State) (k w : UInt32) : State :=
  let s1 := rotateRight s.e 6 ^^^ rotateRight s.e 11 ^^^ rotateRight s.e 25
  let choice := (s.e &&& s.f) ^^^ (~~~s.e &&& s.g)
  -- All sums are modulo the range of a word.
  let t1 := s.h + s1 + choice + k + w
  let s0 := rotateRight s.a 2 ^^^ rotateRight s.a 13 ^^^ rotateRight s.a 22
  let majority := (s.a &&& s.b) ^^^ (s.a &&& s.c) ^^^ (s.b &&& s.c)
  ⟨t1 + (s0 + majority), s.a, s.b, s.c, s.d + t1, s.e, s.f, s.g⟩

/-- The big-endian word of up to four bytes. -/
def word (b : Bytes) : UInt32 :=
  b.foldl (fun n d => (n <<< 8) ||| d.toUInt32) 0

/-- Append the next word of the schedule, which mixes words 2, 7, 15 and 16 places back. -/
def extendSchedule (w : Array UInt32) (t : Nat) : Array UInt32 :=
  let x := w.getD (t + 1) 0
  let y := w.getD (t + 14) 0
  let s0 := rotateRight x 7 ^^^ rotateRight x 18 ^^^ (x >>> 3)
  let s1 := rotateRight y 17 ^^^ rotateRight y 19 ^^^ (y >>> 10)
  w.push (w.getD t 0 + s0 + w.getD (t + 9) 0 + s1)

/-- The 64 words of a block. -/
def schedule (block : Bytes) : List UInt32 :=
  ((List.range 48).foldl extendSchedule ((chunks 4 block).map word).toArray).toList

/-- Mix one block into the state. -/
def compress (s : State) (block : Bytes) : State :=
  let t := (roundConstants.zip (schedule block)).foldl (fun s kw => round s kw.1 kw.2) s
  ⟨s.a + t.a, s.b + t.b, s.c + t.c, s.d + t.d, s.e + t.e, s.f + t.f, s.g + t.g, s.h + t.h⟩

/-- The bytes after the message: a set bit, zeros up to eight bytes short of a whole block, and
the number of message bits. -/
def padding (length : Nat) : Bytes :=
  0x80 :: List.replicate ((119 - length % 64) % 64) 0 ++ Bytes.ofNat 8 (8 * length)

/-- The four bytes of a word, the most significant first. -/
def wordBytes (w : UInt32) : Bytes :=
  Bytes.ofNat 4 w.toNat

/-- The digest that a final state stands for. -/
def State.digest (s : State) : Bytes :=
  [s.a, s.b, s.c, s.d, s.e, s.f, s.g, s.h].flatMap wordBytes

end SlotUpdate.Sha256

namespace SlotUpdate

/-- The SHA-256 digest of a byte string. -/
def sha256 (message : Bytes) : Bytes :=
  ((chunks 64 (message ++ Sha256.padding message.length)).foldl Sha256.compress
    Sha256.State.start).digest

/-- A digest has 32 bytes. -/
@[simp] theorem length_sha256 (message : Bytes) : (sha256 message).length = 32 := by
  simp [sha256, Sha256.State.digest, Sha256.wordBytes]

end SlotUpdate
