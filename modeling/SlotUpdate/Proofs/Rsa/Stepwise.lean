import SlotUpdate.Proofs.Rsa.Blocks

/-!
# Blocks and powers step by step

A block is laid out in a buffer of the size of the key, range by range, and the power of a signature
is written without leading zeros and then filled up to that size. Each of these steps has a domain:
a range lies inside the buffer and is as long as what is put there, nothing is taken from a smaller
number, and no power is taken modulo zero. Here a step outside of its domain answers `none`.

No step leaves its domain, whatever the key and the signature are: laying out gives the block of the
digest (`layOut?_eq`), and filling up the power gives what the key recovers (`recoverStepwise_eq`).
-/

namespace SlotUpdate.Rsa

/-! ## Steps -/

/-- A number less another one, if that is not larger. -/
def less? (a b : Nat) : Option Nat :=
  if b ≤ a then some (a - b) else none

/-- The buffer with `part` from `start` up to `stop`, if this is a range of the buffer and `part` is
as long. -/
def putRange? (buffer : Bytes) (start stop : Nat) (part : Bytes) : Option Bytes :=
  if start ≤ stop ∧ stop ≤ buffer.length ∧ part.length = stop - start then
    some (buffer.take start ++ part ++ buffer.drop stop)
  else none

/-- A power modulo a number that is not zero. -/
def power? (base exponent modulus : Nat) : Option Nat :=
  if modulus = 0 then none else some (powMod base exponent modulus)

/-- Lay out the block of a digest in a buffer of `k` bytes, if these are enough. -/
def layOut? (k : Nat) (digest : Bytes) : Option (Option Bytes) := do
  let length := sha256Header.length + digest.length
  if k < length + 11 then return none
  let buffer ← putRange? (List.replicate k 0xff) 0 1 [0x00]
  let buffer ← putRange? buffer 1 2 [0x01]
  let header ← less? k length
  let separator ← less? header 1
  let hash ← less? k digest.length
  let buffer ← putRange? buffer separator (separator + 1) [0x00]
  let buffer ← putRange? buffer header hash sha256Header
  let buffer ← putRange? buffer hash k digest
  return some buffer

/-- Recover the block of a signature by filling up its power, if it is a signature at all. -/
def PublicKey.recoverStepwise (key : PublicKey) (signature : Bytes) : Option (Option Bytes) := do
  if signature.length ≠ key.size then return none
  if key.n ≤ signature.toNat then return none
  let power ← power? signature.toNat key.e key.n
  let digits := Bytes.ofNatMinimal power
  if key.size < digits.length then return none
  let zeros ← less? key.size digits.length
  return some (List.replicate zeros 0x00 ++ digits)

/-! ## Laying out -/

/-- A smaller number can be taken from a larger one. -/
theorem less?_of_le {a b : Nat} (h : b ≤ a) : less? a b = some (a - b) :=
  if_pos h

/-- A buffer of `k` bytes in which `before` is in its place already, and nothing behind it. -/
def laidOut (k : Nat) (before : Bytes) : Bytes :=
  before ++ List.replicate (k - before.length) 0xff

/-- In a full buffer every byte is in its place. -/
theorem laidOut_full {k : Nat} {before : Bytes} (h : before.length = k) :
    laidOut k before = before := by
  rw [laidOut, h, Nat.sub_self, List.replicate_zero, List.append_nil]

/-- A part can be put behind what is in its place, at any distance that leaves room for it. -/
theorem putRange?_laidOut {k : Nat} (before part : Bytes) (gap : Nat) {start stop : Nat}
    (hstart : start = before.length + gap) (hstop : stop = start + part.length) (hk : stop ≤ k) :
    putRange? (laidOut k before) start stop part =
      some (laidOut k (before ++ List.replicate gap 0xff ++ part)) := by
  obtain ⟨left, rfl⟩ : ∃ left, k = stop + left := ⟨k - stop, by omega⟩
  have hkept : (before ++ List.replicate gap (0xff : UInt8)).length = start := by
    rw [List.length_append, List.length_replicate, hstart]
  -- The buffer in three pieces: what is kept, what is replaced and what is left.
  have hpieces : laidOut (stop + left) before =
      (before ++ List.replicate gap 0xff) ++
        (List.replicate part.length 0xff ++ List.replicate left 0xff) := by
    rw [laidOut, show stop + left - before.length = gap + (part.length + left) by omega,
      ← List.replicate_append_replicate, ← List.replicate_append_replicate, List.append_assoc]
  have hinside : stop ≤ (laidOut (stop + left) before).length := by
    rw [hpieces, List.length_append, hkept, List.length_append, List.length_replicate]
    omega
  have htake : (laidOut (stop + left) before).take start = before ++ List.replicate gap 0xff := by
    rw [hpieces]
    exact List.take_left' hkept
  have hdrop : (laidOut (stop + left) before).drop stop = List.replicate left 0xff := by
    rw [hpieces, ← List.append_assoc]
    refine List.drop_left' ?_
    rw [List.length_append, hkept, List.length_replicate, hstop]
  have hleft :
      stop + left - (before ++ List.replicate gap (0xff : UInt8) ++ part).length = left := by
    rw [List.length_append, hkept, ← hstop, Nat.add_sub_cancel_left]
  rw [putRange?, if_pos ⟨by omega, hinside, by omega⟩, htake, hdrop, laidOut, hleft]

/-- The layout of a block stays inside its buffer and gives the block. -/
theorem layOut?_eq (k : Nat) (digest : Bytes) : layOut? k digest = some (padDigest k digest) := by
  have hheader : sha256Header.length = 19 := rfl
  by_cases hsmall : k < sha256Header.length + digest.length + 11
  · have hnone : padDigest k digest = none := by
      simp only [padDigest, List.length_append]
      exact if_pos hsmall
    rw [hnone]
    exact if_pos hsmall
  -- The five parts are put from left to right, each behind all that is in its place already.
  obtain ⟨padding, rfl⟩ : ∃ padding, k = padding + digest.length + 22 :=
    ⟨k - digest.length - 22, by omega⟩
  generalize hk : padding + digest.length + 22 = k at *
  have hfirst : putRange? (laidOut k []) 0 1 [0x00] = some (laidOut k [0x00]) :=
    putRange?_laidOut [] [0x00] 0 rfl rfl (by omega)
  have hsecond : putRange? (laidOut k [0x00]) 1 2 [0x01] = some (laidOut k [0x00, 0x01]) :=
    putRange?_laidOut [0x00] [0x01] 0 rfl rfl (by omega)
  let padded : Bytes := [0x00, 0x01] ++ List.replicate padding 0xff ++ [0x00]
  have hthird : putRange? (laidOut k [0x00, 0x01]) (padding + 2) (padding + 2 + 1) [0x00] =
      some (laidOut k padded) :=
    putRange?_laidOut [0x00, 0x01] [0x00] padding (Nat.add_comm padding 2) rfl (by omega)
  have hpadded : padded.length = padding + 3 := by
    simp [padded]
  have hfourth : putRange? (laidOut k padded) (padding + 3) (padding + 22) sha256Header =
      some (laidOut k (padded ++ sha256Header)) := by
    have h := putRange?_laidOut padded sha256Header 0 hpadded.symm rfl (by omega : _ ≤ k)
    rwa [List.replicate_zero, List.append_nil] at h
  have hblock : (padded ++ sha256Header ++ digest).length = k := by
    rw [List.length_append, List.length_append, hpadded, hheader]
    omega
  have hfifth : putRange? (laidOut k (padded ++ sha256Header)) (padding + 22) k digest =
      some (padded ++ sha256Header ++ digest) := by
    have h := putRange?_laidOut (padded ++ sha256Header) digest 0
      (by rw [List.length_append, hpadded, hheader] : padding + 22 = _)
      (by omega : k = padding + 22 + digest.length) (Nat.le_refl k)
    rwa [List.replicate_zero, List.append_nil, laidOut_full hblock] at h
  have hbuffer : List.replicate k (0xff : UInt8) = laidOut k [] := rfl
  have hheaderStep : less? k (sha256Header.length + digest.length) = some (padding + 3) := by
    rw [less?_of_le (by omega)]
    exact congrArg some (by omega)
  have hhashStep : less? k digest.length = some (padding + 22) := by
    rw [less?_of_le (by omega)]
    exact congrArg some (by omega)
  have hseparatorStep : less? (padding + 3) 1 = some (padding + 2) := less?_of_le (by omega)
  have hgiven : padDigest k digest = some (padded ++ sha256Header ++ digest) := by
    have hgap : k - (sha256Header ++ digest).length - 3 = padding := by
      rw [List.length_append]
      omega
    rw [padDigest, if_neg (by rw [List.length_append]; exact hsmall), hgap]
    simp only [padded, List.append_assoc, List.cons_append, List.nil_append]
  rw [hgiven, layOut?, if_neg hsmall, hbuffer]
  simp only [hheaderStep, hseparatorStep, hhashStep, hfirst, hsecond, hthird, hfourth, hfifth,
    Option.bind_eq_bind, Option.bind_some, Option.pure_def]

/-! ## Filling up -/

/-- Zeros before the digits of a number do not change it. -/
theorem toNat_zeros_append (zeros : Nat) (b : Bytes) :
    Bytes.toNat (List.replicate zeros 0x00 ++ b) = Bytes.toNat b := by
  induction zeros with
  | zero => rfl
  | succ zeros ih => exact ih

/-- The digits of a number that is written in enough of them can be filled up with zeros. -/
theorem zeros_append_ofNat {width k n : Nat} (hn : n < Nat.pow 256 width) (hk : width ≤ k) :
    List.replicate (k - width) 0x00 ++ Bytes.ofNat width n = Bytes.ofNat k n := by
  have hvalue : Bytes.toNat (List.replicate (k - width) 0x00 ++ Bytes.ofNat width n) = n := by
    rw [toNat_zeros_append, Bytes.toNat_ofNat_of_lt hn]
  have hlength : (List.replicate (k - width) 0x00 ++ Bytes.ofNat width n).length = k := by
    rw [List.length_append, List.length_replicate, Bytes.length_ofNat, Nat.sub_add_cancel hk]
  have h := Bytes.ofNat_toNat (List.replicate (k - width) 0x00 ++ Bytes.ofNat width n)
  rw [hvalue, hlength] at h
  exact h.symm

/-- A modulus that is not zero has a byte at least. -/
theorem PublicKey.size_pos {key : PublicKey} (h : 0 < key.n) : 1 ≤ key.size := by
  rw [size, Bytes.digitCount, dif_neg (Nat.ne_of_gt h)]
  exact Nat.succ_pos _

/-- Filling up the power of a signature does not leave its domain and gives what the key recovers:
a modulus above a number is not zero, and a power needs no more bytes than the modulus. -/
theorem PublicKey.recoverStepwise_eq (key : PublicKey) (signature : Bytes) :
    key.recoverStepwise signature = some (key.recover signature) := by
  by_cases hsize : signature.length = key.size
  case neg =>
    rw [recover, if_neg fun h => hsize h.1]
    exact if_pos hsize
  by_cases hbelow : signature.toNat < key.n
  case neg =>
    rw [recover, if_neg fun h => hbelow h.2, recoverStepwise, if_neg (not_not_intro hsize)]
    exact if_pos (Nat.not_lt.1 hbelow)
  have hmodulus : 0 < key.n := by omega
  have hpower : power? signature.toNat key.e key.n = some (powMod signature.toNat key.e key.n) :=
    if_neg (Nat.ne_of_gt hmodulus)
  generalize hp : powMod signature.toNat key.e key.n = power at *
  have hlt : power < Nat.pow 256 key.size := by
    rw [← hp]
    exact Nat.lt_trans (powMod_lt _ _ hmodulus) (Bytes.lt_pow_digitCount _)
  -- The digits of the power, one at least, are not more than the bytes of the key.
  have hwidth : max 1 (Bytes.digitCount power) ≤ key.size :=
    Nat.max_le.2 ⟨size_pos hmodulus, Bytes.digitCount_le hlt⟩
  have henough : power < Nat.pow 256 (max 1 (Bytes.digitCount power)) :=
    Nat.lt_of_lt_of_le (Bytes.lt_pow_digitCount power)
      (Nat.pow_le_pow_right (by decide) (Nat.le_max_right _ _))
  have hdigits : (Bytes.ofNatMinimal power).length ≤ key.size := by
    rw [Bytes.ofNatMinimal, Bytes.length_ofNat]
    exact hwidth
  have hfilled : List.replicate (key.size - (Bytes.ofNatMinimal power).length) 0x00 ++
      Bytes.ofNatMinimal power = Bytes.ofNat key.size power := by
    rw [Bytes.ofNatMinimal, Bytes.length_ofNat]
    exact zeros_append_ofNat henough hwidth
  rw [recover, if_pos ⟨hsize, hbelow⟩, hp, recoverStepwise, if_neg (not_not_intro hsize),
    if_neg (Nat.not_le.2 hbelow), hpower]
  simp only [Option.bind_eq_bind, Option.bind_some, Option.pure_def,
    if_neg (Nat.not_lt.2 hdigits), less?_of_le hdigits, hfilled]

end SlotUpdate.Rsa
