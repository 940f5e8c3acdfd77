import Mathlib.Data.List.Induction
import Mathlib.Tactic.SplitIfs
import SlotUpdate.Bytes

/-!
# Digits of numbers

The big-endian digits of a number, written in as many bytes as they were read from or as the number
needs, give back what they came from. The same holds of little-endian digits.
-/

namespace SlotUpdate.Bytes

/-- A number has as many digits as it needs. -/
theorem lt_pow_digitCount (n : Nat) : n < Nat.pow 256 (digitCount n) := by
  fun_induction digitCount n with
  | case1 => decide
  | case2 n h ih =>
    show n < Nat.pow 256 (digitCount (n / 256)) * 256
    omega

/-- A number that fits a width needs no more digits. -/
theorem digitCount_le {width n : Nat} (h : n < Nat.pow 256 width) : digitCount n ≤ width := by
  induction width generalizing n with
  | zero =>
    have hn : n = 0 := Nat.lt_one_iff.1 h
    rw [hn, digitCount]
    exact Nat.le_refl 0
  | succ width ih =>
    have h : n < Nat.pow 256 width * 256 := h
    rw [digitCount]
    split_ifs with hn
    · exact Nat.zero_le _
    · have hrest : digitCount (n / 256) ≤ width := ih (by omega)
      omega

/-- A number that is written in enough digits is read back. -/
theorem toNat_ofNat_of_lt {width n : Nat} (h : n < Nat.pow 256 width) :
    toNat (ofNat width n) = n := by
  rw [toNat_ofNat, Nat.mod_eq_of_lt h]

/-- A byte string is written for the number that it is read as. -/
theorem ofNat_toNat (b : Bytes) : ofNat b.length (toNat b) = b := by
  induction b using List.reverseRecOn with
  | nil => rfl
  | append_singleton b d ih =>
    have hd := d.toNat_lt
    have hrest : (256 * toNat b + d.toNat) / 256 = toNat b := by omega
    have hlast : (256 * toNat b + d.toNat) % 256 = d.toNat := by omega
    rw [toNat_append_singleton, List.length_append, List.length_singleton, ofNat, hrest, hlast, ih,
      UInt8.ofNat_toNat]

/-- A byte string that is turned round is read in the other order of digits. -/
theorem toNatLittle_reverse (b : Bytes) : toNatLittle b.reverse = toNat b := by
  unfold toNatLittle toNat
  rw [List.foldr_reverse]
  congr
  funext n d
  exact Nat.add_comm _ _

/-- Reading back the digits written with the least significant first gives the number modulo the
range of the width. -/
theorem toNatLittle_ofNatLittle (width n : Nat) :
    toNatLittle (ofNatLittle width n) = n % Nat.pow 256 width := by
  rw [ofNatLittle, toNatLittle_reverse, toNat_ofNat]

end SlotUpdate.Bytes
