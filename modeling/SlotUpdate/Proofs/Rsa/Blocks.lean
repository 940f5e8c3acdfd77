import Mathlib.Tactic.SplitIfs
import SlotUpdate.Proofs.Bytes.Digits
import SlotUpdate.Rsa

/-!
# Blocks and signatures

The block of a digest holds the digest, so two digests of one length do not share a block
(`padDigest_injective`). A signature that a private key makes has the size of the key, is below the
modulus, and its public power is the block of the digest (`sign_eq_some`), so the public key
recovers just that block from it (`recover_sign`).
-/

namespace SlotUpdate.Rsa

/-- The block of a digest, for a key that has the room for it. -/
theorem padDigest_eq_some_iff {k : Nat} {digest block : Bytes} :
    padDigest k digest = some block ↔ digest.length + 30 ≤ k ∧
      block = 0x00 :: 0x01 :: List.replicate (k - digest.length - 22) 0xff ++
        0x00 :: (sha256Header ++ digest) := by
  have hheader : sha256Header.length = 19 := rfl
  have hcount : k - (19 + digest.length) - 3 = k - digest.length - 22 := by omega
  simp only [padDigest, List.length_append, hheader, hcount]
  split_ifs with hk
  · constructor
    · intro hnone
      cases hnone
    · rintro ⟨hle, -⟩
      omega
  · rw [Option.some.injEq, eq_comm]
    constructor
    · intro hblock
      exact ⟨by omega, hblock⟩
    · exact And.right

/-- Digests of one length that have the same block are the same. -/
theorem padDigest_injective {k : Nat} {digest digest' block : Bytes}
    (hlen : digest.length = digest'.length) (h : padDigest k digest = some block)
    (h' : padDigest k digest' = some block) : digest = digest' := by
  obtain ⟨-, hblock⟩ := padDigest_eq_some_iff.1 h
  obtain ⟨-, hblock'⟩ := padDigest_eq_some_iff.1 h'
  -- What stands before the digest depends on the sizes alone.
  rw [hblock, hlen] at hblock'
  simpa using hblock'

/-- There are blocks only for keys with a modulus. -/
theorem pos_of_padDigest {key : PublicKey} {digest block : Bytes}
    (h : padDigest key.size digest = some block) : 0 < key.n := by
  obtain ⟨hle, -⟩ := padDigest_eq_some_iff.1 h
  rcases Nat.eq_zero_or_pos key.n with hzero | hpos
  · have hsize : key.size = 0 := by
      rw [PublicKey.size, hzero, Bytes.digitCount]
      rfl
    omega
  · exact hpos

/-- A power modulo a positive number is below it. -/
theorem powMod_lt (base exponent : Nat) {modulus : Nat} (h : 0 < modulus) :
    powMod base exponent modulus < modulus := by
  rw [powMod_eq]
  exact Nat.mod_lt _ h

/-- A signature has the size of the key, is below the modulus, and its public power is the block of
the digest. -/
theorem sign_eq_some {key : PrivateKey} {digest signature : Bytes}
    (h : key.sign digest = some signature) :
    signature.length = key.publicKey.size ∧ signature.toNat < key.publicKey.n ∧
      ∃ block, padDigest key.publicKey.size digest = some block ∧
        powMod signature.toNat key.publicKey.e key.publicKey.n = block.toNat := by
  obtain ⟨block, hblock, h⟩ := Option.bind_eq_some_iff.1 h
  dsimp only at h
  split_ifs at h with hpower
  · cases h
    have hlt : powMod block.toNat key.d key.publicKey.n < key.publicKey.n :=
      powMod_lt _ _ (pos_of_padDigest hblock)
    have hfits : powMod block.toNat key.d key.publicKey.n < Nat.pow 256 key.publicKey.size :=
      Nat.lt_trans hlt (Bytes.lt_pow_digitCount _)
    rw [Bytes.toNat_ofNat_of_lt hfits]
    exact ⟨Bytes.length_ofNat _ _, hlt, block, hblock, hpower⟩

/-- From a signature that a private key makes, its public key recovers the block of the digest. -/
theorem recover_sign {key : PrivateKey} {digest signature : Bytes}
    (h : key.sign digest = some signature) :
    ∃ block, padDigest key.publicKey.size digest = some block ∧
      key.publicKey.recover signature = some block := by
  obtain ⟨hlength, hlt, block, hblock, hpower⟩ := sign_eq_some h
  refine ⟨block, hblock, ?_⟩
  rw [PublicKey.recover, if_pos ⟨hlength, hlt⟩, hpower]
  have hsize := length_padDigest hblock
  rw [← hsize, Bytes.ofNat_toNat]

end SlotUpdate.Rsa
