import SlotUpdate.Proofs.Rsa.Blocks
import SlotUpdate.Verifier

/-!
# What a verifier accepts

A raw signature is accepted if one of the trusted keys recovers the block of the digest from it
(`checkRaw_eq_ok_iff`), and signatures tried in order if one of them is accepted
(`trySignatures_eq_ok_iff`). A digest of the right size is never refused for its size
(`checkRaw_ne_invalidDigestLength`, `checkContainer_ne_invalidDigestLength`).
-/

namespace SlotUpdate.Verifier

open Rsa (padDigest)

/-- The key recovers the block of the digest from the signature. -/
def Shows (key : Rsa.PublicKey) (signature digest : Bytes) : Prop :=
  ∃ block, key.recover signature = some block ∧ padDigest key.size digest = some block

/-- Trying keys succeeds if one of them shows the block of the digest. -/
theorem tryKeys_eq_ok_iff {signature digest shown : Bytes} {keys : List Rsa.PublicKey} :
    tryKeys signature digest keys shown = .ok () ↔ ∃ key ∈ keys, Shows key signature digest := by
  induction keys generalizing shown with
  | nil => simp [tryKeys]
  | cons key rest ih =>
    rw [tryKeys]
    cases hrecover : key.recover signature with
    | none => simp [ih, Shows, hrecover]
    | some block =>
      by_cases hblock : padDigest key.size digest = some block
      · simp [Shows, hrecover, hblock]
      · simp [ih, Shows, hrecover, hblock]

/-- When no key shows the block of the digest, the signature is a mismatch. -/
theorem tryKeys_eq_error {signature digest shown : Bytes} {keys : List Rsa.PublicKey}
    {e : SignatureError} (h : tryKeys signature digest keys shown = .error e) :
    ∃ shown', e = .mismatch shown' := by
  fun_induction tryKeys signature digest keys shown with
  | case1 shown =>
    cases h
    exact ⟨shown, rfl⟩
  | case2 shown key rest hrecover ih => exact ih h
  | case3 => cases h
  | case4 shown key rest block hrecover hblock ih => exact ih h

/-- A raw signature of a digest is accepted if a trusted key shows the block of the digest. -/
theorem checkRaw_eq_ok_iff {v : Verifier} {signature digest : Bytes}
    (hdigest : digest.length = digestSize) :
    v.checkRaw signature digest = .ok () ↔ ∃ key ∈ v.keys, Shows key signature digest := by
  rw [checkRaw, if_neg (not_not_intro hdigest)]
  exact tryKeys_eq_ok_iff

/-- A raw signature of a digest that is not accepted is a mismatch. -/
theorem checkRaw_eq_error {v : Verifier} {signature digest : Bytes} {e : SignatureError}
    (hdigest : digest.length = digestSize) (h : v.checkRaw signature digest = .error e) :
    ∃ shown, e = .mismatch shown := by
  rw [checkRaw, if_neg (not_not_intro hdigest)] at h
  exact tryKeys_eq_error h

/-- A raw signature of a digest of the right size is not refused for the size of the digest. -/
theorem checkRaw_ne_invalidDigestLength {v : Verifier} {signature digest : Bytes}
    (hdigest : digest.length = digestSize) (n : Nat) :
    v.checkRaw signature digest ≠ .error (.invalidDigestLength n) := by
  intro h
  obtain ⟨shown, hmismatch⟩ := checkRaw_eq_error hdigest h
  cases hmismatch

/-- Trying signatures of a digest succeeds if one of them is accepted. -/
theorem trySignatures_eq_ok_iff {v : Verifier} {digest : Bytes} {signatures : List Bytes}
    {last : SignatureError} (hdigest : digest.length = digestSize) :
    v.trySignatures digest signatures last = .ok () ↔
      ∃ signature ∈ signatures, v.checkRaw signature digest = .ok () := by
  induction signatures generalizing last with
  | nil => simp [trySignatures]
  | cons signature rest ih =>
    rw [trySignatures]
    cases hcheck : v.checkRaw signature digest with
    | ok u => simp [hcheck]
    | error e =>
      obtain ⟨shown, rfl⟩ := checkRaw_eq_error hdigest hcheck
      simp [ih, hcheck]

/-- When no signature of a digest is accepted, the last one is a mismatch, if there is one. -/
theorem trySignatures_eq_error {v : Verifier} {digest : Bytes} {signatures : List Bytes}
    {last e : SignatureError} (hdigest : digest.length = digestSize)
    (h : v.trySignatures digest signatures last = .error e) :
    e = last ∨ ∃ shown, e = .mismatch shown := by
  induction signatures generalizing last with
  | nil =>
    cases h
    exact .inl rfl
  | cons signature rest ih =>
    rw [trySignatures] at h
    cases hcheck : v.checkRaw signature digest with
    | ok u =>
      rw [hcheck] at h
      cases h
    | error e' =>
      obtain ⟨shown, rfl⟩ := checkRaw_eq_error hdigest hcheck
      rw [hcheck] at h
      rcases ih h with rfl | hmismatch
      · exact .inr ⟨shown, rfl⟩
      · exact .inr hmismatch

/-- A container for a digest of the right size is not refused for the size of the digest. -/
theorem checkContainer_ne_invalidDigestLength {v : Verifier} {container digest : Bytes}
    (hdigest : digest.length = digestSize) (n : Nat) :
    v.checkContainer container digest ≠ .error (.invalidDigestLength n) := by
  intro h
  unfold checkContainer at h
  split at h
  · cases h
  · rcases trySignatures_eq_error hdigest h with hlast | ⟨shown, hmismatch⟩
    · cases hlast
    · cases hmismatch

/-- A digest is signed if it has the right size and the key can sign it. -/
theorem signDigest_eq_ok_iff {key : Rsa.PrivateKey} {digest signature : Bytes} :
    signDigest key digest = .ok signature ↔
      digest.length = digestSize ∧ key.sign digest = some signature := by
  unfold signDigest
  by_cases hdigest : digest.length = digestSize
  · rw [if_neg (not_not_intro hdigest)]
    cases key.sign digest with
    | none => simp
    | some s => simp [hdigest]
  · simp [hdigest]

/-- A signature that a private key makes is accepted by every verifier that trusts its public key,
at whatever place. -/
theorem checkRaw_signDigest {v : Verifier} {key : Rsa.PrivateKey} {signature digest : Bytes}
    (hsign : signDigest key digest = .ok signature) (hkey : key.publicKey ∈ v.keys) :
    v.checkRaw signature digest = .ok () := by
  obtain ⟨hdigest, hs⟩ := signDigest_eq_ok_iff.1 hsign
  obtain ⟨block, hblock, hrecover⟩ := Rsa.recover_sign hs
  exact (checkRaw_eq_ok_iff hdigest).2 ⟨_, hkey, block, hrecover, hblock⟩

end SlotUpdate.Verifier
