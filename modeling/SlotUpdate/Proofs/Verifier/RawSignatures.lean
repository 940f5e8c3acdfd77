import SlotUpdate.Proofs.Rsa.Stepwise
import SlotUpdate.Proofs.Verifier.Acceptance

/-!
# Which raw signatures are accepted

A key of 62 bytes or more accepts a signature of a SHA-256 digest if this is a number of the key,
below its modulus and written in just as many bytes, and if its public power is, in every byte, the
block `00 01 ff … ff 00` with the name of SHA-256 and the digest. A verifier accepts what one of its
keys accepts: the order of the keys does not count, and more keys accept no less.

`Verifier.raw_signatures_accepted_exactly` puts this together for every list of keys from which a
verifier can be made, whatever their moduli and exponents are. It also says what a rejected
signature is reported with, the power under the last key of which it is a number, and that no step
of the check leaves its domain.
-/

namespace SlotUpdate

namespace Rsa.PublicKey

/-! ## One key -/

/-- The signature is a number of the key: it is as long as the key and below the modulus. -/
structure Admits (key : PublicKey) (signature : Bytes) : Prop where
  /-- It has just the size of the key. -/
  length_eq : signature.length = key.size
  /-- It is below the modulus. -/
  lt_modulus : signature.toNat < key.n

/-- The public power of a signature, in as many bytes as the key has. -/
def power (key : PublicKey) (signature : Bytes) : Bytes :=
  Bytes.ofNat key.size (Nat.pow signature.toNat key.e % key.n)

/-- A power has the size of the key. -/
theorem length_power (key : PublicKey) (signature : Bytes) :
    (key.power signature).length = key.size :=
  Bytes.length_ofNat _ _

/-- From a number of the key its power is recovered. -/
theorem recover_eq_power {key : PublicKey} {signature : Bytes} (h : key.Admits signature) :
    key.recover signature = some (key.power signature) := by
  rw [recover, if_pos ⟨h.length_eq, h.lt_modulus⟩, powMod_eq]
  rfl

/-- From anything else nothing is recovered. -/
theorem recover_eq_none {key : PublicKey} {signature : Bytes} (h : ¬key.Admits signature) :
    key.recover signature = none :=
  if_neg fun ⟨hlength, hlt⟩ => h ⟨hlength, hlt⟩

/-- The key accepts the signature of a SHA-256 digest. -/
structure Accepts (key : PublicKey) (signature digest : Bytes) : Prop where
  /-- The key has room for the block of the digest. -/
  size_ge : 62 ≤ key.size
  /-- The signature is a number of the key. -/
  admits : key.Admits signature
  /-- Its power is the block, in every byte. -/
  power_eq : key.power signature =
    [0x00, 0x01] ++ List.replicate (key.size - 54) 0xff ++ [0x00] ++ sha256Header ++ digest

end Rsa.PublicKey

namespace Verifier

open Rsa (PublicKey layOut? layOut?_eq padDigest padDigest_eq_some_iff)

variable {keys keys' : List PublicKey} {signature digest : Bytes} {v : Verifier}

/-- A key shows the block of a digest just if it accepts the signature. -/
theorem shows_iff_accepts {key : PublicKey} (hdigest : digest.length = 32) :
    Shows key signature digest ↔ key.Accepts signature digest := by
  have hblock : ∀ block, padDigest key.size digest = some block ↔ 62 ≤ key.size ∧ block =
      [0x00, 0x01] ++ List.replicate (key.size - 54) 0xff ++ [0x00] ++ Rsa.sha256Header ++
        digest := by
    intro block
    have hgap : key.size - 32 - 22 = key.size - 54 := by omega
    rw [padDigest_eq_some_iff, hdigest, hgap]
    simp only [List.append_assoc, List.cons_append, List.nil_append]
  by_cases hadmits : key.Admits signature
  case neg =>
    constructor
    · rintro ⟨block, hrecover, -⟩
      rw [PublicKey.recover_eq_none hadmits] at hrecover
      cases hrecover
    · intro haccepts
      exact absurd haccepts.admits hadmits
  rw [Shows, PublicKey.recover_eq_power hadmits]
  constructor
  · rintro ⟨block, hrecover, hpad⟩
    cases hrecover
    obtain ⟨hsize, hpower⟩ := (hblock _).1 hpad
    exact ⟨hsize, hadmits, hpower⟩
  · intro haccepts
    exact ⟨_, rfl, (hblock _).2 ⟨haccepts.size_ge, haccepts.power_eq⟩⟩

/-! ## Keys in order -/

/-- The last of the keys of which the signature is a number. -/
structure LastAdmitting (keys : List PublicKey) (signature : Bytes) (key : PublicKey) : Prop where
  /-- The signature is a number of this key. -/
  admits : key.Admits signature
  /-- It is one of the keys, and the signature is a number of none behind it. -/
  last : ∃ before after, keys = before ++ key :: after ∧ ∀ later ∈ after, ¬later.Admits signature

/-- One more key in front does not change which key is the last one. -/
theorem LastAdmitting.cons {key : PublicKey} (h : LastAdmitting keys signature key)
    (first : PublicKey) : LastAdmitting (first :: keys) signature key := by
  obtain ⟨before, after, rfl, hafter⟩ := h.last
  exact ⟨h.admits, first :: before, after, rfl, hafter⟩

/-- When no key accepts the signature, the block that is shown is the power under the last key of
which it is a number, or what has been shown before if there is none. -/
theorem tryKeys_eq_error_cases {shown : Bytes} {e : SignatureError}
    (h : tryKeys signature digest keys shown = .error e) :
    (∃ key, LastAdmitting keys signature key ∧ e = .mismatch (key.power signature)) ∨
      ((∀ key ∈ keys, ¬key.Admits signature) ∧ e = .mismatch shown) := by
  induction keys generalizing shown with
  | nil =>
    cases h
    exact .inr ⟨List.forall_mem_nil _, rfl⟩
  | cons first rest ih =>
    rw [tryKeys] at h
    by_cases hadmits : first.Admits signature
    · rw [PublicKey.recover_eq_power hadmits] at h
      dsimp only at h
      split_ifs at h
      -- The power under this key is shown until a later key replaces it.
      rcases ih h with ⟨key, hlast, rfl⟩ | ⟨hnone, rfl⟩
      · exact .inl ⟨key, hlast.cons first, rfl⟩
      · exact .inl ⟨first, ⟨hadmits, [], rest, rfl, hnone⟩, rfl⟩
    · rw [PublicKey.recover_eq_none hadmits] at h
      rcases ih h with ⟨key, hlast, rfl⟩ | ⟨hnone, rfl⟩
      · exact .inl ⟨key, hlast.cons first, rfl⟩
      · exact .inr ⟨List.forall_mem_cons.2 ⟨hadmits, hnone⟩, rfl⟩

/-- Try keys in order, with every step inside of its domain or without an answer. -/
def tryKeysStepwise (signature digest : Bytes) : List PublicKey → (shown : Bytes) →
    Option (Except SignatureError Unit)
  | [], shown => some (.error (.mismatch shown))
  | key :: rest, shown => do
    match ← key.recoverStepwise signature with
    | none => tryKeysStepwise signature digest rest shown
    | some block =>
      if (← layOut? key.size digest) = some block then return .ok ()
      tryKeysStepwise signature digest rest block

/-- Check a raw signature of a digest, with every step inside of its domain or without an answer. -/
def checkRawStepwise (v : Verifier) (signature digest : Bytes) :
    Option (Except SignatureError Unit) :=
  if digest.length ≠ digestSize then some (.error (.invalidDigestLength digest.length))
  else tryKeysStepwise signature digest v.keys []

/-- No step leaves its domain when keys are tried. -/
theorem tryKeysStepwise_eq (signature digest : Bytes) (keys : List PublicKey) (shown : Bytes) :
    tryKeysStepwise signature digest keys shown = some (tryKeys signature digest keys shown) := by
  induction keys generalizing shown with
  | nil => rfl
  | cons key rest ih =>
    rw [tryKeysStepwise, key.recoverStepwise_eq, tryKeys]
    cases key.recover signature with
    | none => exact ih shown
    | some block =>
      simp only [layOut?_eq, Option.bind_eq_bind, Option.bind_some, Option.pure_def]
      split_ifs
      · rfl
      · exact ih block

/-- No step leaves its domain when a raw signature is checked. -/
theorem checkRawStepwise_eq (v : Verifier) (signature digest : Bytes) :
    v.checkRawStepwise signature digest = some (v.checkRaw signature digest) := by
  unfold checkRawStepwise checkRaw
  split_ifs
  · rfl
  · exact tryKeysStepwise_eq signature digest v.keys []

/-! ## Verifiers -/

/-- A verifier can be made of keys if there is one and none is too large, and it has these keys. -/
theorem ofKeys_eq_ok_iff :
    ofKeys keys = .ok v ↔ v.keys = keys ∧ keys ≠ [] ∧ ∀ key ∈ keys, key.size ≤ maxKeySize := by
  constructor
  · intro h
    unfold ofKeys at h
    split at h
    case isTrue => cases h
    case isFalse hne =>
      split at h
      · cases h
      · have hkeys : v.keys = keys := (congrArg Verifier.keys (Except.ok.inj h)).symm
        exact ⟨hkeys, hne, hkeys ▸ v.size_le⟩
  · rintro ⟨rfl, hne, hsize⟩
    have hfind : v.keys.find? (fun key => decide (maxKeySize < key.size)) = none := by
      refine List.find?_eq_none.2 fun key hkey hlarge => ?_
      exact Nat.not_lt.2 (hsize key hkey) (of_decide_eq_true hlarge)
    unfold ofKeys
    rw [dif_neg hne]
    split
    · rename_i hlarge
      rw [hfind] at hlarge
      cases hlarge
    · rfl

/-- A raw signature is accepted just if the digest is one of SHA-256 and one of the keys accepts
the signature of it. -/
theorem checkRaw_eq_ok_iff_accepts : v.checkRaw signature digest = .ok () ↔
    digest.length = 32 ∧ ∃ key ∈ v.keys, key.Accepts signature digest := by
  by_cases hdigest : digest.length = digestSize
  · have hdigest' : digest.length = 32 := hdigest
    rw [checkRaw_eq_ok_iff hdigest]
    simp only [shows_iff_accepts hdigest', hdigest', true_and]
  · rw [checkRaw, if_pos hdigest]
    constructor
    · intro h
      cases h
    · rintro ⟨hdigest', -⟩
      exact absurd hdigest' hdigest

/-- A verifier that trusts at least the keys of another one accepts at least what that one does. -/
theorem checkRaw_eq_ok_of_subset {w : Verifier} (hkeys : v.keys ⊆ w.keys)
    (h : v.checkRaw signature digest = .ok ()) : w.checkRaw signature digest = .ok () := by
  obtain ⟨hdigest, key, hkey, haccepts⟩ := checkRaw_eq_ok_iff_accepts.1 h
  exact checkRaw_eq_ok_iff_accepts.2 ⟨hdigest, key, hkeys hkey, haccepts⟩

/-- The verifier of a list of keys accepts what one of them accepts. -/
structure ChecksRaw (keys : List PublicKey) (v : Verifier) : Prop where
  /-- A raw signature is accepted just if the digest has 32 bytes and one of the keys accepts the
  signature: a number of the key whose public power is the block of the digest in every byte. -/
  accepted : ∀ signature digest, v.checkRaw signature digest = .ok () ↔
    digest.length = 32 ∧ ∃ key ∈ keys, key.Accepts signature digest
  /-- No step of a check leaves its domain, whatever the keys, the signature and the digest are. -/
  total : ∀ signature digest,
    v.checkRawStepwise signature digest = some (v.checkRaw signature digest)
  /-- From the same keys in another order, or with other repetitions, a verifier can be made, too,
  and it accepts the same signatures. -/
  unordered : ∀ keys' : List PublicKey, (∀ key, key ∈ keys' ↔ key ∈ keys) →
    ∃ w, ofKeys keys' = .ok w ∧ ∀ signature digest,
      w.checkRaw signature digest = .ok () ↔ v.checkRaw signature digest = .ok ()
  /-- With more keys no signature is lost. -/
  widened : ∀ (keys' : List PublicKey) (w : Verifier), keys ⊆ keys' → ofKeys keys' = .ok w →
    ∀ signature digest, v.checkRaw signature digest = .ok () → w.checkRaw signature digest = .ok ()
  /-- A signature of a digest of 32 bytes that is not accepted is a mismatch. It holds the power
  under the last key of which the signature is a number, in as many bytes as this key has, or
  nothing if there is no such key. -/
  mismatched : ∀ signature digest e, digest.length = 32 →
    v.checkRaw signature digest = .error e →
      (∃ key, LastAdmitting keys signature key ∧ (key.power signature).length = key.size ∧
        e = .mismatch (key.power signature)) ∨
      ((∀ key ∈ keys, ¬key.Admits signature) ∧ e = .mismatch [])
  /-- A digest of any other length is reported with its length. -/
  wrongLength : ∀ signature digest, digest.length ≠ 32 →
    v.checkRaw signature digest = .error (.invalidDigestLength digest.length)

/-- **A verifier accepts just the signatures of a digest by one of its keys**: for every list of
keys from which a verifier can be made, the raw signatures that it accepts are the numbers of a key
whose public power is the block of the digest. -/
theorem raw_signatures_accepted_exactly (keys : List PublicKey) (v : Verifier)
    (hmade : ofKeys keys = .ok v) : ChecksRaw keys v := by
  obtain ⟨rfl, hne, hsize⟩ := ofKeys_eq_ok_iff.1 hmade
  refine ⟨fun _ _ => checkRaw_eq_ok_iff_accepts, v.checkRawStepwise_eq, ?unordered, ?widened,
    ?mismatched, fun _ _ hdigest => if_pos hdigest⟩
  case unordered =>
    intro keys' hsame
    have hne' : keys' ≠ [] := by
      obtain ⟨key, hkey⟩ := List.exists_mem_of_ne_nil v.keys hne
      exact List.ne_nil_of_mem ((hsame key).2 hkey)
    have hsize' : ∀ key ∈ keys', key.size ≤ maxKeySize := fun key hkey =>
      hsize key ((hsame key).1 hkey)
    refine ⟨⟨keys', hne', hsize'⟩, ofKeys_eq_ok_iff.2 ⟨rfl, hne', hsize'⟩, fun _ _ => ?_⟩
    constructor
    · exact checkRaw_eq_ok_of_subset fun key => (hsame key).1
    · exact checkRaw_eq_ok_of_subset fun key => (hsame key).2
  case widened =>
    intro keys' w hsubset hmade' signature digest
    obtain ⟨rfl, -, -⟩ := ofKeys_eq_ok_iff.1 hmade'
    exact checkRaw_eq_ok_of_subset hsubset
  case mismatched =>
    intro signature digest e hdigest h
    have hdigest' : digest.length = digestSize := hdigest
    rw [checkRaw, if_neg (not_not_intro hdigest')] at h
    rcases tryKeys_eq_error_cases h with ⟨key, hlast, rfl⟩ | hnone
    · exact .inl ⟨key, hlast, key.length_power signature, rfl⟩
    · exact .inr hnone

/-- With the exponent one a number is its own power, so a key of 62 bytes accepts the block of a
digest as the signature of it. -/
theorem block_accepted_under_exponent_one : ∃ v block,
    ofKeys [⟨Nat.pow 256 62 - 1, 1⟩] = .ok v ∧ padDigest 62 (List.replicate 32 0x5a) = some block ∧
      v.checkRaw block (List.replicate 32 0x5a) = .ok () := by
  let key : PublicKey := ⟨Nat.pow 256 62 - 1, 1⟩
  have hsize : key.size = 62 := by
    have hle : key.size ≤ 62 := Bytes.digitCount_le (by decide)
    have hge : ¬key.size ≤ 61 := fun h =>
      absurd (Nat.lt_of_lt_of_le (Bytes.lt_pow_digitCount key.n)
        (Nat.pow_le_pow_right (by decide) h)) (by decide)
    omega
  have hmade : ofKeys [key] = .ok ⟨[key], List.cons_ne_nil _ _, by simp [hsize, maxKeySize]⟩ :=
    ofKeys_eq_ok_iff.2 ⟨rfl, List.cons_ne_nil _ _, by simp [hsize, maxKeySize]⟩
  let block : Bytes := [0x00, 0x01] ++ List.replicate 8 0xff ++ [0x00] ++ Rsa.sha256Header ++
    List.replicate 32 0x5a
  have hadmits : key.Admits block := ⟨hsize.symm, by decide⟩
  have hpower : key.power block = block := by
    have hself : Nat.pow block.toNat key.e = block.toNat := Nat.pow_one _
    rw [PublicKey.power, hself, Nat.mod_eq_of_lt hadmits.lt_modulus, ← hadmits.length_eq,
      Bytes.ofNat_toNat]
  refine ⟨_, block, hmade, rfl, ?_⟩
  refine ((raw_signatures_accepted_exactly [key] _ hmade).accepted block _).2 ⟨rfl, key, ?_⟩
  exact ⟨List.mem_singleton_self key, hsize.symm ▸ Nat.le_refl 62, hadmits, by rw [hpower, hsize]⟩

end Verifier

end SlotUpdate
