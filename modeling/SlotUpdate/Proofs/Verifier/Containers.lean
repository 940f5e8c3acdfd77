import SlotUpdate.Proofs.Verifier.Acceptance

/-!
# Which signature containers are accepted

An entry of a container holds a signature if it has data and these are at least as long as it says
that the signature is without its padding. A container is accepted for a SHA-256 digest if one of
its entries holds a signature that is accepted (`checkContainer_eq_ok_iff`): what stands before and
behind this entry does not count.

`Verifier.containers_accepted_exactly` adds which failure a container is reported with if it is not
accepted, and that no container is accepted for a digest of another length.
-/

namespace SlotUpdate

/-- The entry holds the signature: its data, or as many bytes of them as it says that the signature
has without padding. -/
inductive Signature.Holds (entry : Signature) : Bytes → Prop
  /-- The entry says nothing about padding. -/
  | whole {data : Bytes} (hdata : entry.data = some data) (hsize : entry.unpaddedSize = none) :
    Holds entry data
  /-- The entry says how long the signature is, and its data are not shorter. -/
  | cut {data : Bytes} {size : UInt32} (hdata : entry.data = some data)
    (hsize : entry.unpaddedSize = some size) (hle : size.toNat ≤ data.length) :
    Holds entry (data.take size.toNat)

namespace Verifier

variable {v : Verifier} {container digest signature : Bytes} {entry : Signature}

/-! ## Entries -/

/-- The signature that an entry is tried with is the one that it holds. -/
theorem usable_eq_some_iff : usable entry = some signature ↔ entry.Holds signature := by
  unfold usable
  constructor
  · intro h
    obtain ⟨data, hdata, h⟩ := Option.bind_eq_some_iff.1 h
    cases hsize : entry.unpaddedSize with
    | none =>
      rw [hsize] at h
      cases h
      exact .whole hdata hsize
    | some size =>
      rw [hsize] at h
      dsimp only at h
      split_ifs at h with hle
      cases h
      exact .cut hdata hsize hle
  · intro h
    cases h with
    | whole hdata hsize =>
      rw [hdata, hsize]
      rfl
    | cut hdata hsize hle =>
      rw [hdata, hsize]
      exact if_pos hle

/-- An entry is not tried if it holds no signature. -/
theorem usable_eq_none_iff : usable entry = none ↔ ∀ signature, ¬entry.Holds signature := by
  simp only [Option.eq_none_iff_forall_ne_some, ne_eq, usable_eq_some_iff]

/-- No entry is tried just if none of them holds a signature. -/
theorem filterMap_usable_eq_nil_iff {entries : List Signature} :
    entries.filterMap usable = [] ↔ ∀ entry ∈ entries, ∀ signature, ¬entry.Holds signature := by
  simp only [List.filterMap_eq_nil_iff, usable_eq_none_iff]

/-- The last of the entries that hold a signature, and the signature that it holds. -/
structure LastHolding (entries : List Signature) (entry : Signature) (signature : Bytes) :
    Prop where
  /-- The entry holds the signature. -/
  holds : entry.Holds signature
  /-- It is one of the entries, and none behind it holds a signature. -/
  last : ∃ before after, entries = before ++ entry :: after ∧
    ∀ later ∈ after, ∀ signature, ¬later.Holds signature

/-- The last signature that is tried is the one of the last entry that holds one. -/
theorem lastHolding_of_filterMap {entries : List Signature} {before : List Bytes}
    (h : entries.filterMap usable = before ++ [signature]) :
    ∃ entry, LastHolding entries entry signature := by
  obtain ⟨front, back, rfl, -, hback⟩ := List.filterMap_eq_append_iff.1 h
  obtain ⟨skipped, entry, after, rfl, -, hentry, hafter⟩ := List.filterMap_eq_cons_iff.1 hback
  refine ⟨entry, usable_eq_some_iff.1 hentry, front ++ skipped, after, ?_,
    filterMap_usable_eq_nil_iff.1 hafter⟩
  rw [List.append_assoc]

/-! ## Signatures in order -/

/-- A raw signature is refused for the length of the digest, or because no key accepts it. -/
theorem checkRaw_eq_error_cases {e : SignatureError} (h : v.checkRaw signature digest = .error e) :
    e = .invalidDigestLength digest.length ∨ ∃ shown, e = .mismatch shown := by
  by_cases hdigest : digest.length = digestSize
  · exact .inr (checkRaw_eq_error hdigest h)
  · rw [checkRaw, if_pos hdigest] at h
    cases h
    exact .inl rfl

/-- When no signature is accepted, this is for the failure of one of them, the last one unless the
digest has a wrong length, or there is no signature. -/
theorem trySignatures_eq_error_cases {signatures : List Bytes} {last e : SignatureError}
    (h : v.trySignatures digest signatures last = .error e) :
    (signatures = [] ∧ e = last) ∨ ∃ before signature after,
      signatures = before ++ signature :: after ∧ v.checkRaw signature digest = .error e ∧
        (digest.length = digestSize → after = []) := by
  induction signatures generalizing last with
  | nil =>
    cases h
    exact .inl ⟨rfl, rfl⟩
  | cons signature rest ih =>
    rw [trySignatures] at h
    cases hcheck : v.checkRaw signature digest with
    | ok u =>
      rw [hcheck] at h
      cases h
    | error failure =>
      rw [hcheck] at h
      refine .inr ?_
      rcases checkRaw_eq_error_cases hcheck with rfl | ⟨shown, rfl⟩
      · cases h
        refine ⟨[], signature, rest, rfl, hcheck, fun hdigest => ?_⟩
        exact absurd hcheck (checkRaw_ne_invalidDigestLength hdigest _)
      · -- The failure of this signature is the one of the container if no other one is left.
        rcases ih h with ⟨rfl, rfl⟩ | ⟨before, later, after, rfl, hlater, hafter⟩
        · exact ⟨[], signature, [], rfl, hcheck, fun _ => rfl⟩
        · exact ⟨signature :: before, later, after, rfl, hlater, hafter⟩

/-! ## Containers -/

/-- A well-formed container is checked through the signatures that its entries hold. -/
theorem checkContainer_of_decode {c : SignatureContainer}
    (h : SignatureContainer.decode container = .ok c) : v.checkContainer container digest =
      v.trySignatures digest (c.signatures.filterMap usable) .noSignatures := by
  rw [checkContainer, h]

/-- A container that is not well formed is reported with what is wrong. -/
theorem checkContainer_of_decode_error {cause : Wire.DecodeError}
    (h : SignatureContainer.decode container = .error cause) :
    v.checkContainer container digest = .error (.containerDecode cause) := by
  rw [checkContainer, h]

/-- A container is accepted for a digest just if one of its entries holds an accepted signature. -/
theorem checkContainer_eq_ok_iff (hdigest : digest.length = digestSize) :
    v.checkContainer container digest = .ok () ↔
      ∃ c, SignatureContainer.decode container = .ok c ∧ ∃ entry ∈ c.signatures,
        ∃ signature, entry.Holds signature ∧ v.checkRaw signature digest = .ok () := by
  cases hdecode : SignatureContainer.decode container with
  | error cause =>
    rw [checkContainer_of_decode_error hdecode]
    simp
  | ok c =>
    rw [checkContainer_of_decode hdecode, trySignatures_eq_ok_iff hdigest]
    simp only [List.mem_filterMap, usable_eq_some_iff, Except.ok.injEq, exists_eq_left']
    constructor
    · rintro ⟨signature, ⟨entry, hentry, hholds⟩, haccepted⟩
      exact ⟨entry, hentry, signature, hholds, haccepted⟩
    · rintro ⟨entry, hentry, signature, hholds, haccepted⟩
      exact ⟨signature, ⟨entry, hentry, hholds⟩, haccepted⟩

/-- For a digest of a wrong length no container is accepted. -/
theorem checkContainer_ne_ok (hdigest : digest.length ≠ digestSize) :
    v.checkContainer container digest ≠ .ok () := by
  have hcheck : ∀ signature, v.checkRaw signature digest =
      .error (.invalidDigestLength digest.length) := fun _ => if_pos hdigest
  cases hdecode : SignatureContainer.decode container with
  | error cause =>
    rw [checkContainer_of_decode_error hdecode]
    intro h
    cases h
  | ok c =>
    rw [checkContainer_of_decode hdecode]
    cases c.signatures.filterMap usable with
    | nil =>
      intro h
      cases h
    | cons signature rest =>
      rw [trySignatures, hcheck]
      intro h
      cases h

/-- Why a container is not accepted: it is not well formed, no entry holds a signature, or one that
an entry holds is refused, the last one unless the digest has a wrong length. -/
theorem checkContainer_eq_error_cases {e : SignatureError}
    (h : v.checkContainer container digest = .error e) :
    (∃ cause, SignatureContainer.decode container = .error cause ∧ e = .containerDecode cause) ∨
      ∃ c, SignatureContainer.decode container = .ok c ∧
        ((∀ entry ∈ c.signatures, ∀ signature, ¬entry.Holds signature) ∧ e = .noSignatures ∨
          ∃ signature, v.checkRaw signature digest = .error e ∧
            (digest.length = digestSize → ∃ entry, LastHolding c.signatures entry signature)) := by
  cases hdecode : SignatureContainer.decode container with
  | error cause =>
    rw [checkContainer_of_decode_error hdecode] at h
    cases h
    exact .inl ⟨cause, rfl, rfl⟩
  | ok c =>
    rw [checkContainer_of_decode hdecode] at h
    refine .inr ⟨c, rfl, ?_⟩
    rcases trySignatures_eq_error_cases h with ⟨hnone, rfl⟩ | ⟨before, signature, after, hall, hr⟩
    · exact .inl ⟨filterMap_usable_eq_nil_iff.1 hnone, rfl⟩
    · refine .inr ⟨signature, hr.1, fun hdigest => ?_⟩
      rw [hr.2 hdigest] at hall
      exact lastHolding_of_filterMap hall

/-- A verifier accepts the containers of which it accepts an entry. -/
structure ChecksContainers (v : Verifier) : Prop where
  /-- A container is accepted for a digest of 32 bytes just if it is well formed and one of its
  entries holds a signature that is accepted. -/
  accepted : ∀ container digest, digest.length = 32 →
    (v.checkContainer container digest = .ok () ↔
      ∃ c, SignatureContainer.decode container = .ok c ∧ ∃ entry ∈ c.signatures,
        ∃ signature, entry.Holds signature ∧ v.checkRaw signature digest = .ok ())
  /-- What is accepted stays so with more entries, in whatever order. -/
  kept : ∀ container container' digest c c', SignatureContainer.decode container = .ok c →
    SignatureContainer.decode container' = .ok c' → c.signatures ⊆ c'.signatures →
      v.checkContainer container digest = .ok () → v.checkContainer container' digest = .ok ()
  /-- A container is reported as not well formed just if it is not, with what is wrong. -/
  undecoded : ∀ container digest cause,
    v.checkContainer container digest = .error (.containerDecode cause) ↔
      SignatureContainer.decode container = .error cause
  /-- A container is reported to hold no signature just if none of its entries does. -/
  unusable : ∀ container digest, v.checkContainer container digest = .error .noSignatures ↔
    ∃ c, SignatureContainer.decode container = .ok c ∧
      ∀ entry ∈ c.signatures, ∀ signature, ¬entry.Holds signature
  /-- Any other failure for a digest of 32 bytes is the mismatch of the signature that the last
  entry to hold one does. -/
  mismatched : ∀ container digest e, digest.length = 32 →
    v.checkContainer container digest = .error e →
      (∃ cause, e = .containerDecode cause) ∨ e = .noSignatures ∨
        ∃ c entry signature shown, SignatureContainer.decode container = .ok c ∧
          LastHolding c.signatures entry signature ∧
          v.checkRaw signature digest = .error e ∧ e = .mismatch shown
  /-- For a digest of any other length nothing is accepted. -/
  wrongLength : ∀ container digest, digest.length ≠ 32 → v.checkContainer container digest ≠ .ok ()

/-- **A container is accepted just for one of its entries**: for every verifier and all bytes, a
container passes if it is well formed and an entry of it holds an accepted signature, whatever the
other entries are. -/
theorem containers_accepted_exactly (v : Verifier) : ChecksContainers v where
  accepted container digest hdigest := checkContainer_eq_ok_iff hdigest
  kept := by
    intro container container' digest c c' hdecode hdecode' hsubset haccepted
    have hdigest : digest.length = digestSize := by
      by_contra hwrong
      exact checkContainer_ne_ok hwrong haccepted
    obtain ⟨c₀, hdecode₀, entry, hentry, hholds⟩ := (checkContainer_eq_ok_iff hdigest).1 haccepted
    obtain rfl := Except.ok.inj (hdecode.symm.trans hdecode₀)
    exact (checkContainer_eq_ok_iff hdigest).2 ⟨c', hdecode', entry, hsubset hentry, hholds⟩
  undecoded := by
    intro container digest cause
    refine ⟨fun h => ?_, checkContainer_of_decode_error⟩
    rcases checkContainer_eq_error_cases h with ⟨cause', hdecode, hcause⟩ | ⟨c, -, hrest⟩
    · cases hcause
      exact hdecode
    · rcases hrest with ⟨-, hnone⟩ | ⟨signature, hcheck, -⟩
      · cases hnone
      · rcases checkRaw_eq_error_cases hcheck with hother | ⟨shown, hother⟩ <;> cases hother
  unusable := by
    intro container digest
    constructor
    · intro h
      rcases checkContainer_eq_error_cases h with ⟨cause, -, hcause⟩ | ⟨c, hdecode, hrest⟩
      · cases hcause
      · rcases hrest with ⟨hnone, -⟩ | ⟨signature, hcheck, -⟩
        · exact ⟨c, hdecode, hnone⟩
        · rcases checkRaw_eq_error_cases hcheck with hother | ⟨shown, hother⟩ <;> cases hother
    · rintro ⟨c, hdecode, hnone⟩
      rw [checkContainer_of_decode hdecode, filterMap_usable_eq_nil_iff.2 hnone]
      rfl
  mismatched := by
    intro container digest e hdigest h
    rcases checkContainer_eq_error_cases h with ⟨cause, -, rfl⟩ | ⟨c, hdecode, hrest⟩
    · exact .inl ⟨cause, rfl⟩
    · rcases hrest with ⟨-, rfl⟩ | ⟨signature, hcheck, hlast⟩
      · exact .inr (.inl rfl)
      · obtain ⟨shown, hshown⟩ := checkRaw_eq_error hdigest hcheck
        obtain ⟨entry, hentry⟩ := hlast hdigest
        exact .inr (.inr ⟨c, entry, signature, shown, hdecode, hentry, hcheck, hshown⟩)
  wrongLength container digest hdigest := checkContainer_ne_ok hdigest

end Verifier

end SlotUpdate
