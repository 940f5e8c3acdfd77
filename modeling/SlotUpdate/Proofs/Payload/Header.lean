import Mathlib.Tactic.SplitIfs
import SlotUpdate.Payload.Header
import SlotUpdate.Proofs.Bytes.Digits

/-!
# Headers in their payloads

A complete header says what the first 24 bytes say (`parse_eq_complete_iff`), so bytes that agree on
these have the same header (`Header.atStart_take`). The header that is written with sizes that fit
is read back, whatever follows it (`parse_writeHeader`).
-/

namespace SlotUpdate.Payload

/-- The header that the first 24 bytes of a payload say. -/
def Header.atStart (data : Bytes) : Header :=
  ⟨numberAt 4 8 data, numberAt 12 8 data, numberAt 20 4 data⟩

/-- A header is complete if all its bytes are there, with the magic, a supported version and sizes
whose sum fits. -/
theorem parse_eq_complete_iff {data : Bytes} {h : Header} :
    Header.parse data = .ok (.complete h) ↔
      headerSize ≤ data.length ∧ data.take 4 = magic ∧ h = Header.atStart data ∧
        h.version = supportedVersion ∧ h.totalSize < UInt64.size := by
  have hsizes : (Header.atStart data).metadataSize ≤ (Header.atStart data).totalSize :=
    Nat.le_add_right _ _
  constructor
  · intro hparse
    unfold Header.parse at hparse
    dsimp only at hparse
    split_ifs at hparse with h12 hmagic h24 hversion hmetadata htotal
    · cases hparse
    · cases hparse
    · cases hparse
      exact ⟨Nat.le_of_not_lt h24, not_not.1 hmagic, rfl, not_not.1 hversion,
        Nat.lt_of_not_le htotal⟩
  · rintro ⟨h24, hmagic, rfl, hversion, htotal⟩
    have h12 : ¬data.length < magicThreshold := by
      unfold headerSize at h24
      unfold magicThreshold
      omega
    have hmetadata : ¬UInt64.size ≤ (Header.atStart data).metadataSize :=
      Nat.not_le_of_lt (Nat.lt_of_le_of_lt hsizes htotal)
    unfold Header.parse
    rw [if_neg h12, if_neg (not_not_intro hmagic), if_neg (Nat.not_lt_of_le h24)]
    refine (if_neg (not_not_intro hversion)).trans ((if_neg hmetadata).trans ?_)
    exact if_neg (Nat.not_le_of_lt htotal)

/-- A number is read from the bytes where it stands only. -/
theorem numberAt_take {offset size n : Nat} (data : Bytes) (h : offset + size ≤ n) :
    numberAt offset size (data.take n) = numberAt offset size data := by
  unfold numberAt
  rw [List.drop_take, List.take_take, Nat.min_eq_left (by omega)]

/-- The header depends on the first 24 bytes only. -/
theorem Header.atStart_take {n : Nat} (data : Bytes) (h : headerSize ≤ n) :
    Header.atStart (data.take n) = Header.atStart data := by
  unfold headerSize at h
  rw [atStart, numberAt_take data (by omega), numberAt_take data (by omega),
    numberAt_take data (by omega), atStart]

/-- A written number is read where it stands. -/
theorem numberAt_append (front : Bytes) {back : Bytes} {width n : Nat} (h : n < Nat.pow 256 width) :
    numberAt front.length width (front ++ (Bytes.ofNat width n ++ back)) = n := by
  unfold numberAt
  rw [List.drop_left, List.take_left' (Bytes.length_ofNat width n), Bytes.toNat_ofNat_of_lt h]

/-- A header that is written with sizes that fit is read back, whatever follows it. -/
theorem parse_writeHeader {manifestSize signatureSize : Nat} (tail : Bytes)
    (hsignature : signatureSize < UInt32.size)
    (htotal : headerSize + manifestSize + signatureSize < UInt64.size) :
    Header.parse (writeHeader manifestSize signatureSize ++ tail) =
      .ok (.complete ⟨supportedVersion, manifestSize, signatureSize⟩) := by
  have hmanifest : manifestSize < Nat.pow 256 8 := by
    show manifestSize < UInt64.size
    omega
  -- Each field is what stands between the fields before it and those after it.
  have hversion : numberAt 4 8 (writeHeader manifestSize signatureSize ++ tail) =
      supportedVersion := by
    simp only [writeHeader, List.append_assoc]
    exact numberAt_append magic (by decide)
  have hmanifestSize : numberAt 12 8 (writeHeader manifestSize signatureSize ++ tail) =
      manifestSize := by
    simp only [writeHeader, List.append_assoc]
    rw [← List.append_assoc]
    exact numberAt_append (magic ++ Bytes.ofNat 8 supportedVersion) hmanifest
  have hsignatureSize : numberAt 20 4 (writeHeader manifestSize signatureSize ++ tail) =
      signatureSize := by
    have hlength : 20 = (magic ++ Bytes.ofNat 8 supportedVersion ++
        Bytes.ofNat 8 manifestSize).length := by
      simp [magic]
    simp only [writeHeader]
    rw [List.append_assoc, hlength]
    exact numberAt_append _ hsignature
  rw [parse_eq_complete_iff]
  refine ⟨?_, rfl, ?_, rfl, htotal⟩
  · rw [List.length_append, length_writeHeader]
    exact Nat.le_add_right _ _
  · rw [Header.atStart, hversion, hmanifestSize, hsignatureSize]

end SlotUpdate.Payload
