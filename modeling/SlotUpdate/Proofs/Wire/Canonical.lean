import SlotUpdate.Proofs.Wire.Growth
import SlotUpdate.Proofs.Wire.Schema

/-!
# One form for each message

Bytes may write one message in many ways: in any order of the fields, with fields that nobody knows,
with scalars that are said again, with messages in several pieces, and with numbers that are longer
than they need to be. `Codec` says how the reader, the writer and the reckoned size of a kind of
messages go together, and `manifests_in_one_form` that they do for manifests and signature
containers. Every message is read back from what is written for it (`Proofs.Wire.Schema`), so
whatever was read, writing it and reading it again changes nothing any more. That needs bytes that
can be counted in 64 bits, since their lengths are written in as many, and what is written is not
much longer than what was read (`Proofs.Wire.Growth`).
-/

namespace SlotUpdate

open Wire

variable {M : Type}

namespace Wire

/-- How messages are read, written and measured goes together. -/
structure Codec (decode : Bytes → Except DecodeError M) (encode : M → Bytes) (size : M → Nat) :
    Prop where
  /-- The size that is reckoned for a message is that of its bytes. -/
  measured : ∀ m, size m = (encode m).length
  /-- A message is read back from its bytes, if these can be counted in 64 bits. -/
  restored : ∀ m, (encode m).length < UInt64.size → decode (encode m) = .ok m
  /-- What is written for a message that was read is not much longer than what it was read from. -/
  bounded : ∀ b m, decode b = .ok m → (encode m).length ≤ 16 * b.length
  /-- What is written for a message that was read, in whatever way it was written before, is read as
  that message, and is written again as it is. -/
  settled : ∀ b m, decode b = .ok m → 16 * b.length < UInt64.size →
    decode (encode m) = .ok m ∧ (decode (encode m)).map encode = .ok (encode m)

/-- How messages are read, written and measured goes together if they are read back from their
bytes, measured by these, and do not grow too much. -/
theorem Codec.of_kind {kind : MessageKind M} {depth : Nat} (hdepth : depth ≤ nestingLimit)
    (hfaithful : kind.Faithful depth) (hmeasured : kind.Measured)
    (hbounded : ∀ b m, kind.decode b = .ok m → kind.encodedSize m ≤ 16 * b.length) :
    Codec kind.decode kind.encode kind.encodedSize := by
  have hrestored : ∀ m, (kind.encode m).length < UInt64.size →
      kind.decode (kind.encode m) = .ok m := fun m => hfaithful nestingLimit hdepth m
  have hlength : ∀ b m, kind.decode b = .ok m → (kind.encode m).length ≤ 16 * b.length := by
    intro b m hread
    rw [← hmeasured]
    exact hbounded b m hread
  refine ⟨hmeasured, hrestored, hlength, fun b m hread hsize => ?_⟩
  have hread' := hrestored m (Nat.lt_of_le_of_lt (hlength b m hread) hsize)
  rw [hread']
  exact ⟨rfl, rfl⟩

end Wire

/-- Manifests and signature containers are read back from what is written for them, which has the
size that is reckoned, and whatever bytes they are read from, what is written for them is read and
written again as it is. -/
theorem manifests_in_one_form :
    Codec Manifest.decode Manifest.encode Manifest.encodedSize ∧
      Codec SignatureContainer.decode SignatureContainer.encode SignatureContainer.encodedSize :=
  ⟨.of_kind (by decide) Manifest.faithful Manifest.measured fun _ _ => Manifest.encodedSize_le,
    .of_kind (by decide) SignatureContainer.faithful SignatureContainer.measured
      fun _ _ => SignatureContainer.encodedSize_le⟩

/-- A manifest out of order: the level of security fixes, a field and a group that nobody knows, a
partition without a name whose size and digest come in a piece each, two block sizes, of which the
first is padded, and a truth value of two. -/
def scrambledManifest : Bytes :=
  [0x92, 0x01, 0x01, 0x78, 0x08, 0x05, 0xa3, 0x01, 0x08, 0x01, 0xa4, 0x01, 0x6a, 0x09, 0x3a, 0x02,
   0x08, 0x07, 0x3a, 0x03, 0x12, 0x01, 0xaa, 0x18, 0x80, 0x00, 0x18, 0x07, 0x80, 0x01, 0x02]

/-- What the manifest out of order says. -/
def scrambledMeaning : Manifest :=
  { Manifest.kind.empty with
    blockSize := some 7
    partitions := [
      { PartitionUpdate.kind.empty with newPartitionInfo := some ⟨some 7, some [0xaa]⟩ }]
    partialUpdate := some true
    securityPatchLevel := some "x" }

/-- The manifest out of order is read, is written in another way, and stays so. -/
theorem scrambled_manifest_settles :
    Manifest.decode scrambledManifest = .ok scrambledMeaning ∧
      16 * scrambledManifest.length < UInt64.size ∧
      scrambledMeaning.encode ≠ scrambledManifest ∧
      Manifest.decode scrambledMeaning.encode = .ok scrambledMeaning ∧
      (Manifest.decode scrambledMeaning.encode).map Manifest.encode =
        .ok scrambledMeaning.encode := by
  have hread : Manifest.decode scrambledManifest = .ok scrambledMeaning := by
    apply eq_ok_of_toOption
    decide +kernel
  have hsize : 16 * scrambledManifest.length < UInt64.size := by decide
  have hsettled := manifests_in_one_form.1.settled scrambledManifest scrambledMeaning hread hsize
  exact ⟨hread, hsize, by decide +kernel, hsettled⟩

end SlotUpdate
