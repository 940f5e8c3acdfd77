import SlotUpdate.Manifest
import SlotUpdate.Proofs.Wire.RoundTrip

/-!
# Reading manifests and signature containers that were written

Every kind of message that a manifest or a signature container is made of is faithful, so both are
read back from their bytes (`Manifest.decode_encode`, `SignatureContainer.decode_encode`).

For each kind the fields fill the empty message one after the other, in the order of their numbers.
A kind needs messages to stand inside one another one level deeper than the kinds of its fields do.
-/

namespace SlotUpdate

open Wire
open Wire.FieldRule.Restores

/-- Runs of blocks are read back. -/
theorem Extent.faithful : Extent.kind.Faithful 0 := by
  refine MessageKind.faithful_of_fills (by decide) fun budget _ m => ?_
  refine .cons (optional (fun (m : Extent) x => { m with startBlock := x })
    word64 rfl fun _ => rfl) ?_
  refine .cons (optional (fun (m : Extent) x => { m with numBlocks := x })
    word64 rfl fun _ => rfl) ?_
  exact .nil

/-- Signatures are read back. -/
theorem Signature.faithful : Signature.kind.Faithful 0 := by
  refine MessageKind.faithful_of_fills (by decide) fun budget _ m => ?_
  refine .cons (optional (fun (m : Signature) x => { m with version := x })
    word32 rfl fun _ => rfl) ?_
  refine .cons (optional (fun (m : Signature) x => { m with data := x }) bytes rfl fun _ => rfl) ?_
  refine .cons (optional (fun (m : Signature) x => { m with unpaddedSize := x })
    fourBytes rfl fun _ => rfl) ?_
  exact .nil

/-- Signature containers are read back. -/
theorem SignatureContainer.faithful : SignatureContainer.kind.Faithful 1 := by
  refine MessageKind.faithful_of_fills (by decide) fun budget hbudget m => ?_
  refine .cons (repeated (fun (m : SignatureContainer) x => { m with signatures := x })
    (messages Signature.faithful (by omega)) rfl fun _ _ => rfl) ?_
  exact .nil

/-- Sizes and digests are read back. -/
theorem PartitionInfo.faithful : PartitionInfo.kind.Faithful 0 := by
  refine MessageKind.faithful_of_fills (by decide) fun budget _ m => ?_
  refine .cons (optional (fun (m : PartitionInfo) x => { m with size := x })
    word64 rfl fun _ => rfl) ?_
  refine .cons (optional (fun (m : PartitionInfo) x => { m with hash := x })
    bytes rfl fun _ => rfl) ?_
  exact .nil

/-- Steps of writing are read back. -/
theorem InstallOperation.faithful : InstallOperation.kind.Faithful 1 := by
  refine MessageKind.faithful_of_fills (by decide) fun budget hbudget m => ?_
  refine .cons enumeration ?_
  refine .cons (optional (fun (m : InstallOperation) x => { m with dataOffset := x })
    word64 rfl fun _ => rfl) ?_
  refine .cons (optional (fun (m : InstallOperation) x => { m with dataLength := x })
    word64 rfl fun _ => rfl) ?_
  refine .cons (repeated (fun (m : InstallOperation) x => { m with srcExtents := x })
    (messages Extent.faithful (by omega)) rfl fun _ _ => rfl) ?_
  refine .cons (optional (fun (m : InstallOperation) x => { m with srcLength := x })
    word64 rfl fun _ => rfl) ?_
  refine .cons (repeated (fun (m : InstallOperation) x => { m with dstExtents := x })
    (messages Extent.faithful (by omega)) rfl fun _ _ => rfl) ?_
  refine .cons (optional (fun (m : InstallOperation) x => { m with dstLength := x })
    word64 rfl fun _ => rfl) ?_
  refine .cons (optional (fun (m : InstallOperation) x => { m with dataHash := x })
    bytes rfl fun _ => rfl) ?_
  refine .cons (optional (fun (m : InstallOperation) x => { m with srcHash := x })
    bytes rfl fun _ => rfl) ?_
  exact .nil

/-- Partitions are read back. -/
theorem PartitionUpdate.faithful : PartitionUpdate.kind.Faithful 2 := by
  refine MessageKind.faithful_of_fills (by decide) fun budget hbudget m => ?_
  refine .cons requiredText ?_
  refine .cons (optional (fun (m : PartitionUpdate) x => { m with runPostinstall := x })
    bool rfl fun _ => rfl) ?_
  refine .cons (optional (fun (m : PartitionUpdate) x => { m with postinstallPath := x })
    text rfl fun _ => rfl) ?_
  refine .cons (optional (fun (m : PartitionUpdate) x => { m with filesystemType := x })
    text rfl fun _ => rfl) ?_
  refine .cons (repeated (fun (m : PartitionUpdate) x => { m with newPartitionSignature := x })
    (messages Signature.faithful (by omega)) rfl fun _ _ => rfl) ?_
  refine .cons (optional (fun (m : PartitionUpdate) x => { m with oldPartitionInfo := x })
    (message PartitionInfo.faithful (by omega) rfl) rfl fun _ => rfl) ?_
  refine .cons (optional (fun (m : PartitionUpdate) x => { m with newPartitionInfo := x })
    (message PartitionInfo.faithful (by omega) rfl) rfl fun _ => rfl) ?_
  refine .cons (repeated (fun (m : PartitionUpdate) x => { m with operations := x })
    (messages InstallOperation.faithful (by omega)) rfl fun _ _ => rfl) ?_
  refine .cons (optional (fun (m : PartitionUpdate) x => { m with postinstallOptional := x })
    bool rfl fun _ => rfl) ?_
  refine .cons (optional (fun (m : PartitionUpdate) x => { m with version := x })
    text rfl fun _ => rfl) ?_
  exact .nil

/-- Groups of partitions are read back. -/
theorem DynamicPartitionGroup.faithful : DynamicPartitionGroup.kind.Faithful 0 := by
  refine MessageKind.faithful_of_fills (by decide) fun budget _ m => ?_
  refine .cons requiredText ?_
  refine .cons (optional (fun (m : DynamicPartitionGroup) x => { m with size := x })
    word64 rfl fun _ => rfl) ?_
  refine .cons (repeated (fun (m : DynamicPartitionGroup) x => { m with partitionNames := x })
    texts rfl fun _ _ => rfl) ?_
  exact .nil

/-- The update of groups is read back. -/
theorem DynamicPartitionMetadata.faithful : DynamicPartitionMetadata.kind.Faithful 1 := by
  refine MessageKind.faithful_of_fills (by decide) fun budget hbudget m => ?_
  refine .cons (repeated (fun (m : DynamicPartitionMetadata) x => { m with groups := x })
    (messages DynamicPartitionGroup.faithful (by omega)) rfl fun _ _ => rfl) ?_
  refine .cons (optional (fun (m : DynamicPartitionMetadata) x => { m with snapshotEnabled := x })
    bool rfl fun _ => rfl) ?_
  refine .cons (optional (fun (m : DynamicPartitionMetadata) x => { m with vabcEnabled := x })
    bool rfl fun _ => rfl) ?_
  refine .cons (optional
    (fun (m : DynamicPartitionMetadata) x => { m with vabcCompressionParam := x })
    text rfl fun _ => rfl) ?_
  refine .cons (optional (fun (m : DynamicPartitionMetadata) x => { m with cowVersion := x })
    word32 rfl fun _ => rfl) ?_
  exact .nil

/-- Manifests are read back. -/
theorem Manifest.faithful : Manifest.kind.Faithful 3 := by
  refine MessageKind.faithful_of_fills (by decide) fun budget hbudget m => ?_
  refine .cons (optional (fun (m : Manifest) x => { m with blockSize := x })
    word32 rfl fun _ => rfl) ?_
  refine .cons (optional (fun (m : Manifest) x => { m with signaturesOffset := x })
    word64 rfl fun _ => rfl) ?_
  refine .cons (optional (fun (m : Manifest) x => { m with signaturesSize := x })
    word64 rfl fun _ => rfl) ?_
  refine .cons (optional (fun (m : Manifest) x => { m with minorVersion := x })
    word32 rfl fun _ => rfl) ?_
  refine .cons (repeated (fun (m : Manifest) x => { m with partitions := x })
    (messages PartitionUpdate.faithful (by omega)) rfl fun _ _ => rfl) ?_
  refine .cons (optional (fun (m : Manifest) x => { m with maxTimestamp := x })
    int64 rfl fun _ => rfl) ?_
  refine .cons (optional (fun (m : Manifest) x => { m with dynamicPartitionMetadata := x })
    (message DynamicPartitionMetadata.faithful (by omega) rfl) rfl fun _ => rfl) ?_
  refine .cons (optional (fun (m : Manifest) x => { m with partialUpdate := x })
    bool rfl fun _ => rfl) ?_
  refine .cons (optional (fun (m : Manifest) x => { m with securityPatchLevel := x })
    text rfl fun _ => rfl) ?_
  exact .nil

/-- A manifest is read back from its bytes. -/
theorem Manifest.decode_encode {m : Manifest} (hsize : m.encode.length < UInt64.size) :
    Manifest.decode m.encode = .ok m :=
  Manifest.faithful nestingLimit (by decide) m hsize

/-- A signature container is read back from its bytes. -/
theorem SignatureContainer.decode_encode {c : SignatureContainer}
    (hsize : c.encode.length < UInt64.size) : SignatureContainer.decode c.encode = .ok c :=
  SignatureContainer.faithful nestingLimit (by decide) c hsize

end SlotUpdate
