import SlotUpdate.Wire.Message

/-!
# Manifests

The manifest of a payload says which partitions an update writes and what runs afterwards; a
signature container holds the signatures of the metadata. Both are messages of the wire format.
This module holds the types, the rules of their fields, and the two pairs of reader and writer:
`Manifest.decode` with `Manifest.encode` and `SignatureContainer.decode` with
`SignatureContainer.encode`. The sizes of what is written are known beforehand (`encodedSize`).

A field that a message may lack is an `Option`; the accessors give the value that stands for an
absent one.
-/

namespace SlotUpdate

open Wire

/-- A run of blocks. -/
structure Extent where
  /-- The first block. -/
  startBlock : Option UInt64
  /-- How many blocks. -/
  numBlocks : Option UInt64
  deriving Repr, DecidableEq

/-- A signature, padded to a size that depends on the key only. -/
structure Signature where
  /-- A version that is not used. -/
  version : Option UInt32
  /-- The signature and its padding. -/
  data : Option Bytes
  /-- The size without the padding. -/
  unpaddedSize : Option UInt32
  deriving Repr, DecidableEq

/-- The signatures of one digest by several keys. -/
structure SignatureContainer where
  /-- The signatures. -/
  signatures : List Signature
  deriving Repr, DecidableEq

/-- Size and digest of a partition. -/
structure PartitionInfo where
  /-- The size in bytes. -/
  size : Option UInt64
  /-- The digest. -/
  hash : Option Bytes
  deriving Repr, DecidableEq

/-- A step of writing a partition. -/
structure InstallOperation where
  /-- The number of the kind of step. -/
  type : Int32
  /-- Where the data of the step starts in the payload. -/
  dataOffset : Option UInt64
  /-- How long the data is. -/
  dataLength : Option UInt64
  /-- The blocks that are read. -/
  srcExtents : List Extent
  /-- How many bytes are read. -/
  srcLength : Option UInt64
  /-- The blocks that are written. -/
  dstExtents : List Extent
  /-- How many bytes are written. -/
  dstLength : Option UInt64
  /-- The digest of the data. -/
  dataHash : Option Bytes
  /-- The digest of what is read. -/
  srcHash : Option Bytes
  deriving Repr, DecidableEq

/-- What an update does to one partition. -/
structure PartitionUpdate where
  /-- The name of the partition. -/
  partitionName : String
  /-- Whether the program runs after the update. -/
  runPostinstall : Option Bool
  /-- The program, relative to the partition. -/
  postinstallPath : Option String
  /-- The filesystem of the partition. -/
  filesystemType : Option String
  /-- Signatures of the new contents. -/
  newPartitionSignature : List Signature
  /-- Size and digest before the update. -/
  oldPartitionInfo : Option PartitionInfo
  /-- Size and digest after the update. -/
  newPartitionInfo : Option PartitionInfo
  /-- The steps of writing. -/
  operations : List InstallOperation
  /-- Whether a failure of the program is ignored. -/
  postinstallOptional : Option Bool
  /-- The version of the partition. -/
  version : Option String
  deriving Repr, DecidableEq

/-- Partitions that share space. -/
structure DynamicPartitionGroup where
  /-- The name of the group. -/
  name : String
  /-- How much space the group has. -/
  size : Option UInt64
  /-- The partitions of the group. -/
  partitionNames : List String
  deriving Repr, DecidableEq

/-- How partitions that share space are updated. -/
structure DynamicPartitionMetadata where
  /-- The groups. -/
  groups : List DynamicPartitionGroup
  /-- Whether snapshots are used. -/
  snapshotEnabled : Option Bool
  /-- Whether snapshots are compressed. -/
  vabcEnabled : Option Bool
  /-- How snapshots are compressed. -/
  vabcCompressionParam : Option String
  /-- The version of the snapshot format. -/
  cowVersion : Option UInt32
  deriving Repr, DecidableEq

/-- What a payload writes. -/
structure Manifest where
  /-- The block size, if it is not the usual one. -/
  blockSize : Option UInt32
  /-- Where the payload's signatures start. -/
  signaturesOffset : Option UInt64
  /-- How long the payload's signatures are. -/
  signaturesSize : Option UInt64
  /-- The minor version of the format. -/
  minorVersion : Option UInt32
  /-- The partitions. -/
  partitions : List PartitionUpdate
  /-- The time of the build. -/
  maxTimestamp : Option Int64
  /-- How partitions that share space are updated. -/
  dynamicPartitionMetadata : Option DynamicPartitionMetadata
  /-- Whether only some partitions are written. -/
  partialUpdate : Option Bool
  /-- The level of security fixes. -/
  securityPatchLevel : Option String
  deriving Repr, DecidableEq

/-! ## Accessors with defaults -/

/-- Whether the program runs after the update; it does not unless the manifest says so. -/
def PartitionUpdate.runsPostinstall (u : PartitionUpdate) : Bool :=
  u.runPostinstall.getD false

/-- Whether a failure of the program is ignored; it is not unless the manifest says so. -/
def PartitionUpdate.isPostinstallOptional (u : PartitionUpdate) : Bool :=
  u.postinstallOptional.getD false

/-- The program, empty if there is none. -/
def PartitionUpdate.program (u : PartitionUpdate) : String :=
  u.postinstallPath.getD ""

/-- The filesystem, empty if it is not given. -/
def PartitionUpdate.filesystem (u : PartitionUpdate) : String :=
  u.filesystemType.getD ""

/-- The size after the update, zero if it is not given. -/
def PartitionUpdate.newSize (u : PartitionUpdate) : UInt64 :=
  (u.newPartitionInfo.bind (·.size)).getD 0

/-- The digest after the update, empty if it is not given. -/
def PartitionUpdate.newHash (u : PartitionUpdate) : Bytes :=
  (u.newPartitionInfo.bind (·.hash)).getD []

/-- The block size, 4096 if it is not given. -/
def Manifest.effectiveBlockSize (m : Manifest) : UInt32 :=
  m.blockSize.getD 4096

/-! ## Rules of the fields -/

/-- Runs of blocks on the wire. -/
def Extent.kind : MessageKind Extent where
  name := "Extent"
  empty := ⟨none, none⟩
  rules := [
    .word64 1 "start_block" (·.startBlock) (fun m v => { m with startBlock := some v }),
    .word64 2 "num_blocks" (·.numBlocks) (fun m v => { m with numBlocks := some v })]

/-- Signatures on the wire. -/
def Signature.kind : MessageKind Signature where
  name := "Signature"
  empty := ⟨none, none, none⟩
  rules := [
    .word32 1 "version" (·.version) (fun m v => { m with version := some v }),
    .bytes 2 "data" (·.data) (fun m v => { m with data := some v }),
    .fourBytes 3 "unpadded_signature_size" (·.unpaddedSize)
      (fun m v => { m with unpaddedSize := some v })]

/-- Signature containers on the wire. -/
def SignatureContainer.kind : MessageKind SignatureContainer where
  name := "Signatures"
  empty := ⟨[]⟩
  rules := [
    .messages 1 "signatures" Signature.kind (·.signatures)
      (fun m v => { m with signatures := m.signatures ++ [v] })]

/-- Sizes and digests on the wire. -/
def PartitionInfo.kind : MessageKind PartitionInfo where
  name := "PartitionInfo"
  empty := ⟨none, none⟩
  rules := [
    .word64 1 "size" (·.size) (fun m v => { m with size := some v }),
    .bytes 2 "hash" (·.hash) (fun m v => { m with hash := some v })]

/-- Steps of writing on the wire. -/
def InstallOperation.kind : MessageKind InstallOperation where
  name := "InstallOperation"
  empty := ⟨0, none, none, [], none, [], none, none, none⟩
  rules := [
    .enumeration 1 "type" (·.type) (fun m v => { m with type := v }),
    .word64 2 "data_offset" (·.dataOffset) (fun m v => { m with dataOffset := some v }),
    .word64 3 "data_length" (·.dataLength) (fun m v => { m with dataLength := some v }),
    .messages 4 "src_extents" Extent.kind (·.srcExtents)
      (fun m v => { m with srcExtents := m.srcExtents ++ [v] }),
    .word64 5 "src_length" (·.srcLength) (fun m v => { m with srcLength := some v }),
    .messages 6 "dst_extents" Extent.kind (·.dstExtents)
      (fun m v => { m with dstExtents := m.dstExtents ++ [v] }),
    .word64 7 "dst_length" (·.dstLength) (fun m v => { m with dstLength := some v }),
    .bytes 8 "data_sha256_hash" (·.dataHash) (fun m v => { m with dataHash := some v }),
    .bytes 9 "src_sha256_hash" (·.srcHash) (fun m v => { m with srcHash := some v })]

/-- Partitions on the wire. -/
def PartitionUpdate.kind : MessageKind PartitionUpdate where
  name := "PartitionUpdate"
  empty := ⟨"", none, none, none, [], none, none, [], none, none⟩
  rules := [
    .requiredText 1 "partition_name" (·.partitionName) (fun m v => { m with partitionName := v }),
    .bool 2 "run_postinstall" (·.runPostinstall) (fun m v => { m with runPostinstall := some v }),
    .text 3 "postinstall_path" (·.postinstallPath)
      (fun m v => { m with postinstallPath := some v }),
    .text 4 "filesystem_type" (·.filesystemType) (fun m v => { m with filesystemType := some v }),
    .messages 5 "new_partition_signature" Signature.kind (·.newPartitionSignature)
      (fun m v => { m with newPartitionSignature := m.newPartitionSignature ++ [v] }),
    .message 6 "old_partition_info" PartitionInfo.kind (·.oldPartitionInfo)
      (fun m v => { m with oldPartitionInfo := some v }),
    .message 7 "new_partition_info" PartitionInfo.kind (·.newPartitionInfo)
      (fun m v => { m with newPartitionInfo := some v }),
    .messages 8 "operations" InstallOperation.kind (·.operations)
      (fun m v => { m with operations := m.operations ++ [v] }),
    .bool 9 "postinstall_optional" (·.postinstallOptional)
      (fun m v => { m with postinstallOptional := some v }),
    .text 17 "version" (·.version) (fun m v => { m with version := some v })]

/-- Groups of partitions on the wire. -/
def DynamicPartitionGroup.kind : MessageKind DynamicPartitionGroup where
  name := "DynamicPartitionGroup"
  empty := ⟨"", none, []⟩
  rules := [
    .requiredText 1 "name" (·.name) (fun m v => { m with name := v }),
    .word64 2 "size" (·.size) (fun m v => { m with size := some v }),
    .texts 3 "partition_names" (·.partitionNames)
      (fun m v => { m with partitionNames := m.partitionNames ++ [v] })]

/-- The update of groups on the wire. -/
def DynamicPartitionMetadata.kind : MessageKind DynamicPartitionMetadata where
  name := "DynamicPartitionMetadata"
  empty := ⟨[], none, none, none, none⟩
  rules := [
    .messages 1 "groups" DynamicPartitionGroup.kind (·.groups)
      (fun m v => { m with groups := m.groups ++ [v] }),
    .bool 2 "snapshot_enabled" (·.snapshotEnabled)
      (fun m v => { m with snapshotEnabled := some v }),
    .bool 3 "vabc_enabled" (·.vabcEnabled) (fun m v => { m with vabcEnabled := some v }),
    .text 4 "vabc_compression_param" (·.vabcCompressionParam)
      (fun m v => { m with vabcCompressionParam := some v }),
    .word32 5 "cow_version" (·.cowVersion) (fun m v => { m with cowVersion := some v })]

/-- Manifests on the wire. -/
def Manifest.kind : MessageKind Manifest where
  name := "DeltaArchiveManifest"
  empty := ⟨none, none, none, none, [], none, none, none, none⟩
  rules := [
    .word32 3 "block_size" (·.blockSize) (fun m v => { m with blockSize := some v }),
    .word64 4 "signatures_offset" (·.signaturesOffset)
      (fun m v => { m with signaturesOffset := some v }),
    .word64 5 "signatures_size" (·.signaturesSize)
      (fun m v => { m with signaturesSize := some v }),
    .word32 12 "minor_version" (·.minorVersion) (fun m v => { m with minorVersion := some v }),
    .messages 13 "partitions" PartitionUpdate.kind (·.partitions)
      (fun m v => { m with partitions := m.partitions ++ [v] }),
    .int64 14 "max_timestamp" (·.maxTimestamp) (fun m v => { m with maxTimestamp := some v }),
    .message 15 "dynamic_partition_metadata" DynamicPartitionMetadata.kind
      (·.dynamicPartitionMetadata) (fun m v => { m with dynamicPartitionMetadata := some v }),
    .bool 16 "partial_update" (·.partialUpdate) (fun m v => { m with partialUpdate := some v }),
    .text 18 "security_patch_level" (·.securityPatchLevel)
      (fun m v => { m with securityPatchLevel := some v })]

/-- The manifest that bytes write. -/
def Manifest.decode (b : Bytes) : Except DecodeError Manifest :=
  Manifest.kind.decode b

/-- The bytes of a manifest. -/
def Manifest.encode (m : Manifest) : Bytes :=
  Manifest.kind.encode m

/-- How many bytes a manifest takes. -/
def Manifest.encodedSize (m : Manifest) : Nat :=
  Manifest.kind.encodedSize m

/-- The signature container that bytes write. -/
def SignatureContainer.decode (b : Bytes) : Except DecodeError SignatureContainer :=
  SignatureContainer.kind.decode b

/-- The bytes of a signature container. -/
def SignatureContainer.encode (s : SignatureContainer) : Bytes :=
  SignatureContainer.kind.encode s

/-- How many bytes a signature container takes. -/
def SignatureContainer.encodedSize (s : SignatureContainer) : Nat :=
  SignatureContainer.kind.encodedSize s

end SlotUpdate
