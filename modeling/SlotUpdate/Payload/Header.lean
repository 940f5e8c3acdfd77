import SlotUpdate.Bytes

/-!
# Payload headers

A payload starts with 24 bytes: the magic `CrAU`, the version, the size of the manifest and the
size of the metadata signature, all big-endian. The manifest follows, then the signature. Header
and manifest together are the *metadata*, which is what the signature covers.

`parse` reads a header from bytes that may still be incomplete, and `write` writes one. The sizes
of a header are natural numbers; `parse` admits only sizes whose sums fit 64 bits.
-/

namespace SlotUpdate.Payload

/-- The first four bytes of a payload. -/
def magic : Bytes := [0x43, 0x72, 0x41, 0x55]

/-- The supported version. -/
def supportedVersion : Nat := 2

/-- The size of the header. -/
def headerSize : Nat := 24

/-- How many bytes have to be there before the magic is looked at. -/
def magicThreshold : Nat := 12

/-- The sizes from a payload header. -/
structure Header where
  /-- The version. -/
  version : Nat
  /-- The size of the manifest. -/
  manifestSize : Nat
  /-- The size of the metadata signature. -/
  signatureSize : Nat
  deriving Repr, DecidableEq

/-- The size of the metadata: header and manifest. -/
def Header.metadataSize (h : Header) : Nat :=
  headerSize + h.manifestSize

/-- The size of the metadata and its signature. -/
def Header.totalSize (h : Header) : Nat :=
  h.metadataSize + h.signatureSize

/-- Why bytes start no supported payload. -/
inductive HeaderError where
  /-- The payload starts with other bytes than the magic. -/
  | unknownMagic (found : Bytes)
  /-- The version is not supported. -/
  | unsupportedVersion (version : Nat)
  /-- The size of the metadata does not fit 64 bits. -/
  | metadataOverflow
  /-- The size of metadata and signature does not fit 64 bits. -/
  | totalOverflow
  deriving Repr, DecidableEq

/-- What the bytes at hand say about the header. -/
inductive HeaderStatus where
  /-- The header is complete. -/
  | complete (header : Header)
  /-- More bytes are needed. -/
  | insufficientData
  deriving Repr, DecidableEq

/-- The big-endian number in `size` bytes from `offset` on. -/
def numberAt (offset size : Nat) (data : Bytes) : Nat :=
  Bytes.toNat ((data.drop offset).take size)

/-- Read the header at the start of `data`. The magic is looked at once the version starts to be
there; nothing after the header matters. -/
def Header.parse (data : Bytes) : Except HeaderError HeaderStatus :=
  if data.length < magicThreshold then .ok .insufficientData
  else if data.take 4 ≠ magic then .error (.unknownMagic (data.take 4))
  else if data.length < headerSize then .ok .insufficientData
  else
    -- Magic, version, manifest size, signature size: 4 + 8 + 8 + 4 bytes.
    let h : Header := ⟨numberAt 4 8 data, numberAt 12 8 data, numberAt 20 4 data⟩
    if h.version ≠ supportedVersion then .error (.unsupportedVersion h.version)
    else if UInt64.size ≤ h.metadataSize then .error .metadataOverflow
    else if UInt64.size ≤ h.totalSize then .error .totalOverflow
    else .ok (.complete h)

/-- The header of a payload with the given sizes. -/
def writeHeader (manifestSize signatureSize : Nat) : Bytes :=
  magic ++ Bytes.ofNat 8 supportedVersion ++ Bytes.ofNat 8 manifestSize ++
    Bytes.ofNat 4 signatureSize

/-- A header has 24 bytes. -/
@[simp] theorem length_writeHeader (manifestSize signatureSize : Nat) :
    (writeHeader manifestSize signatureSize).length = headerSize := by
  simp [writeHeader, magic, headerSize]

end SlotUpdate.Payload
