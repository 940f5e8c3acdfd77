import SlotUpdate.Base64
import SlotUpdate.ErrorCode
import SlotUpdate.Hash.Sha256
import SlotUpdate.Payload.Header
import SlotUpdate.Text.HexDump
import SlotUpdate.Verifier

/-!
# Payload metadata

Reading the metadata of a payload and its signature (`readMetadata`), checking the signature
(`Header.checkSignature`), and both with the manifest at the end (`verifyAndParse`). A signature
given from outside, as base64 text, takes the place of the container that follows the metadata.

What a step logs is a function of its outcome, so the steps themselves answer plain results and
`PayloadError.log` and its companions give the messages.
-/

namespace SlotUpdate

open Wire (DecodeError)

/-- Why the metadata of a payload is not accepted. -/
inductive PayloadError where
  /-- The header is not one of a supported payload. -/
  | header (cause : Payload.HeaderError)
  /-- The payload ends before its metadata signature does. -/
  | tooSmall (need available : Nat)
  /-- The signature given from outside is not base64. -/
  | signatureBase64 (text : String) (cause : Base64.Error)
  /-- There is a signature neither from outside nor in the payload. -/
  | missingSignature
  /-- The digest of the metadata could not be used. -/
  | hashVerification (cause : SignatureError)
  /-- The signature is not accepted; holds the digest of the metadata. -/
  | signatureMismatch (cause : SignatureError) (digest : Bytes)
  /-- The metadata does not have the size that it should. -/
  | invalidMetadataSize (size : Nat)
  /-- The metadata does not have the expected digest. -/
  | metadataHashMismatch (expected actual : Bytes)
  /-- The manifest is not well formed. -/
  | manifestDecode (cause : DecodeError)
  /-- The signature container is not well formed. -/
  | signaturesDecode (cause : DecodeError)
  /-- The metadata cannot be signed. -/
  | signing (cause : SignatureError)
  /-- The payload cannot be read. -/
  | unreadable (cause : SystemError)
  /-- A size does not fit the number that the header has for it. -/
  | integerTooLarge (field : String)
  /-- A caller asked for the manifest of bytes that do not hold it, which is its mistake. -/
  | manifestOutOfRange (length metadataSize : Nat)
  /-- A signature is longer than its key, which no key can give. -/
  | signatureTooLong
  /-- A container does not have the size that the header announces. -/
  | containerSizeChanged (size announced : Nat)
  /-- A buffer would have more bytes than one can have. -/
  | capacityOverflow
  deriving Repr, DecidableEq

namespace PayloadError

/-- The name of a failure. -/
def name : PayloadError → String
  | header (.unknownMagic _) => "UnknownMagic"
  | header (.unsupportedVersion _) => "UnsupportedVersion"
  | header .metadataOverflow | header .totalOverflow => "MetadataSizeOverflow"
  | tooSmall _ _ => "PayloadTooSmall"
  | signatureBase64 _ _ => "SignatureBase64"
  | missingSignature => "MissingSignature"
  | hashVerification _ => "HashVerification"
  | signatureMismatch _ _ => "SignatureMismatch"
  | invalidMetadataSize _ => "InvalidMetadataSize"
  | metadataHashMismatch _ _ => "MetadataHashMismatch"
  | manifestDecode _ => "ManifestDecode"
  | signaturesDecode _ => "SignaturesDecode"
  | signing _ => "Crypto"
  | unreadable _ => "Io"
  | integerTooLarge _ => "IntegerTooLarge"
  | manifestOutOfRange _ _ | signatureTooLong | containerSizeChanged _ _ | capacityOverflow =>
    "panic"

/-- The text of a failure. -/
def message : PayloadError → String
  | header (.unknownMagic found) =>
    s!"Unknown magic: {found.toHex}, expected: {Payload.magic.toHex}"
  | header (.unsupportedVersion version) => s!"Unsupported payload major version: {version}"
  | header .metadataOverflow => "Overflow detected in manifest size"
  | header .totalOverflow => "Overflow detected in metadata and signature size"
  | tooSmall need available =>
    s!"Payload is too small for metadata signature: need {need} bytes, but have {available}"
  | signatureBase64 text _ => "Failed to decode base64 metadata signature: " ++ Text.quote text
  | missingSignature =>
    "Missing mandatory metadata signature in both the request and the payload"
  | hashVerification _ => "Failed to compute metadata hash"
  | signatureMismatch _ _ => "Metadata hash signature does not match"
  | invalidMetadataSize size => s!"Invalid metadata size: {size}"
  | metadataHashMismatch expected actual =>
    s!"Metadata hash mismatch: expected {expected.toHex}, but have {actual.toHex}"
  | manifestDecode _ => "Failed to decode manifest"
  | signaturesDecode _ => "Failed to decode metadata signatures"
  | signing _ => "Crypto error"
  | unreadable _ => "I/O error"
  | integerTooLarge field => Text.quote field ++ " field exceeds integer bounds"
  | manifestOutOfRange length metadataSize =>
    s!"Buffer ({length} bytes) does not contain the manifest ({metadataSize} bytes)"
  | signatureTooLong => "Signature exceeds maximum size"
  | containerSizeChanged size announced =>
    "assertion `left == right` failed: Signature container size changed\n" ++
      s!"  left: {size}\n right: {announced}"
  | capacityOverflow => "capacity overflow"

/-- The code that a failure is reported with. -/
def errorCode : PayloadError → ErrorCode
  | header (.unknownMagic _) => .downloadInvalidMetadataMagicString
  | header (.unsupportedVersion _) => .unsupportedMajorPayloadVersion
  | header .metadataOverflow | header .totalOverflow => .downloadInvalidMetadataSize
  | tooSmall _ _ | signatureBase64 _ _ => .downloadMetadataSignatureError
  | missingSignature => .downloadMetadataSignatureMissingError
  | hashVerification _ => .downloadMetadataSignatureVerificationError
  | signatureMismatch _ _ => .downloadMetadataSignatureMismatch
  | invalidMetadataSize _ | metadataHashMismatch _ _ | manifestDecode _ | signaturesDecode _
  | unreadable _ | integerTooLarge _ => .downloadManifestParseError
  | signing _ | manifestOutOfRange _ _ | signatureTooLong | containerSizeChanged _ _
  | capacityOverflow => .error

/-- The texts of what lies behind a failure, the nearest first. -/
def causes : PayloadError → List String
  | signatureBase64 _ cause => [cause.message]
  | hashVerification cause | signatureMismatch cause _ | signing cause =>
    cause.message :: cause.causes
  | manifestDecode cause | signaturesDecode cause => [cause.message]
  | unreadable cause => [cause.text]
  | _ => []

/-- What is logged when a failure arises. -/
def log : PayloadError → List LogLine
  | header (.unsupportedVersion version) =>
    [.error s!"Bad payload format: unsupported payload version: {version}"]
  | e@(header (.unknownMagic _)) => [.error ("Bad payload format: " ++ e.message)]
  | e@(signatureBase64 _ _) => [.error ("Unable to decode metadata signature: " ++ e.message)]
  | e@missingSignature => [.error e.message]
  | signatureMismatch cause digest =>
    .error ("Metadata hash verification failed: " ++ cause.message) ::
      match cause with
      | .mismatch decrypted =>
        .error "Decrypted hash:" :: HexDump.logLines decrypted ++
          .error "Calculated hash before padding:" :: HexDump.logLines digest
      | _ => []
  | _ => []

end PayloadError

namespace Payload

/-- The bytes of the manifest in `data`, which starts with the header. -/
def Header.manifestBytes (h : Header) (data : Bytes) : Except PayloadError Bytes :=
  if h.metadataSize ≤ data.length then .ok ((data.take h.metadataSize).drop headerSize)
  else .error (.manifestOutOfRange data.length h.metadataSize)

/-- The manifest in `data`. -/
def Header.manifest (h : Header) (data : Bytes) : Except PayloadError Manifest := do
  match Manifest.decode (← h.manifestBytes data) with
  | .ok m => .ok m
  | .error e => .error (.manifestDecode e)

/-- The bytes that a base64 text stands for; an empty text stands for no bytes. -/
def decodeSignature (text : String) : Except PayloadError Bytes :=
  if text = "" then .ok []
  else match Base64.decode (Utf8.encode text) with
    | .ok b => .ok b
    | .error e => .error (.signatureBase64 text e)

/-- The failure for a refused signature of `digest`. -/
def refusal (digest : Bytes) : SignatureError → PayloadError
  | .invalidDigestLength n => .hashVerification (.invalidDigestLength n)
  | e => .signatureMismatch e digest

/-- Check the signature of the metadata at the start of `payload`: the one given as base64 text, or
the container after the metadata if that text decodes to nothing. -/
def Header.checkSignature (h : Header) (payload : Bytes) (signature : String) (v : Verifier) :
    Except PayloadError Unit := do
  if payload.length < h.totalSize then throw (.tooSmall h.totalSize payload.length)
  let raw ← decodeSignature signature
  -- The decoded bytes choose the source, so what the text says counts, not that there is one.
  let container := if raw = [] then (payload.take h.totalSize).drop h.metadataSize else []
  if raw = [] ∧ container = [] then throw .missingSignature
  let digest := sha256 (payload.take h.metadataSize)
  if digest.length ≠ digestSize then
    throw (.hashVerification (.invalidDigestLength digest.length))
  let result := if raw = [] then v.checkContainer container digest else v.checkRaw raw digest
  result.mapError (refusal digest)

/-- What checking the signature logs. -/
def signatureLog : Except PayloadError Unit → List LogLine
  | .ok () => [.info "Metadata hash signature matches trusted key"]
  | .error e => e.log

/-- The most bytes that a buffer can have: its size fits a signed word. -/
def maxBufferSize : Nat := UInt64.size / 2 - 1

/-- Why a buffer of `size` bytes is not filled from a source with fewer bytes. The source itself
has no more bytes than a buffer can have. -/
def shortRead (size : Nat) : PayloadError :=
  if maxBufferSize < size then .capacityOverflow else .unreadable .endOfInput

/-- Read header, manifest and signature from the start of `source`, which is said to have
`sourceSize` bytes. Metadata that claims to be larger is refused before it is read. -/
def readMetadata (source : Bytes) (sourceSize : Nat) : Except PayloadError (Header × Bytes) :=
  if source.length < headerSize then .error (.unreadable .endOfInput)
  else match Header.parse (source.take headerSize) with
    | .error e => .error (.header e)
    | .ok .insufficientData => .error (.invalidMetadataSize headerSize)
    | .ok (.complete h) =>
      -- Nothing is read on the word of a header that claims more than there is.
      if sourceSize < h.totalSize then .error (.invalidMetadataSize h.totalSize)
      else if source.length < h.totalSize then .error (shortRead h.totalSize)
      else .ok (h, source.take h.totalSize)

/-- What reading the metadata logs. -/
def readLog : Except PayloadError (Header × Bytes) → List LogLine
  | .ok (h, _) =>
    [.debug (s!"Read payload metadata: manifest={h.manifestSize} bytes, " ++
      s!"signature={h.signatureSize} bytes")]
  | .error e => e.log

/-- Check the digest of the metadata at the start of `data`. -/
def Header.checkHash (h : Header) (data expected : Bytes) : Except PayloadError Unit :=
  if data.length < h.metadataSize then .error (.invalidMetadataSize h.metadataSize)
  else
    let actual := sha256 (data.take h.metadataSize)
    if actual = expected then .ok () else .error (.metadataHashMismatch expected actual)

/-- Check the metadata that `readMetadata` read, first its digest, if one is expected, then its
signature, and read its manifest. -/
def verifyAndParse (h : Header) (data : Bytes) (signature : String) (expected : Option Bytes)
    (v : Verifier) : Except PayloadError Manifest := do
  match expected with
  | some digest => h.checkHash data digest
  | none => pure ()
  -- Only bytes whose signature was accepted are decoded.
  h.checkSignature data signature v
  h.manifest data

/-- What checking the metadata logs. -/
def verifyLog (h : Header) (data : Bytes) (signature : String) (expected : Option Bytes)
    (v : Verifier) : List LogLine :=
  match expected with
  | none => signatureLog (h.checkSignature data signature v)
  | some digest => match h.checkHash data digest with
    | .error e => e.log
    | .ok () => .info ("Payload metadata hash check passed: " ++ digest.toHex) ::
        signatureLog (h.checkSignature data signature v)

/-- The decoded metadata of a payload, not checked. -/
structure Info where
  /-- The header. -/
  header : Header
  /-- The manifest. -/
  manifest : Manifest
  /-- The signatures. -/
  signatures : SignatureContainer
  deriving Repr, DecidableEq

/-- Read and decode the metadata of a payload without checking it. -/
def readInfo (source : Bytes) (sourceSize : Nat) : Except PayloadError Info := do
  let (h, data) ← readMetadata source sourceSize
  let m ← h.manifest data
  match SignatureContainer.decode (data.drop h.metadataSize) with
  | .ok s => .ok ⟨h, m, s⟩
  | .error e => .error (.signaturesDecode e)

/-! ## Writing -/

/-- Sign a digest and put the signature, padded to the size of the key, into a container. -/
def signContainer (key : Rsa.PrivateKey) (digest : Bytes) :
    Except PayloadError SignatureContainer :=
  match signDigest key digest with
  | .error e => .error (.signing e)
  | .ok s =>
    if key.publicKey.size < s.length then .error .signatureTooLong
    else .ok ⟨[⟨none, some (s ++ List.replicate (key.publicKey.size - s.length) 0),
      some (UInt32.ofNat s.length)⟩]⟩

/-- A manifest as payload metadata, signed. The size of the container is known before the
signature is made, since it depends on the key alone. -/
def writeSigned (m : Manifest) (key : Rsa.PrivateKey) : Except PayloadError Bytes := do
  let manifest := m.encode
  if UInt64.size ≤ manifest.length then throw (.integerTooLarge "manifest_size")
  -- The header holds the size of the container, and the signature covers the header.
  let sample ← signContainer key (List.replicate digestSize 0)
  let size := sample.encodedSize
  if UInt32.size ≤ size then throw (.integerTooLarge "metadata_signature_size")
  let metadata := writeHeader manifest.length size ++ manifest
  let container ← signContainer key (sha256 metadata)
  let written := container.encode
  if written.length ≠ size then throw (.containerSizeChanged written.length size)
  return metadata ++ written

/-- The signature of the metadata in `data`, as base64 text for `checkSignature`. -/
def signMetadata (h : Header) (data : Bytes) (key : Rsa.PrivateKey) :
    Except PayloadError String :=
  if data.length < h.metadataSize then .error (.invalidMetadataSize h.metadataSize)
  else match signDigest key (sha256 (data.take h.metadataSize)) with
    | .error e => .error (.signing e)
    | .ok s => .ok (String.ofList ((Base64.encode s).map fun b => Char.ofNat b.toNat))

end Payload

end SlotUpdate
