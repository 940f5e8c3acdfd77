import SlotUpdate.Keys.Pem
import SlotUpdate.Payload.Metadata
import SlotUpdate.Proofs.Base64.Canonical
import SlotUpdate.Proofs.Bytes.Digits
import SlotUpdate.Proofs.Text.Written

/-!
# The source of a signature

A signature comes from outside, as base64 text, or from the container after the metadata. The text
alone decides which one counts: a text that is not empty stands for some bytes
(`decodeSignature_of_ne_empty`), so the container is looked at for the empty text only. What is
then checked is a function of the signed range and of the one source that counts
(`checkSignature_of_text`, `checkSignature_of_empty`).
-/

namespace SlotUpdate.Payload

/-- The signed range of a payload: its header and manifest. -/
def Header.signedRange (h : Header) (payload : Bytes) : Bytes :=
  payload.take h.metadataSize

/-- The bytes of a payload that the header has for the signature container. -/
def Header.container (h : Header) (payload : Bytes) : Bytes :=
  (payload.take h.totalSize).drop h.metadataSize

/-- The signed range ends before the container does. -/
theorem Header.metadataSize_le_totalSize (h : Header) : h.metadataSize ≤ h.totalSize :=
  Nat.le_add_right _ _

/-- No text but the empty one is read as no bytes. -/
theorem decode_ne_nil {text : String} (h : text ≠ "") :
    Base64.decode (Utf8.encode text) ≠ .ok [] := by
  intro hdecode
  exact h (Utf8.encode_eq_nil_iff.1 (Base64.decode_eq_ok_nil_iff.1 hdecode))

/-- A text that is not empty stands for what it is read as. -/
theorem decodeSignature_of_ne_empty {text : String} (h : text ≠ "") :
    decodeSignature text =
      (Base64.decode (Utf8.encode text)).mapError (.signatureBase64 text) := by
  rw [decodeSignature, if_neg h]
  cases Base64.decode (Utf8.encode text) with
  | error e => rfl
  | ok raw => rfl

/-- The check of a raw signature over a signed range. -/
def checkOutside (v : Verifier) (signed raw : Bytes) : Except PayloadError Unit :=
  (v.checkRaw raw (sha256 signed)).mapError (refusal (sha256 signed))

/-- The check of a container over a signed range. -/
def checkEmbedded (v : Verifier) (signed container : Bytes) : Except PayloadError Unit :=
  if container = [] then .error .missingSignature
  else (v.checkContainer container (sha256 signed)).mapError (refusal (sha256 signed))

/-- A payload that ends before the container does is refused first. -/
theorem checkSignature_of_lt {h : Header} {payload : Bytes} (signature : String) (v : Verifier)
    (hlen : payload.length < h.totalSize) :
    h.checkSignature payload signature v = .error (.tooSmall h.totalSize payload.length) := by
  unfold Header.checkSignature
  rw [if_pos hlen]
  rfl

/-- The bytes that the text stands for choose the source of the signature. -/
theorem checkSignature_of_le {h : Header} {payload : Bytes} (signature : String) (v : Verifier)
    (hlen : h.totalSize ≤ payload.length) :
    h.checkSignature payload signature v = decodeSignature signature >>= fun raw =>
      if raw = [] then checkEmbedded v (h.signedRange payload) (h.container payload)
      else checkOutside v (h.signedRange payload) raw := by
  have hdigest : (sha256 (payload.take h.metadataSize)).length = digestSize := length_sha256 _
  unfold Header.checkSignature
  rw [if_neg (Nat.not_lt_of_le hlen)]
  show decodeSignature signature >>= _ = _
  congr 1
  funext raw
  by_cases hraw : raw = []
  · simp only [if_pos hraw]
    by_cases hcontainer : h.container payload = []
    · rw [if_pos ⟨hraw, hcontainer⟩, checkEmbedded, if_pos hcontainer]
      rfl
    · rw [if_neg fun hnone => hcontainer hnone.2, if_neg (not_not_intro hdigest), checkEmbedded,
        if_neg hcontainer]
      rfl
  · simp only [if_neg hraw]
    rw [if_neg fun hnone => hraw hnone.1, if_neg (not_not_intro hdigest)]
    rfl

/-- A text that is not empty is the only source of the signature. -/
theorem checkSignature_of_text {h : Header} {payload : Bytes} {signature : String} (v : Verifier)
    (hlen : h.totalSize ≤ payload.length) (htext : signature ≠ "") :
    h.checkSignature payload signature v =
      (Base64.decode (Utf8.encode signature)).mapError (.signatureBase64 signature) >>=
        checkOutside v (h.signedRange payload) := by
  rw [checkSignature_of_le signature v hlen, decodeSignature_of_ne_empty htext]
  cases hdecode : Base64.decode (Utf8.encode signature) with
  | error e => rfl
  | ok raw =>
    have hraw : raw ≠ [] := by
      rintro rfl
      exact decode_ne_nil htext hdecode
    rw [mapError_ok, ok_bind, ok_bind, if_neg hraw]

/-- A text that is not base64 is reported. -/
theorem checkSignature_of_text_error {h : Header} {payload : Bytes} {signature : String}
    {cause : Base64.Error} (v : Verifier) (hlen : h.totalSize ≤ payload.length)
    (htext : signature ≠ "") (hraw : Base64.decode (Utf8.encode signature) = .error cause) :
    h.checkSignature payload signature v = .error (.signatureBase64 signature cause) := by
  rw [checkSignature_of_text v hlen htext, hraw]
  rfl

/-- A text that is base64 is checked as the bytes that it is read as. -/
theorem checkSignature_of_text_ok {h : Header} {payload raw : Bytes} {signature : String}
    (v : Verifier) (hlen : h.totalSize ≤ payload.length) (htext : signature ≠ "")
    (hraw : Base64.decode (Utf8.encode signature) = .ok raw) :
    h.checkSignature payload signature v = checkOutside v (h.signedRange payload) raw := by
  rw [checkSignature_of_text v hlen htext, hraw, mapError_ok, ok_bind]

/-- For the empty text the container is the only source of the signature. -/
theorem checkSignature_of_empty {h : Header} {payload : Bytes} (v : Verifier)
    (hlen : h.totalSize ≤ payload.length) :
    h.checkSignature payload "" v =
      checkEmbedded v (h.signedRange payload) (h.container payload) := by
  rw [checkSignature_of_le "" v hlen, decodeSignature, if_pos rfl, ok_bind, if_pos rfl]

/-- Bytes outside of the signed range do not help or spoil a signature that is given from outside,
and without one only header, manifest and container count. What is given from outside is never taken
for nothing, since no text but the empty one is read as no bytes. -/
theorem signature_source_fixed (h : Header) (v : Verifier) (payload payload' : Bytes)
    (hlen : h.totalSize ≤ payload.length) (hlen' : h.totalSize ≤ payload'.length) :
    (∀ signature, signature ≠ "" →
      payload.take h.metadataSize = payload'.take h.metadataSize →
        h.checkSignature payload signature v = h.checkSignature payload' signature v) ∧
    (payload.take h.totalSize = payload'.take h.totalSize →
      h.checkSignature payload "" v = h.checkSignature payload' "" v) ∧
    ∀ text, text ≠ "" → Base64.decode (Utf8.encode text) ≠ .ok [] := by
  refine ⟨?_, ?_, fun text => decode_ne_nil⟩
  · intro signature htext hsame
    rw [checkSignature_of_text v hlen htext, checkSignature_of_text v hlen' htext,
      Header.signedRange, Header.signedRange, hsame]
  · intro hsame
    have hsigned : h.signedRange payload = h.signedRange payload' := by
      have hmin := Nat.min_eq_left h.metadataSize_le_totalSize
      unfold Header.signedRange
      rw [← hmin, ← List.take_take, ← List.take_take, hsame]
    rw [checkSignature_of_empty v hlen, checkSignature_of_empty v hlen', hsigned, Header.container,
      Header.container, hsame]

/-! ### A payload whose container is overwritten -/

/-- A private key of 62 bytes, the fewest that have the room for a block. -/
def sampleKey : Rsa.PrivateKey where
  publicKey.n := Bytes.toNat
    [0xab, 0x3b, 0x25, 0x5a, 0x1b, 0x1b, 0x1c, 0x01, 0x43, 0xf9, 0xe6, 0x4d, 0x9c, 0x35, 0x99, 0x70,
     0x48, 0x30, 0xf5, 0xd7, 0xdf, 0x45, 0x39, 0x48, 0xb8, 0x50, 0xc9, 0xb1, 0xb4, 0x4a, 0xde, 0x38,
     0x7a, 0x80, 0x01, 0x5c, 0xff, 0xbd, 0x7d, 0x8d, 0x4e, 0x88, 0xe2, 0x35, 0xd5, 0x97, 0xa1, 0xd0,
     0x62, 0xce, 0x62, 0x15, 0x16, 0x3f, 0xcd, 0xbc, 0xc9, 0xa9, 0x02, 0xdb, 0xbe, 0x83]
  publicKey.e := 65537
  d := Bytes.toNat
    [0x05, 0xde, 0xee, 0x45, 0xeb, 0x9d, 0xff, 0x54, 0xcf, 0xc6, 0xd6, 0xad, 0x9c, 0x88, 0x7d, 0xed,
     0x4a, 0x9c, 0x5b, 0x21, 0x7e, 0xa7, 0x39, 0xf2, 0x93, 0x57, 0x39, 0xc3, 0x1d, 0x02, 0x60, 0x13,
     0xc2, 0x91, 0x78, 0x72, 0x2d, 0xbf, 0x65, 0xf8, 0x2a, 0x98, 0xc5, 0x94, 0x71, 0x24, 0x7f, 0xb8,
     0xd6, 0x92, 0x55, 0x48, 0x26, 0x6b, 0xcc, 0xf2, 0x33, 0xbe, 0x46, 0xdf, 0x60, 0xd1]

/-- The file of the sample key, in text between two marked lines. -/
def sampleKeyFile : Bytes :=
  ["-----BEGIN PUBLIC KEY-----", "MFowDQYJKoZIhvcNAQEBBQADSQAwRgI/AKs7JVobGxwBQ/nmTZw1mXBIMPXX30U5",
    "SLhQybG0St44eoABXP+9fY1OiOI11Zeh0GLOYhUWP828yakC276DAgMBAAE=",
    "-----END PUBLIC KEY-----"].flatMap fun line => Pem.ascii line ++ [Pem.newline]

/-- The sample key has a supported size. -/
theorem sampleKey_size_le : ∀ key ∈ [sampleKey.publicKey], key.size ≤ maxKeySize := by
  rw [List.forall_mem_singleton]
  exact Bytes.digitCount_le (by decide +kernel)

/-- The verifier that trusts the sample key. -/
def sampleVerifier : Verifier where
  keys := [sampleKey.publicKey]
  keys_ne_nil := List.cons_ne_nil _ _
  size_le := sampleKey_size_le

/-- The header of the sample payload. -/
def sampleHeader : Header := ⟨2, 35, 71⟩

/-- The manifest of the sample payload. -/
def sampleManifest : Manifest :=
  { Manifest.kind.empty with
    blockSize := some 512
    partitions := [
      { PartitionUpdate.kind.empty with
        partitionName := "systäm"
        operations := [⟨-1, none, some 7, [⟨some 1, some 2⟩], none, [], none, none, none⟩] }] }

/-- The header and the bytes of the manifest of the sample payload. -/
def sampleSigned : Bytes :=
  [0x43, 0x72, 0x41, 0x55, 0x00, 0x00, 0x00, 0x00, 0x00, 0x00, 0x00, 0x02, 0x00, 0x00, 0x00, 0x00,
   0x00, 0x00, 0x00, 0x23, 0x00, 0x00, 0x00, 0x47, 0x18, 0x80, 0x04, 0x6a, 0x1e, 0x0a, 0x07, 0x73,
   0x79, 0x73, 0x74, 0xc3, 0xa4, 0x6d, 0x42, 0x13, 0x08, 0xff, 0xff, 0xff, 0xff, 0xff, 0xff, 0xff,
   0xff, 0xff, 0x01, 0x18, 0x07, 0x22, 0x04, 0x08, 0x01, 0x10, 0x02]

/-- The signature of the sample payload, in its container. -/
def sampleContainer : Bytes :=
  [0x0a, 0x45, 0x12, 0x3e, 0x48, 0x6d, 0x1d, 0xae, 0x59, 0x87, 0x37, 0xdf, 0x35, 0x4d, 0xe1, 0xd0,
   0xa7, 0x68, 0xd0, 0xa7, 0x88, 0xe0, 0x5c, 0x13, 0x7e, 0x9c, 0xbd, 0xf5, 0x2d, 0xfc, 0x20, 0xd3,
   0xbc, 0x70, 0xf2, 0x69, 0x77, 0xb2, 0x8b, 0x51, 0x6d, 0xa7, 0x23, 0x6b, 0x0b, 0x50, 0xd2, 0xb7,
   0xe5, 0xa1, 0xc4, 0x18, 0x09, 0x99, 0x02, 0x4d, 0x34, 0x6e, 0x1f, 0x02, 0x2a, 0x2e, 0xbc, 0x59,
   0x69, 0x31, 0x1d, 0x3e, 0x00, 0x00, 0x00]

/-- The signature of the sample payload as text. -/
def sampleText : String :=
  "SG0drlmHN981TeHQp2jQp4jgXBN+nL31Lfwg07xw8ml3sotRbacjawtQ0rflocQYCZkCTTRuHwIqLrxZaTE="

/-- The signature of the sample payload. -/
def sampleSignature : Bytes :=
  (sampleContainer.drop 4).take 62

/-- The header of the sample payload says where its signed range is. -/
theorem signedRange_samplePayload :
    sampleHeader.signedRange (sampleSigned ++ sampleContainer) = sampleSigned := by
  decide +kernel

/-- The text of the sample payload is the written form of its signature. -/
theorem decode_sampleText : Base64.decode (Utf8.encode sampleText) = .ok sampleSignature := by
  apply eq_ok_of_toOption
  decide +kernel

/-- The signature of the sample payload is accepted. -/
theorem checkRaw_sampleSignature :
    sampleVerifier.checkRaw sampleSignature (sha256 sampleSigned) = .ok () := by
  apply eq_ok_of_toOption
  decide +kernel

/-- With the signature given from outside, the sample payload is accepted whether its container
holds the signature or has been overwritten. -/
theorem overwritten_container_accepted :
    sampleHeader.checkSignature (sampleSigned ++ sampleContainer) sampleText sampleVerifier =
      .ok () ∧
    sampleHeader.checkSignature (sampleSigned ++ List.replicate 71 0xff) sampleText sampleVerifier =
      .ok () := by
  have hlen : sampleHeader.totalSize ≤ (sampleSigned ++ sampleContainer).length := by
    decide +kernel
  have hsame := (signature_source_fixed sampleHeader sampleVerifier
    (sampleSigned ++ sampleContainer) (sampleSigned ++ List.replicate 71 0xff) hlen
    (by decide +kernel)).1 sampleText (by decide) (by decide +kernel)
  have haccepted : sampleHeader.checkSignature (sampleSigned ++ sampleContainer) sampleText
      sampleVerifier = .ok () := by
    rw [checkSignature_of_text_ok sampleVerifier hlen (by decide) decode_sampleText,
      signedRange_samplePayload, checkOutside, checkRaw_sampleSignature, mapError_ok]
  exact ⟨haccepted, hsame.symm.trans haccepted⟩

end SlotUpdate.Payload
