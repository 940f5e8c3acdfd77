import SlotUpdate.Proofs.Payload.Reading
import SlotUpdate.Proofs.Wire.Schema
import SlotUpdate.Proofs.Wire.Size

/-!
# Reading metadata that was written

What is written for a manifest and a key is read back and accepted by everyone who trusts the key
(`written_metadata_accepted`).

The size of a container depends on the size of its signature alone (`length_encode_containerOf`).
So the header announces the right size, and writing fails only where signing does or where a size
does not fit its field (`writeSigned_outcome`). The header then says where the signed range and the
container are (`signedRange_metadataOf`, `container_written`), both are read back, and the signature
is accepted in the container as well as in a text (`verifyAndParse_written`).
-/

namespace SlotUpdate.Payload

open Wire (Value writeKey)

/-! ## Containers -/

/-- The container of a signature that needs no padding. -/
def containerOf (signature : Bytes) : SignatureContainer :=
  ⟨[⟨none, some signature, some (UInt32.ofNat signature.length)⟩]⟩

/-- The bytes of a signature and its size. -/
theorem encode_signature (signature : Bytes) (size : UInt32) :
    Signature.kind.encode ⟨none, some signature, some size⟩ =
      writeKey ⟨2, .delimited⟩ ++ (Value.delimited signature).write ++
        (writeKey ⟨3, .fourBytes⟩ ++ (Value.fourBytes size).write) := by
  simp [Wire.MessageKind.encode, Signature.kind, Wire.FieldRule.write, Wire.FieldRule.word32,
    Wire.FieldRule.integer, Wire.FieldRule.bytes, Wire.FieldRule.fourBytes]

/-- The bytes of a container with one signature. -/
theorem encode_containerOf (signature : Bytes) :
    (containerOf signature).encode =
      writeKey ⟨1, .delimited⟩ ++ (Value.delimited (Signature.kind.encode
        ⟨none, some signature, some (UInt32.ofNat signature.length)⟩)).write := by
  simp [SignatureContainer.encode, containerOf, Wire.MessageKind.encode, SignatureContainer.kind,
    Wire.FieldRule.write, Wire.FieldRule.messages]

/-- The size of a container depends on the size of its signature alone. -/
theorem length_encode_containerOf {signature signature' : Bytes}
    (h : signature.length = signature'.length) :
    (containerOf signature).encode.length = (containerOf signature').encode.length := by
  have hsame : (Signature.kind.encode
      ⟨none, some signature, some (UInt32.ofNat signature.length)⟩).length =
      (Signature.kind.encode
        ⟨none, some signature', some (UInt32.ofNat signature'.length)⟩).length := by
    simp only [encode_signature, List.length_append, Value.write, h]
  simp only [encode_containerOf, List.length_append, Value.write, hsame]

/-- A container is not empty. -/
theorem encode_containerOf_ne_nil (signature : Bytes) : (containerOf signature).encode ≠ [] := by
  rw [encode_containerOf]
  exact List.append_ne_nil_of_left_ne_nil (by decide) _

/-! ## Writing -/

/-- A signature has the size of the key. -/
theorem length_of_signDigest {key : Rsa.PrivateKey} {digest signature : Bytes}
    (h : signDigest key digest = .ok signature) : signature.length = key.publicKey.size := by
  obtain ⟨-, hs⟩ := Verifier.signDigest_eq_ok_iff.1 h
  exact (Rsa.sign_eq_some hs).1

/-- The containers of two signatures by one key have the same size. -/
theorem length_container_of_signDigest {key : Rsa.PrivateKey}
    {digest digest' signature signature' : Bytes} (h : signDigest key digest = .ok signature)
    (h' : signDigest key digest' = .ok signature') :
    (containerOf signature).encode.length = (containerOf signature').encode.length := by
  apply length_encode_containerOf
  rw [length_of_signDigest h, length_of_signDigest h']

/-- A signature that is made is put into a container without padding. -/
theorem signContainer_of_ok {key : Rsa.PrivateKey} {digest signature : Bytes}
    (h : signDigest key digest = .ok signature) :
    signContainer key digest = .ok (containerOf signature) := by
  have hlength := length_of_signDigest h
  unfold signContainer
  rw [h]
  dsimp only
  rw [hlength, if_neg (Nat.lt_irrefl _), Nat.sub_self, List.replicate_zero, List.append_nil,
    ← hlength]
  rfl

/-- Why a digest cannot be signed is passed on. -/
theorem signContainer_of_error {key : Rsa.PrivateKey} {digest : Bytes} {cause : SignatureError}
    (h : signDigest key digest = .error cause) :
    signContainer key digest = .error (.signing cause) := by
  unfold signContainer
  rw [h]

/-- The signed range of a payload whose container has the given size. -/
def metadataOf (m : Manifest) (size : Nat) : Bytes :=
  writeHeader m.encode.length size ++ m.encode

/-- Once a sample container tells a size that fits, writing is a matter of signing the metadata: its
container has the same size. -/
theorem writeSigned_eq {m : Manifest} {key : Rsa.PrivateKey} {sample : Bytes} {size : Nat}
    (hmanifest : m.encode.length < UInt64.size)
    (hsample : signDigest key (List.replicate digestSize 0) = .ok sample)
    (hsize : (containerOf sample).encode.length = size) (hlt : size < UInt32.size) :
    writeSigned m key =
      match signDigest key (sha256 (metadataOf m size)) with
      | .ok signature => .ok (metadataOf m size ++ (containerOf signature).encode)
      | .error cause => .error (.signing cause) := by
  unfold writeSigned
  dsimp only
  rw [if_neg (Nat.not_le_of_lt hmanifest), signContainer_of_ok hsample, ok_bind,
    SignatureContainer.encodedSize_eq, hsize, if_neg (Nat.not_le_of_lt hlt), ← metadataOf]
  cases hsign : signDigest key (sha256 (metadataOf m size)) with
  | error cause =>
    rw [signContainer_of_error hsign]
    rfl
  | ok signature =>
    -- The announced size comes from another signature, but by the same key.
    have hlength : (containerOf signature).encode.length = size :=
      (length_container_of_signDigest hsign hsample).trans hsize
    rw [signContainer_of_ok hsign, ok_bind, if_neg (not_not_intro hlength)]
    rfl

/-- Writing fails if a size does not fit its field or if signing fails; else the container has the
size that the header announces, and holds the signature of the metadata. -/
theorem writeSigned_outcome (m : Manifest) (key : Rsa.PrivateKey) :
    (∃ e, writeSigned m key = .error e ∧
      ((∃ field, e = .integerTooLarge field) ∨ ∃ cause, e = .signing cause)) ∨
    ∃ signature size, (containerOf signature).encode.length = size ∧ size < UInt32.size ∧
      signDigest key (sha256 (metadataOf m size)) = .ok signature ∧
      writeSigned m key = .ok (metadataOf m size ++ (containerOf signature).encode) := by
  by_cases hmanifest : UInt64.size ≤ m.encode.length
  · refine .inl ⟨.integerTooLarge "manifest_size", ?_, .inl ⟨_, rfl⟩⟩
    unfold writeSigned
    exact if_pos hmanifest
  have hfits := Nat.lt_of_not_le hmanifest
  cases hsample : signDigest key (List.replicate digestSize 0) with
  | error cause =>
    refine .inl ⟨.signing cause, ?_, .inr ⟨cause, rfl⟩⟩
    unfold writeSigned
    dsimp only
    rw [if_neg hmanifest, signContainer_of_error hsample]
    rfl
  | ok sample =>
    generalize hsize : (containerOf sample).encode.length = size
    by_cases hlarge : UInt32.size ≤ size
    · refine .inl ⟨.integerTooLarge "metadata_signature_size", ?_, .inl ⟨_, rfl⟩⟩
      unfold writeSigned
      dsimp only
      rw [if_neg hmanifest, signContainer_of_ok hsample, ok_bind,
        SignatureContainer.encodedSize_eq, hsize, if_pos hlarge]
      rfl
    have hlt := Nat.lt_of_not_le hlarge
    rw [writeSigned_eq hfits hsample hsize hlt]
    cases hsign : signDigest key (sha256 (metadataOf m size)) with
    | error cause => exact .inl ⟨.signing cause, rfl, .inr ⟨cause, rfl⟩⟩
    | ok signature =>
      have hlength : (containerOf signature).encode.length = size :=
        (length_container_of_signDigest hsign hsample).trans hsize
      exact .inr ⟨signature, size, hlength, hlt, hsign, rfl⟩

/-- No assertion on the way to a written payload fails. -/
theorem writeSigned_ne_error {m : Manifest} {key : Rsa.PrivateKey} {e : PayloadError}
    (hfield : ∀ field, e ≠ .integerTooLarge field) (hcause : ∀ cause, e ≠ .signing cause) :
    writeSigned m key ≠ .error e := by
  intro herror
  rcases writeSigned_outcome m key with ⟨e', he, hkind⟩ | ⟨signature, size, -, -, -, hok⟩
  · rw [he] at herror
    cases herror
    rcases hkind with ⟨field, rfl⟩ | ⟨cause, rfl⟩
    · exact hfield field rfl
    · exact hcause cause rfl
  · rw [hok] at herror
    cases herror

/-! ## Reading -/

/-- The header of a payload whose container has the given size. -/
def headerOf (m : Manifest) (size : Nat) : Header :=
  ⟨supportedVersion, m.encode.length, size⟩

/-- The header says how long the signed range is. -/
theorem length_metadataOf (m : Manifest) (size : Nat) :
    (metadataOf m size).length = (headerOf m size).metadataSize := by
  rw [metadataOf, List.length_append, length_writeHeader]
  rfl

/-- The header says where the signed range is. -/
theorem signedRange_metadataOf (m : Manifest) (size : Nat) (rest : Bytes) :
    (headerOf m size).signedRange (metadataOf m size ++ rest) = metadataOf m size :=
  List.take_left' (length_metadataOf m size)

/-- The header says how long the payload is. -/
theorem length_written (m : Manifest) {size : Nat} {container : Bytes}
    (hsize : container.length = size) :
    (metadataOf m size ++ container).length = (headerOf m size).totalSize := by
  rw [List.length_append, length_metadataOf, hsize]
  rfl

/-- The header says where the container is. -/
theorem container_written {m : Manifest} {size : Nat} {container : Bytes}
    (hsize : container.length = size) :
    (headerOf m size).container (metadataOf m size ++ container) = container := by
  rw [Header.container, ← length_written m hsize, List.take_length,
    List.drop_left' (length_metadataOf m size)]

/-- The manifest is read back from the end of the signed range. -/
theorem decode_metadataOf {m : Manifest} {size : Nat} (hfits : m.encode.length < UInt64.size) :
    Manifest.decode ((metadataOf m size).drop headerSize) = .ok m := by
  rw [metadataOf, List.drop_left' (length_writeHeader _ _)]
  exact Manifest.decode_encode hfits

/-- The first bytes of a written payload are its header, if this can be counted in 64 bits. -/
theorem parse_metadataOf {m : Manifest} {size : Nat} (hlt : size < UInt32.size)
    (htotal : (headerOf m size).totalSize < UInt64.size) (rest : Bytes) :
    Header.parse ((metadataOf m size ++ rest).take headerSize) =
      .ok (.complete (headerOf m size)) := by
  have hheader : (metadataOf m size ++ rest).take headerSize =
      writeHeader m.encode.length size ++ [] := by
    rw [metadataOf, List.append_assoc, List.take_left' (length_writeHeader _ _), List.append_nil]
  rw [hheader]
  exact parse_writeHeader [] hlt htotal

/-- A written payload that can be counted in 64 bits is read from the start of what holds it. -/
theorem readMetadata_written {m : Manifest} {size sourceSize : Nat} {container : Bytes}
    (hsize : container.length = size) (hlt : size < UInt32.size)
    (htotal : (headerOf m size).totalSize < UInt64.size)
    (hsource : (headerOf m size).totalSize ≤ sourceSize) (tail : Bytes) :
    readMetadata (metadataOf m size ++ container ++ tail) sourceSize =
      .ok (headerOf m size, metadataOf m size ++ container) := by
  have hlength := length_written m hsize
  have hlen : (headerOf m size).totalSize ≤ (metadataOf m size ++ container ++ tail).length := by
    rw [List.length_append, hlength]
    exact Nat.le_add_right _ _
  have hheader := Nat.le_trans (headerOf m size).headerSize_le_totalSize hlen
  have hparse := parse_metadataOf hlt htotal (container ++ tail)
  rw [← List.append_assoc] at hparse
  rw [readMetadata_eq_ok_iff]
  exact ⟨hheader, hparse, hsource, hlen, (List.take_left' hlength).symm⟩

/-! ## Accepting -/

/-- The signature in a container is used as it is. -/
theorem usable_containerOf {signature : Bytes} (hlen : signature.length < UInt32.size) :
    (containerOf signature).signatures.filterMap Verifier.usable = [signature] := by
  have hnat : (UInt32.ofNat signature.length).toNat = signature.length := by
    rw [UInt32.toNat_ofNat', Nat.mod_eq_of_lt hlen]
  simp [containerOf, Verifier.usable, hnat]

/-- A container with a signature by a trusted key is accepted. -/
theorem checkContainer_containerOf {key : Rsa.PrivateKey} {v : Verifier} {digest signature : Bytes}
    (hdigest : digest.length = digestSize) (hsign : signDigest key digest = .ok signature)
    (hkey : key.publicKey ∈ v.keys)
    (hfits : (containerOf signature).encode.length < UInt64.size) :
    v.checkContainer (containerOf signature).encode digest = .ok () := by
  have hlen : signature.length < UInt32.size := by
    rw [length_of_signDigest hsign]
    exact Nat.lt_of_le_of_lt (v.size_le _ hkey) (by decide)
  unfold Verifier.checkContainer
  rw [SignatureContainer.decode_encode hfits]
  dsimp only
  rw [usable_containerOf hlen, Verifier.trySignatures_eq_ok_iff hdigest]
  exact ⟨signature, List.mem_singleton_self _, Verifier.checkRaw_signDigest hsign hkey⟩

/-- The text of a signature is the written form of a signature of the signed range. -/
theorem signMetadata_eq_ok {h : Header} {data : Bytes} {key : Rsa.PrivateKey} {text : String}
    (htext : signMetadata h data key = .ok text) :
    ∃ signature, signDigest key (sha256 (h.signedRange data)) = .ok signature ∧
      Utf8.encode text = Base64.encode signature := by
  unfold signMetadata at htext
  split at htext
  · cases htext
  · split at htext
    · cases htext
    · next signature hsign =>
      cases htext
      exact ⟨signature, hsign, Utf8.encode_ofList_ascii fun _ => Base64.lt_of_mem_encode⟩

/-- The signature of a written payload is accepted by everyone who trusts the key, in its container
and as text. -/
theorem verifyAndParse_written {m : Manifest} {key : Rsa.PrivateKey} {signature : Bytes}
    {size : Nat}
    (hsize : (containerOf signature).encode.length = size)
    (htotal : (headerOf m size).totalSize < UInt64.size)
    (hsign : signDigest key (sha256 (metadataOf m size)) = .ok signature) {text : String}
    {expected : Option Bytes} {v : Verifier}
    (htext : text = "" ∨
      signMetadata (headerOf m size) (metadataOf m size ++ (containerOf signature).encode) key =
        .ok text)
    (hexpected : expected = none ∨ expected = some (sha256 (metadataOf m size)))
    (hkey : key.publicKey ∈ v.keys) :
    verifyAndParse (headerOf m size) (metadataOf m size ++ (containerOf signature).encode) text
      expected v = .ok m := by
  have hsizes : headerSize + m.encode.length + size < UInt64.size := htotal
  rw [verifyAndParse_eq_ok_iff, signedRange_metadataOf, container_written hsize,
    length_written m hsize]
  refine ⟨hexpected, Nat.le_refl _, ?_, decode_metadataOf (by omega)⟩
  by_cases hempty : text = ""
  · exact .inl ⟨hempty, encode_containerOf_ne_nil signature,
      checkContainer_containerOf (length_sha256 _) hsign hkey (by omega)⟩
  · obtain ⟨signature', hsign', hraw⟩ := signMetadata_eq_ok (htext.resolve_left hempty)
    rw [signedRange_metadataOf] at hsign'
    exact .inr ⟨hempty, signature', hraw, Verifier.checkRaw_signDigest hsign' hkey⟩

/-- What is decoded from a written payload without checking it is the manifest and its signature. -/
theorem readInfo_written {m : Manifest} {signature : Bytes} {size sourceSize : Nat}
    (hsize : (containerOf signature).encode.length = size) (hlt : size < UInt32.size)
    (htotal : (headerOf m size).totalSize < UInt64.size)
    (hsource : (headerOf m size).totalSize ≤ sourceSize) (tail : Bytes) :
    readInfo (metadataOf m size ++ (containerOf signature).encode ++ tail) sourceSize =
      .ok ⟨headerOf m size, m, containerOf signature⟩ := by
  have hsizes : headerSize + m.encode.length + size < UInt64.size := htotal
  have hroom := Nat.le_of_eq (length_written m hsize).symm
  have hmanifest : (headerOf m size).manifest
      (metadataOf m size ++ (containerOf signature).encode) = .ok m := by
    rw [manifest_eq_ok_iff hroom, signedRange_metadataOf]
    exact decode_metadataOf (by omega)
  unfold readInfo
  rw [readMetadata_written hsize hlt htotal hsource, ok_bind]
  dsimp only
  rw [hmanifest, ok_bind, List.drop_left' (length_metadataOf m size),
    SignatureContainer.decode_encode (by omega)]

/-- Writing and signing run into no assertion. Whatever follows a written payload, it is read back,
with its manifest and one signature, and it is accepted by every verifier that trusts the key, at
whatever place: with its container or with a signature of it as text, with or without its digest. -/
theorem written_metadata_accepted (m : Manifest) (key : Rsa.PrivateKey) :
    (∀ digest, signContainer key digest ≠ .error .signatureTooLong) ∧
    writeSigned m key ≠ .error .signatureTooLong ∧
    (∀ size announced, writeSigned m key ≠ .error (.containerSizeChanged size announced)) ∧
    ∀ data, writeSigned m key = .ok data →
      ∀ (tail : Bytes) (sourceSize : UInt64), data.length ≤ sourceSize.toNat →
        ∃ h, readMetadata (data ++ tail) sourceSize.toNat = .ok (h, data) ∧
          h.totalSize = data.length ∧
          (∃ signature, readInfo (data ++ tail) sourceSize.toNat = .ok ⟨h, m, ⟨[signature]⟩⟩) ∧
          ∀ (text : String) (expected : Option Bytes) (v : Verifier),
            (text = "" ∨ signMetadata h data key = .ok text) →
            (expected = none ∨ expected = some (sha256 (data.take h.metadataSize))) →
            key.publicKey ∈ v.keys → verifyAndParse h data text expected v = .ok m := by
  refine ⟨fun digest => ?_, ?_, fun size announced => ?_, ?_⟩
  · cases hsign : signDigest key digest with
    | error cause => simp [signContainer_of_error hsign]
    | ok signature => simp [signContainer_of_ok hsign]
  · exact writeSigned_ne_error (by simp) (by simp)
  · exact writeSigned_ne_error (by simp) (by simp)
  · intro data hdata tail sourceSize hsource
    rcases writeSigned_outcome m key with ⟨e, he, -⟩ | ⟨signature, size, hsize, hlt, hsign, hok⟩
    · rw [he] at hdata
      cases hdata
    · rw [hok] at hdata
      cases hdata
      have hlength := length_written m hsize
      rw [hlength] at hsource
      -- The size of the source is what bounds the sizes that are written and read.
      have htotal := Nat.lt_of_le_of_lt hsource sourceSize.toNat_lt
      refine ⟨headerOf m size, readMetadata_written hsize hlt htotal hsource tail, hlength.symm,
        ⟨_, readInfo_written hsize hlt htotal hsource tail⟩, ?_⟩
      intro text expected v htext hexpected hkey
      have hsigned := signedRange_metadataOf m size (containerOf signature).encode
      rw [Header.signedRange] at hsigned
      rw [hsigned] at hexpected
      exact verifyAndParse_written hsize htotal hsign htext hexpected hkey

/-! ### The sample payload is written -/

/-- Another key and the sample key. -/
def rotatedKeys : List Rsa.PublicKey :=
  [⟨sampleKey.publicKey.n + 2, 3⟩, sampleKey.publicKey]

/-- Both keys have a supported size. -/
theorem rotatedKeys_size_le : ∀ key ∈ rotatedKeys, key.size ≤ maxKeySize := by
  rw [rotatedKeys, List.forall_mem_cons]
  exact ⟨Bytes.digitCount_le (by decide +kernel), sampleKey_size_le⟩

/-- A verifier that trusts another key before the sample key. -/
def rotatedVerifier : Verifier where
  keys := rotatedKeys
  keys_ne_nil := List.cons_ne_nil _ _
  size_le := rotatedKeys_size_le

/-- The sample key signs the metadata of the sample payload. -/
theorem signDigest_sampleSigned :
    signDigest sampleKey (sha256 sampleSigned) = .ok sampleSignature := by
  apply eq_ok_of_toOption
  decide +kernel

/-- The metadata of the sample payload is its header and manifest. -/
theorem metadataOf_sampleManifest : metadataOf sampleManifest 71 = sampleSigned := by
  decide +kernel

/-- The container of the sample payload holds its signature. -/
theorem encode_sampleSignature : (containerOf sampleSignature).encode = sampleContainer := by
  decide +kernel

/-- The sample payload is what is written for its manifest. -/
theorem writeSigned_sampleManifest :
    writeSigned sampleManifest sampleKey = .ok (sampleSigned ++ sampleContainer) := by
  have hsome : (signDigest sampleKey (List.replicate digestSize 0)).toOption.isSome := by
    decide +kernel
  cases hsample : signDigest sampleKey (List.replicate digestSize 0) with
  | error cause =>
    rw [hsample] at hsome
    cases hsome
  | ok sample =>
    have hsize : (containerOf sample).encode.length = 71 := by
      rw [length_container_of_signDigest hsample signDigest_sampleSigned, encode_sampleSignature]
      rfl
    rw [writeSigned_eq (by decide +kernel) hsample hsize (by decide), metadataOf_sampleManifest,
      signDigest_sampleSigned]
    dsimp only
    rw [encode_sampleSignature]

/-- The text of the sample payload is what signing its metadata gives. -/
theorem signMetadata_sampleSigned :
    signMetadata sampleHeader (sampleSigned ++ sampleContainer) sampleKey = .ok sampleText := by
  have hlen : ¬(sampleSigned ++ sampleContainer).length < sampleHeader.metadataSize := by
    decide +kernel
  have htext : String.ofList ((Base64.encode sampleSignature).map fun b => Char.ofNat b.toNat) =
      sampleText := by
    decide +kernel
  unfold signMetadata
  rw [if_neg hlen, ← Header.signedRange, signedRange_samplePayload, signDigest_sampleSigned]
  dsimp only
  rw [htext]

/-- The sample payload is read back in front of other bytes, and accepted by a verifier that trusts
another key first, with its container and with its text. -/
theorem sample_payload_accepted :
    writeSigned sampleManifest sampleKey = .ok (sampleSigned ++ sampleContainer) ∧
    ∃ h, readMetadata (sampleSigned ++ sampleContainer ++ [0xff, 0xff]) 1000 =
        .ok (h, sampleSigned ++ sampleContainer) ∧
      verifyAndParse h (sampleSigned ++ sampleContainer) "" none rotatedVerifier =
        .ok sampleManifest ∧
      signMetadata h (sampleSigned ++ sampleContainer) sampleKey = .ok sampleText ∧
      verifyAndParse h (sampleSigned ++ sampleContainer) sampleText (some (sha256 sampleSigned))
        rotatedVerifier = .ok sampleManifest := by
  obtain ⟨h, hread, -, -, haccept⟩ := (written_metadata_accepted sampleManifest sampleKey).2.2.2 _
    writeSigned_sampleManifest [0xff, 0xff] 1000 (by decide +kernel)
  have hheader : h = sampleHeader := by
    have hsample : (readMetadata (sampleSigned ++ sampleContainer ++ [0xff, 0xff]) 1000).toOption =
        some (sampleHeader, sampleSigned ++ sampleContainer) := by
      decide +kernel
    have hread : readMetadata (sampleSigned ++ sampleContainer ++ [0xff, 0xff]) 1000 =
      .ok (h, sampleSigned ++ sampleContainer) := hread
    rw [hread] at hsample
    exact congrArg Prod.fst (Option.some.inj hsample)
  subst hheader
  have hkey : sampleKey.publicKey ∈ rotatedVerifier.keys := by
    decide +kernel
  have hdigest : some (sha256 sampleSigned) =
      some (sha256 ((sampleSigned ++ sampleContainer).take sampleHeader.metadataSize)) := by
    rw [← Header.signedRange, signedRange_samplePayload]
  exact ⟨writeSigned_sampleManifest, sampleHeader, hread,
    haccept "" none _ (.inl rfl) (.inl rfl) hkey, signMetadata_sampleSigned,
    haccept sampleText _ _ (.inr signMetadata_sampleSigned) (.inr hdigest) hkey⟩

end SlotUpdate.Payload
