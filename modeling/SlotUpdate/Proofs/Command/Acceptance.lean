import Mathlib.Data.List.Forall2
import SlotUpdate.Command.Payload
import SlotUpdate.Proofs.Payload.Checks
import SlotUpdate.Proofs.Plan.Target
import SlotUpdate.Proofs.Text.Written
import SlotUpdate.Proofs.Verifier.RawSignatures

/-!
# Two commands on the same payload

The command that verifies a payload and the one that runs its programs read the same inputs and make
the same checks, each in its own order. `Accepts` says which these are: the properties are well
formed, the payload has metadata, the keys can be trusted, and the digest, if the properties have
one, and the signature fit.

Both commands are shown to answer by `Accepts` (`buildPlan_eq_ok_iff`, `verifyPayload_eq_ok_iff`),
and a plan is made of nothing else. The size of the metadata is the one property that only the
command for verifying compares, so that a plan is made also where the size is another one.
-/

namespace SlotUpdate.Command

/-! ## Reports -/

namespace Report

variable {α β : Type}

/-- Commands one after the other can be grouped in any way. -/
instance : LawfulMonad Report :=
  LawfulMonad.mk' Report
    (by
      rintro α ⟨_ | a, printed, log⟩
      · rfl
      · show (⟨.ok a, printed ++ [], log ++ []⟩ : Report α) = _
        rw [List.append_nil, List.append_nil])
    (fun _ _ => rfl)
    (by
      rintro α β γ ⟨_ | a, printed, log⟩ f g
      · rfl
      · show Report.bind ⟨(f a).result, printed ++ (f a).printed, log ++ (f a).log⟩ g =
          ⟨((f a).bind g).result, printed ++ ((f a).bind g).printed, log ++ ((f a).bind g).log⟩
        rcases f a with ⟨_ | b, printed', log'⟩
        · rfl
        · simp only [Report.bind, List.append_assoc])

/-- After a command that has a result the next one goes on with it. -/
theorem bind_result_of_ok {r : Report α} {a : α} (h : r.result = .ok a) (f : α → Report β) :
    (r >>= f).result = (f a).result := by
  show (r.bind f).result = _
  unfold Report.bind
  rw [h]

/-- A command for each element of a list has results if each has one. -/
theorem mapM_result_eq_ok {f : α → Report β} {xs : List α} {ys : List β} :
    (xs.mapM f).result = .ok ys ↔ List.Forall₂ (fun x y => (f x).result = .ok y) xs ys := by
  induction xs generalizing ys with
  | nil =>
    rw [List.mapM_nil, List.forall₂_nil_left_iff]
    constructor
    · rintro ⟨⟩
      rfl
    · rintro rfl
      rfl
  | cons x xs ih =>
    rw [List.mapM_cons, bind_result_eq_ok, List.forall₂_cons_left_iff]
    constructor
    · rintro ⟨y, hy, h⟩
      obtain ⟨ys', hys, ⟨⟩⟩ := bind_result_eq_ok.1 h
      exact ⟨y, ys', hy, ih.1 hys, rfl⟩
    · rintro ⟨y, ys', hy, hys, rfl⟩
      exact ⟨y, hy, bind_result_eq_ok.2 ⟨ys', ih.2 hys, rfl⟩⟩

end Report

/-! ## Keys -/

/-- The key in the certificate of a file. -/
def certificateKey (files : FileTree) (path : Path) : Except SignatureError Rsa.PublicKey :=
  readKeyFile files path >>= Keys.loadCertificate

/-- The key in a public key file. -/
def publicKey (files : FileTree) (path : Path) : Except SignatureError Rsa.PublicKey :=
  readKeyFile files path >>= Keys.loadPublicKey path.text

/-- A verifier trusts exactly the keys of the files, in order, the certificates first. -/
def Trusts (files : FileTree) (keys : KeyFiles) (v : Verifier) : Prop :=
  ∃ fromCertificates fromFiles,
    List.Forall₂ (fun path key => certificateKey files path = .ok key) keys.certificates
      fromCertificates ∧
    List.Forall₂ (fun path key => publicKey files path = .ok key) keys.publicKeys fromFiles ∧
    Verifier.ofKeys (fromCertificates ++ fromFiles) = .ok v

variable {files : FileTree} {keys : KeyFiles} {path : Path} {named : Bool}

/-- The key of a certificate does not depend on how failures are told. -/
theorem loadCertificate_eq_ok {key : Rsa.PublicKey} :
    (loadCertificate files named path).result = .ok key ↔ certificateKey files path = .ok key := by
  have hnamed (info : Keys.PublicKeyInfo) (text : String) :
      (if named then (Report.take ofSignature (Keys.toRsa info) []).context text
        else Report.take ofSignature (Keys.toRsa info) []).result = .ok key ↔
        Keys.toRsa info = .ok key := by
    cases named with
    | true => exact Report.take_context_result_eq_ok
    | false => exact mapError_eq_ok
  -- The file is read and taken apart in one step there, and in two steps here.
  unfold loadCertificate certificateKey Keys.loadCertificate
  rw [Report.bind_result_eq_ok, ← bind_assoc, bind_eq_ok]
  refine exists_congr fun info => and_congr Report.take_context_result_eq_ok ?_
  exact hnamed info _

/-- The key of a public key file is what the file holds. -/
theorem loadPublicKey_eq_ok {key : Rsa.PublicKey} :
    (loadPublicKey files path).result = .ok key ↔ publicKey files path = .ok key :=
  Report.take_context_result_eq_ok

/-- The verifier that is loaded trusts the keys of the files. -/
theorem loadVerifier_eq_ok {v : Verifier} :
    (loadVerifier files keys named).result = .ok v ↔ Trusts files keys v := by
  unfold loadVerifier Trusts
  rw [Report.bind_result_eq_ok]
  refine exists_congr fun fromCertificates => ?_
  rw [Report.bind_result_eq_ok, Report.mapM_result_eq_ok, ← exists_and_left]
  refine exists_congr fun fromFiles => ?_
  rw [Report.mapM_result_eq_ok, Report.take_context_result_eq_ok]
  simp only [loadCertificate_eq_ok, loadPublicKey_eq_ok]

/-! ## Payloads -/

/-- A file that can be read is there. -/
theorem stat_of_read {bytes : Bytes} (h : files.read path = .ok bytes) :
    ∃ entry, files.stat path = .ok entry := by
  obtain ⟨entry, hstat, -⟩ := bind_eq_ok.1 h
  exact ⟨entry, hstat⟩

/-- A payload is opened if it is there. Reading it is put off. -/
theorem openPayload_eq_ok {what : String} {source : Except SystemError Bytes} :
    (openPayload files path what).result = .ok source ↔
      (∃ entry, files.stat path = .ok entry) ∧ files.read path = source := by
  unfold openPayload
  rw [Report.bind_result_eq_ok, ← exists_and_right]
  refine exists_congr fun entry => and_congr Report.take_context_result_eq_ok ?_
  exact ⟨Except.ok.inj, congrArg _⟩

/-- Opening a payload and reading its metadata succeeds if the file has metadata. -/
theorem openPayload_loadMetadata_eq_ok {what : String} {header : Payload.Header} {data : Bytes} :
    (∃ source, (openPayload files path what).result = .ok source ∧
        (loadMetadata source path).result = .ok (header, data)) ↔
      ∃ bytes, files.read path = .ok bytes ∧
        Payload.readMetadata bytes bytes.length = .ok (header, data) := by
  constructor
  · rintro ⟨source, hopen, hload⟩
    obtain ⟨-, hread⟩ := openPayload_eq_ok.1 hopen
    have hmetadata := Report.take_context_result_eq_ok.1 hload
    cases source with
    | error e => cases hmetadata
    | ok bytes => exact ⟨bytes, hread, hmetadata⟩
  · rintro ⟨bytes, hread, hmetadata⟩
    exact ⟨.ok bytes, openPayload_eq_ok.2 ⟨stat_of_read hread, hread⟩,
      Report.take_context_result_eq_ok.2 hmetadata⟩

/-! ## Accepted metadata -/

/-- What is given to have the metadata of a payload checked. -/
structure MetadataInputs where
  /-- The payload. -/
  payload : Path
  /-- The trusted keys. -/
  keys : KeyFiles
  /-- The properties of the payload. -/
  properties : Option Path
  /-- The signature of the metadata, empty if none is given. -/
  signature : String
  deriving Repr, DecidableEq

/-- What the command for running programs is given. -/
abbrev PostinstallOptions.inputs (o : PostinstallOptions) : MetadataInputs :=
  ⟨o.payload, o.keys, o.properties, o.signature.getD ""⟩

/-- What the command for verifying is given, with the signature that was loaded. -/
abbrev VerifyOptions.inputs (v : VerifyOptions) (signature : String) : MetadataInputs :=
  ⟨v.input, v.keys, v.properties, signature⟩

/-- The metadata of a payload is accepted: a plan has the properties, the payload has the header,
and the manifest is signed by a trusted key. -/
structure Accepts (files : FileTree) (i : MetadataInputs) (start : InstallPlan)
    (header : Payload.Header) (manifest : Manifest) : Prop where
  /-- The properties are well formed. -/
  properties : (loadPropertiesOf files i.properties).result = .ok start
  /-- The payload has metadata, and a verifier that trusts the keys accepts its signature, after
  its digest if the properties have one. -/
  verifies : ∃ bytes data v, files.read i.payload = .ok bytes ∧
    Payload.readMetadata bytes bytes.length = .ok (header, data) ∧ Trusts files i.keys v ∧
    Payload.verifyAndParse header data i.signature start.metadataHash v = .ok manifest

/-- The metadata has the size that the properties say, if they say one. -/
def HasStatedSize (start : InstallPlan) (header : Payload.Header) : Prop :=
  ∀ n, start.metadataSize = some n → n.toNat = header.metadataSize

/-- The plan that is made of accepted metadata. -/
def planOf (o : PostinstallOptions) (slots : HostSlots) (files : FileTree) (start : InstallPlan)
    (manifest : Manifest) : Report InstallPlan :=
  match o.partition with
  | some partition => triggeredPlan slots files manifest partition (sourceOf o)
  | none => updatePlan start slots files manifest o

section Commands

variable {o : PostinstallOptions} {v : VerifyOptions} {slots : HostSlots} {start : InstallPlan}
  {header : Payload.Header} {manifest : Manifest}

/-- What a command loads is accepted if it is what the inputs hold, however failures are told. -/
theorem accepts_iff_loaded {i : MetadataInputs} (named : Bool) (what : String) :
    Accepts files i start header manifest ↔ ∃ verifier source data,
      (loadPropertiesOf files i.properties).result = .ok start ∧
        (loadVerifier files i.keys named).result = .ok verifier ∧
        (openPayload files i.payload what).result = .ok source ∧
        (loadMetadata source i.payload).result = .ok (header, data) ∧
        Payload.verifyAndParse header data i.signature start.metadataHash verifier =
          .ok manifest := by
  constructor
  · intro h
    obtain ⟨bytes, data, verifier, hread, hmetadata, htrusts, hverifies⟩ := h.verifies
    obtain ⟨source, hopen, hload⟩ := openPayload_loadMetadata_eq_ok.2 ⟨bytes, hread, hmetadata⟩
    exact ⟨verifier, source, data, h.properties, loadVerifier_eq_ok.2 htrusts, hopen, hload,
      hverifies⟩
  · rintro ⟨verifier, source, data, hproperties, hverifier, hopen, hload, hverifies⟩
    obtain ⟨bytes, hread, hmetadata⟩ := openPayload_loadMetadata_eq_ok.1 ⟨source, hopen, hload⟩
    exact ⟨hproperties, bytes, data, verifier, hread, hmetadata, loadVerifier_eq_ok.1 hverifier,
      hverifies⟩

/-- A plan is made if the metadata is accepted, and of nothing else. -/
theorem buildPlan_eq_ok_iff {plan : InstallPlan} :
    (buildPlan o slots files).result = .ok plan ↔ ∃ start header manifest,
      Accepts files o.inputs start header manifest ∧
        (planOf o slots files start manifest).result = .ok plan := by
  unfold buildPlan
  constructor
  · -- What is loaded and checked is accepted, and what is left makes the plan.
    intro h
    obtain ⟨start, hproperties, h⟩ := Report.bind_result_eq_ok.1 h
    obtain ⟨verifier, hverifier, h⟩ := Report.bind_result_eq_ok.1 h
    obtain ⟨source, hopen, h⟩ := Report.bind_result_eq_ok.1 h
    obtain ⟨⟨header, data⟩, hload, h⟩ := Report.bind_result_eq_ok.1 h
    obtain ⟨manifest, hcheck, h⟩ := Report.bind_result_eq_ok.1 h
    have hverifies := Report.take_context_result_eq_ok.1 hcheck
    have haccepts : Accepts files o.inputs start header manifest :=
      (accepts_iff_loaded false _).2 ⟨verifier, source, data, hproperties, hverifier, hopen, hload,
        hverifies⟩
    exact ⟨start, header, manifest, haccepts, h⟩
  · rintro ⟨start, header, manifest, haccepts, h⟩
    obtain ⟨verifier, source, data, hproperties, hverifier, hopen, hload, hverifies⟩ :=
      (accepts_iff_loaded false "Failed to open payload: ").1 haccepts
    rw [Report.bind_result_of_ok hproperties, Report.bind_result_of_ok hverifier,
      Report.bind_result_of_ok hopen, Report.bind_result_of_ok hload]
    exact Report.bind_result_eq_ok.2
      ⟨manifest, Report.take_context_result_eq_ok.2 hverifies, h⟩

/-- Metadata of the stated size passes the comparison. -/
theorem checkSize_eq_ok :
    (checkSize start.metadataSize header).result = .ok () ↔ HasStatedSize start header := by
  unfold checkSize HasStatedSize
  cases start.metadataSize with
  | none => exact iff_of_true rfl nofun
  | some n =>
    dsimp only
    constructor
    · rintro h _ ⟨⟩
      by_contra hsize
      rw [if_neg hsize] at h
      cases h
    · intro h
      rw [if_pos (h n rfl)]
      rfl

/-- What the command for verifying says of metadata that was read. -/
def verdict (start : InstallPlan) (header : Payload.Header) (data : Bytes) (signature : String)
    (verifier : Verifier) (path : Path) : Report Unit := do
  checkSize start.metadataSize header
  if start.metadataHash.isNone then
    Report.warning "No expected metadata hash. Only the signature will be checked."
  let manifest ← checkMetadata header data signature start.metadataHash verifier path
  Report.status s!"Payload metadata is valid ({manifest.partitions.length} partitions)"

/-- The verdict is that the sizes agree and that the metadata is accepted. -/
theorem verdict_eq_ok {data : Bytes} {signature : String} {verifier : Verifier} :
    (verdict start header data signature verifier path).result = .ok () ↔
      HasStatedSize start header ∧
        ∃ manifest, Payload.verifyAndParse header data signature start.metadataHash verifier =
          .ok manifest := by
  have hchecked :
      (checkMetadata header data signature start.metadataHash verifier path >>= fun manifest =>
        Report.status
          s!"Payload metadata is valid ({manifest.partitions.length} partitions)").result = .ok () ↔
        ∃ manifest, Payload.verifyAndParse header data signature start.metadataHash verifier =
          .ok manifest := by
    rw [Report.bind_result_eq_ok]
    exact exists_congr fun manifest => (and_iff_left rfl).trans Report.take_context_result_eq_ok
  -- A warning that no digest is expected changes no result.
  have hwarned (p : Prop) [Decidable p] (text : String) (rest : Unit → Report Unit) :
      (if p then Report.warning text >>= rest else rest ()).result = (rest ()).result := by
    split <;> rfl
  unfold verdict
  rw [Report.bind_result_eq_ok, ← checkSize_eq_ok, ← hchecked]
  constructor
  · rintro ⟨_, hsize, h⟩
    exact ⟨hsize, (hwarned _ _ _).symm.trans h⟩
  · rintro ⟨hsize, h⟩
    exact ⟨(), hsize, (hwarned _ _ _).trans h⟩

/-- The command for verifying loads its inputs and gives its verdict. -/
theorem verifyPayload_eq_verdict : verifyPayload files v = (do
    let verifier ← loadVerifier files v.keys true
    let start ← loadPropertiesOf files v.properties
    let signature ← loadSignature files v.signature
    let source ← openPayload files v.input "Failed to open payload for reading: "
    let (header, data) ← loadMetadata source v.input
    verdict start header data signature verifier v.input) :=
  rfl

/-- For accepted metadata the verdict is that of the sizes. -/
theorem verifyPayload_of_accepts {signature : String}
    (hsignature : (loadSignature files v.signature).result = .ok signature)
    (haccepts : Accepts files (v.inputs signature) start header manifest) :
    ∃ data verifier,
      Payload.verifyAndParse header data signature start.metadataHash verifier = .ok manifest ∧
        (verifyPayload files v).result =
          (verdict start header data signature verifier v.input).result := by
  obtain ⟨verifier, source, data, hproperties, hverifier, hopen, hload, hverifies⟩ :=
    (accepts_iff_loaded true "Failed to open payload for reading: ").1 haccepts
  refine ⟨data, verifier, hverifies, ?_⟩
  rw [verifyPayload_eq_verdict, Report.bind_result_of_ok hverifier,
    Report.bind_result_of_ok hproperties, Report.bind_result_of_ok hsignature,
    Report.bind_result_of_ok hopen, Report.bind_result_of_ok hload]

/-- Metadata is verified if it is accepted and has the stated size. -/
theorem verifyPayload_eq_ok_iff :
    (verifyPayload files v).result = .ok () ↔ ∃ signature start header manifest,
      (loadSignature files v.signature).result = .ok signature ∧
        Accepts files (v.inputs signature) start header manifest ∧ HasStatedSize start header := by
  constructor
  · -- The inputs are loaded in another order than for a plan, and then the verdict is given.
    intro h
    rw [verifyPayload_eq_verdict] at h
    obtain ⟨verifier, hverifier, h⟩ := Report.bind_result_eq_ok.1 h
    obtain ⟨start, hproperties, h⟩ := Report.bind_result_eq_ok.1 h
    obtain ⟨signature, hsignature, h⟩ := Report.bind_result_eq_ok.1 h
    obtain ⟨source, hopen, h⟩ := Report.bind_result_eq_ok.1 h
    obtain ⟨⟨header, data⟩, hload, h⟩ := Report.bind_result_eq_ok.1 h
    obtain ⟨hsize, manifest, hverifies⟩ := verdict_eq_ok.1 h
    have haccepts : Accepts files (v.inputs signature) start header manifest :=
      (accepts_iff_loaded true _).2 ⟨verifier, source, data, hproperties, hverifier, hopen, hload,
        hverifies⟩
    exact ⟨signature, start, header, manifest, hsignature, haccepts, hsize⟩
  · rintro ⟨signature, start, header, manifest, hsignature, haccepts, hsize⟩
    obtain ⟨data, verifier, hverifies, hverdict⟩ := verifyPayload_of_accepts hsignature haccepts
    rw [hverdict]
    exact verdict_eq_ok.2 ⟨hsize, manifest, hverifies⟩

/-- Accepted metadata of another size than stated is refused for that alone. -/
theorem verifyPayload_of_other_size {signature : String} {n : UInt64}
    (hsignature : (loadSignature files v.signature).result = .ok signature)
    (haccepts : Accepts files (v.inputs signature) start header manifest)
    (hstated : start.metadataSize = some n) (hother : n.toNat ≠ header.metadataSize) :
    (verifyPayload files v).result = .error (.failed
      s!"Metadata size mismatch: expected {n.toNat}, actual {header.metadataSize}" []) := by
  obtain ⟨data, verifier, -, hverdict⟩ := verifyPayload_of_accepts hsignature haccepts
  rw [hverdict]
  unfold verdict checkSize
  rw [hstated]
  dsimp only
  rw [if_neg hother]
  rfl

/-- Nothing runs, and no file changes, unless the metadata is accepted. -/
theorem postinstall_of_not_accepted
    (h : ∀ start header manifest, ¬Accepts files o.inputs start header manifest) (config : Config) :
    ∃ e, (postinstall o config files).1.result = .error e ∧
      (postinstall o config files).2 = files := by
  unfold postinstall
  dsimp only
  split
  · rename_i e _
    exact ⟨e, rfl, rfl⟩
  · -- A plan that is prepared has been made of accepted metadata.
    rename_i plan hprepared
    obtain ⟨plan', hbuilt, -⟩ := Report.bind_result_eq_ok.1 hprepared
    obtain ⟨start, header, manifest, haccepts, -⟩ := buildPlan_eq_ok_iff.1 hbuilt
    exact absurd haccepts (h start header manifest)

end Commands

/-! ## A sample -/

open SlotUpdate.Payload (sampleHeader sampleManifest sampleSigned sampleContainer sampleText
  sampleKey sampleKeyFile sampleVerifier)

/-- Files with the sample key and payload, its device, and two files of properties, of which one
states the size of the metadata and the other one another size. -/
def sampleFiles : FileTree where
  entries :=
    [(["key.pem"], .file sampleKeyFile),
     (["payload.bin"], .file (sampleSigned ++ sampleContainer)), (["systäm_b"], .device),
     (["stated.txt"], .file (Utf8.encode "METADATA_SIZE=59")),
     (["misstated.txt"], .file (Utf8.encode "METADATA_SIZE=1"))]
  rooted := []

/-- A host whose devices are files beside the payload. -/
def sampleSlots : HostSlots := .ofConfig { DeviceConfig.default with deviceDir := ⟨"."⟩ }

/-- The options to run the programs of the sample payload. -/
def sampleOptions (properties : Path) : PostinstallOptions :=
  ⟨⟨"payload.bin"⟩, ⟨[], [⟨"key.pem"⟩]⟩, some sampleText, some properties, none, none, false,
    true⟩

/-- The options to verify the sample payload. -/
def sampleVerify (properties : Path) : VerifyOptions :=
  ⟨⟨"payload.bin"⟩, ⟨[], [⟨"key.pem"⟩]⟩, some (.text sampleText), some properties⟩

/-- The sample key is read from its file, wherever that is. -/
theorem publicKey_sample {files : FileTree} {path : Path}
    (hread : readKeyFile files path = .ok sampleKeyFile) :
    publicKey files path = .ok sampleKey.publicKey := by
  -- The file is a text, since all of its bytes are below 128.
  have htext := Utf8.decode?_encode (String.ofList (sampleKeyFile.map fun c => Char.ofNat c.toNat))
  rw [Utf8.encode_ofList_ascii (by decide +kernel)] at htext
  have hkey : Keys.readPublicKey sampleKeyFile = .ok sampleKey.publicKey := by
    apply eq_ok_of_toOption
    decide +kernel
  rw [publicKey, hread, ok_bind, Keys.loadPublicKey, htext]
  exact hkey

/-- The sample verifier trusts the sample key. -/
theorem trusts_sample {files : FileTree} {path : Path}
    (hread : readKeyFile files path = .ok sampleKeyFile) :
    Trusts files ⟨[], [path]⟩ sampleVerifier := by
  refine ⟨[], [sampleKey.publicKey], .nil, .cons (publicKey_sample hread) .nil, ?_⟩
  exact Verifier.ofKeys_eq_ok_iff.2
    ⟨rfl, sampleVerifier.keys_ne_nil, sampleVerifier.size_le⟩

/-- The sample payload is read and verified where no digest is expected. -/
theorem verifyAndParse_sample :
    Payload.readMetadata (sampleSigned ++ sampleContainer)
        (sampleSigned ++ sampleContainer).length =
      .ok (sampleHeader, sampleSigned ++ sampleContainer) ∧
    Payload.verifyAndParse sampleHeader (sampleSigned ++ sampleContainer) sampleText none
        sampleVerifier = .ok sampleManifest := by
  have hlen : sampleHeader.totalSize ≤ (sampleSigned ++ sampleContainer).length := by
    decide +kernel
  have hsignature : sampleHeader.checkSignature (sampleSigned ++ sampleContainer) sampleText
      sampleVerifier = .ok () := by
    rw [Payload.checkSignature_of_text_ok sampleVerifier hlen (by decide)
      Payload.decode_sampleText, Payload.signedRange_samplePayload, Payload.checkOutside,
      Payload.checkRaw_sampleSignature, mapError_ok]
  have hmanifest : sampleHeader.manifest (sampleSigned ++ sampleContainer) =
      .ok sampleManifest := by
    apply eq_ok_of_toOption
    decide +kernel
  constructor
  · apply eq_ok_of_toOption
    decide +kernel
  · rw [Payload.verifyAndParse_eq, Payload.Header.checkExpected, ok_bind, hsignature, ok_bind,
      hmanifest]

/-- The metadata of the sample payload is accepted with properties that state no digest. -/
theorem accepts_sample {properties : Path} {start : InstallPlan}
    (hproperties : (loadPropertiesOf sampleFiles (some properties)).result = .ok start)
    (hdigest : start.metadataHash = none) :
    Accepts sampleFiles (sampleOptions properties).inputs start sampleHeader sampleManifest := by
  have hread : sampleFiles.read ⟨"payload.bin"⟩ = .ok (sampleSigned ++ sampleContainer) := rfl
  obtain ⟨hmetadata, hverifies⟩ := verifyAndParse_sample
  refine ⟨hproperties, _, _, sampleVerifier, hread, hmetadata, trusts_sample rfl, ?_⟩
  rw [hdigest]
  exact hverifies

/-- The properties of the sample payload. -/
theorem loadProperties_sample :
    (loadPropertiesOf sampleFiles (some ⟨"stated.txt"⟩)).result =
        .ok { InstallPlan.empty with metadataSize := some 59 } ∧
      (loadPropertiesOf sampleFiles (some ⟨"misstated.txt"⟩)).result =
        .ok { InstallPlan.empty with metadataSize := some 1 } := by
  constructor
  · apply eq_ok_of_toOption
    decide +kernel
  · apply eq_ok_of_toOption
    decide +kernel

/-! ## Agreement -/

/-- Both commands are given the same. -/
def SameInputs (files : FileTree) (o : PostinstallOptions) (v : VerifyOptions) : Prop :=
  ∃ signature, (loadSignature files v.signature).result = .ok signature ∧
    v.inputs signature = o.inputs

/-- The sample options give the same to both commands. -/
theorem sameInputs_sample (properties : Path) :
    SameInputs sampleFiles (sampleOptions properties) (sampleVerify properties) :=
  ⟨sampleText, rfl, rfl⟩

/-- The command for running programs agrees with the one for verifying, but for the size. -/
structure AgreesButForSize (files : FileTree) (o : PostinstallOptions) (v : VerifyOptions) :
    Prop where
  /-- A plan is made of accepted metadata, whatever its size. -/
  built : ∀ slots plan, (buildPlan o slots files).result = .ok plan ↔ ∃ start header manifest,
    Accepts files o.inputs start header manifest ∧
      (planOf o slots files start manifest).result = .ok plan
  /-- Metadata is verified if it is accepted and has the stated size. -/
  verified : (verifyPayload files v).result = .ok () ↔ ∃ start header manifest,
    Accepts files o.inputs start header manifest ∧ HasStatedSize start header
  /-- Another size is all that the command for verifying can say against accepted metadata. -/
  missized : ∀ start header manifest, Accepts files o.inputs start header manifest →
    ∀ n, start.metadataSize = some n → n.toNat ≠ header.metadataSize →
      (verifyPayload files v).result = .error (.failed
        s!"Metadata size mismatch: expected {n.toNat}, actual {header.metadataSize}" [])
  /-- Nothing runs, and no file changes, unless the metadata is accepted. -/
  guarded : (∀ start header manifest, ¬Accepts files o.inputs start header manifest) →
    ∀ config, ∃ e, (postinstall o config files).1.result = .error e ∧
      (postinstall o config files).2 = files

/-- Given the same, both commands make the same checks of the digest and the signature, and the one
for verifying compares the size as well. -/
theorem agrees_but_for_size (files : FileTree) (o : PostinstallOptions) (v : VerifyOptions)
    (hsame : SameInputs files o v) : AgreesButForSize files o v := by
  obtain ⟨signature, hsignature, hinputs⟩ := hsame
  refine ⟨fun _ _ => buildPlan_eq_ok_iff, ?verified, ?missized, postinstall_of_not_accepted⟩
  case verified =>
    rw [verifyPayload_eq_ok_iff]
    constructor
    · rintro ⟨signature', start, header, manifest, hsignature', haccepts, hsize⟩
      obtain rfl := Except.ok.inj (hsignature.symm.trans hsignature')
      rw [hinputs] at haccepts
      exact ⟨start, header, manifest, haccepts, hsize⟩
    · rintro ⟨start, header, manifest, haccepts, hsize⟩
      rw [← hinputs] at haccepts
      exact ⟨signature, start, header, manifest, hsignature, haccepts, hsize⟩
  case missized =>
    intro start header manifest haccepts n hstated hother
    rw [← hinputs] at haccepts
    exact verifyPayload_of_other_size hsignature haccepts hstated hother

/-- The sample payload is verified where the size of its metadata is stated. -/
theorem stated_size_verified :
    SameInputs sampleFiles (sampleOptions ⟨"stated.txt"⟩) (sampleVerify ⟨"stated.txt"⟩) ∧
      (verifyPayload sampleFiles (sampleVerify ⟨"stated.txt"⟩)).result = .ok () := by
  have hsame := sameInputs_sample ⟨"stated.txt"⟩
  have hagrees := agrees_but_for_size sampleFiles (sampleOptions ⟨"stated.txt"⟩)
    (sampleVerify ⟨"stated.txt"⟩) hsame
  have haccepts := accepts_sample loadProperties_sample.1 rfl
  refine ⟨hsame, hagrees.verified.2 ⟨_, sampleHeader, sampleManifest, haccepts, ?_⟩⟩
  rintro _ ⟨⟩
  rfl

/-- Where another size is stated, a plan is made of the sample payload, but it is not verified. -/
theorem misstated_size_accepted :
    SameInputs sampleFiles (sampleOptions ⟨"misstated.txt"⟩) (sampleVerify ⟨"misstated.txt"⟩) ∧
      (∃ plan, (buildPlan (sampleOptions ⟨"misstated.txt"⟩) sampleSlots sampleFiles).result =
        .ok plan) ∧
      (verifyPayload sampleFiles (sampleVerify ⟨"misstated.txt"⟩)).result =
        .error (.failed "Metadata size mismatch: expected 1, actual 59" []) := by
  have haccepts := accepts_sample loadProperties_sample.2 rfl
  refine ⟨sameInputs_sample _, ?built, ?refused⟩
  case built =>
    let start : InstallPlan := { InstallPlan.empty with metadataSize := some 1 }
    have hsome : (planOf (sampleOptions ⟨"misstated.txt"⟩) sampleSlots sampleFiles start
        sampleManifest).result.toOption.isSome = true := by
      decide +kernel
    cases hplan : (planOf (sampleOptions ⟨"misstated.txt"⟩) sampleSlots sampleFiles start
        sampleManifest).result with
    | error e =>
      rw [hplan] at hsome
      cases hsome
    | ok plan => exact ⟨plan, buildPlan_eq_ok_iff.2 ⟨_, _, _, haccepts, hplan⟩⟩
  case refused =>
    have hsignature : (loadSignature sampleFiles (some (.text sampleText))).result =
        .ok sampleText := rfl
    exact verifyPayload_of_other_size (v := sampleVerify ⟨"misstated.txt"⟩) hsignature haccepts rfl
      (by decide)

end SlotUpdate.Command
