import SlotUpdate.Proofs.Payload.Source
import SlotUpdate.Proofs.Verifier.Acceptance

/-!
# What metadata has to pass

Metadata has to pass seven checks. `Passes` says what each of them asks, and `Reports` which failure
it reports. The manifest is answered if every check passes, and otherwise the failure of the first
check that does not is reported (`first_failing_check_reported`).

The proof follows the three steps of `verifyAndParse`, each of which has some of the checks. A step
succeeds if its checks pass and fails as the first of them that does not (`checkExpected_decides`,
`checkSignature_decides`, `manifest_eq_error_iff`), and the checks of two steps that follow each
other are those of the whole (`Decides.andThen_eq_error_iff`).
-/

namespace SlotUpdate.Payload

/-- The checks that metadata has to pass. -/
inductive Check where
  /-- The bytes that the expected digest is over are there. -/
  | size
  /-- The signed range has the expected digest. -/
  | digest
  /-- The payload does not end before its container does. -/
  | room
  /-- The text is base64. -/
  | text
  /-- There is a signature. -/
  | presence
  /-- The signature is accepted. -/
  | signature
  /-- The manifest is well formed. -/
  | manifest
  deriving Repr, DecidableEq

/-- The name of the failure that a check reports. -/
def Check.failure : Check → String
  | .size => "InvalidMetadataSize"
  | .digest => "MetadataHashMismatch"
  | .room => "PayloadTooSmall"
  | .text => "SignatureBase64"
  | .presence => "MissingSignature"
  | .signature => "SignatureMismatch"
  | .manifest => "ManifestDecode"

/-- No check reports that a digest cannot be used, or that a caller made a mistake. -/
theorem Check.failure_ne (c : Check) : c.failure ≠ "HashVerification" ∧ c.failure ≠ "panic" := by
  cases c <;> decide

/-- What the verifier answers to the signature that counts: to the container if the text is empty,
else to the bytes that the text is the written form of. -/
def Verdict (h : Header) (data : Bytes) (text : String) (v : Verifier)
    (result : Except SignatureError Unit) : Prop :=
  (text = "" ∧ v.checkContainer (h.container data) (sha256 (h.signedRange data)) = result) ∨
    (text ≠ "" ∧ ∃ raw, Utf8.encode text = Base64.encode raw ∧
      v.checkRaw raw (sha256 (h.signedRange data)) = result)

/-- What a check asks. -/
def Passes (h : Header) (data : Bytes) (text : String) (expected : Option Bytes) (v : Verifier) :
    Check → Prop
  | .size => expected ≠ none → h.metadataSize ≤ data.length
  | .digest => ∀ digest, expected = some digest → sha256 (h.signedRange data) = digest
  | .room => h.totalSize ≤ data.length
  | .text => text ≠ "" → ∃ raw, Utf8.encode text = Base64.encode raw
  | .presence => text = "" → h.container data ≠ []
  | .signature => Verdict h data text v (.ok ())
  | .manifest => ∃ m, Manifest.decode ((h.signedRange data).drop headerSize) = .ok m

/-- What a check reports if it does not pass. -/
def Reports (h : Header) (data : Bytes) (text : String) (expected : Option Bytes) (v : Verifier) :
    Check → PayloadError → Prop
  | .size, e => e = .invalidMetadataSize h.metadataSize
  | .digest, e =>
    ∃ digest, expected = some digest ∧
      e = .metadataHashMismatch digest (sha256 (h.signedRange data))
  | .room, e => e = .tooSmall h.totalSize data.length
  | .text, e =>
    ∃ cause, Base64.decode (Utf8.encode text) = .error cause ∧ e = .signatureBase64 text cause
  | .presence, e => e = .missingSignature
  | .signature, e =>
    ∃ cause, Verdict h data text v (.error cause) ∧
      e = .signatureMismatch cause (sha256 (h.signedRange data))
  | .manifest, e =>
    ∃ cause, Manifest.decode ((h.signedRange data).drop headerSize) = .error cause ∧
      e = .manifestDecode cause

/-- The failure is what the first of the checks that does not pass reports. -/
def Faults (h : Header) (data : Bytes) (text : String) (expected : Option Bytes) (v : Verifier) :
    List Check → PayloadError → Prop
  | [], _ => False
  | c :: rest, e =>
    (¬Passes h data text expected v c ∧ Reports h data text expected v c e) ∨
      (Passes h data text expected v c ∧ Faults h data text expected v rest e)

/-- A step succeeds if all of the checks pass, and fails as the first of them that does not. -/
def Decides (h : Header) (data : Bytes) (text : String) (expected : Option Bytes) (v : Verifier)
    (step : Except PayloadError Unit) (cs : List Check) : Prop :=
  (step = .ok () ↔ ∀ c ∈ cs, Passes h data text expected v c) ∧
    ∀ e, step = .error e ↔ Faults h data text expected v cs e

section

variable {h : Header} {data : Bytes} {text : String} {expected : Option Bytes} {v : Verifier}

/-- Checks fail as the first of them, or as those after them once they all pass. -/
theorem faults_append {cs cs' : List Check} {e : PayloadError} :
    Faults h data text expected v (cs ++ cs') e ↔
      Faults h data text expected v cs e ∨
        ((∀ c ∈ cs, Passes h data text expected v c) ∧ Faults h data text expected v cs' e) := by
  induction cs with
  | nil => simp [Faults]
  | cons c rest ih =>
    rw [List.cons_append, Faults, Faults, ih, List.forall_mem_cons, and_or_left, or_assoc,
      and_assoc]

/-- A step that decides is passed if its checks pass. -/
theorem Decides.andThen_eq_ok_iff {α : Type} {step : Except PayloadError Unit} {cs : List Check}
    (hstep : Decides h data text expected v step cs) {next : Except PayloadError α} {a : α} :
    (step >>= fun _ => next) = .ok a ↔
      (∀ c ∈ cs, Passes h data text expected v c) ∧ next = .ok a := by
  rw [bind_eq_ok, ← hstep.1]
  constructor
  · rintro ⟨⟨⟩, hok, hnext⟩
    exact ⟨hok, hnext⟩
  · rintro ⟨hok, hnext⟩
    exact ⟨(), hok, hnext⟩

/-- After a step that decides, the next one fails if the checks of the first one pass. -/
theorem Decides.andThen_eq_error_iff {α : Type} {step : Except PayloadError Unit}
    {cs cs' : List Check} (hstep : Decides h data text expected v step cs)
    {next : Except PayloadError α} {e : PayloadError}
    (hnext : (∀ c ∈ cs, Passes h data text expected v c) →
      (next = .error e ↔ Faults h data text expected v cs' e)) :
    (step >>= fun _ => next) = .error e ↔ Faults h data text expected v (cs ++ cs') e := by
  rw [bind_eq_error, faults_append, hstep.2]
  refine or_congr Iff.rfl ?_
  constructor
  · rintro ⟨⟨⟩, hok, herror⟩
    have hpass := hstep.1.1 hok
    exact ⟨hpass, (hnext hpass).1 herror⟩
  · rintro ⟨hpass, hfaults⟩
    exact ⟨(), hstep.1.2 hpass, (hnext hpass).2 hfaults⟩

/-! ## The digest -/

/-- The check of the digest, if one is expected. -/
def Header.checkExpected (h : Header) (data : Bytes) : Option Bytes → Except PayloadError Unit
  | some digest => h.checkHash data digest
  | none => .ok ()

/-- Metadata is verified in three steps. -/
theorem verifyAndParse_eq (h : Header) (data : Bytes) (text : String) (expected : Option Bytes)
    (v : Verifier) :
    verifyAndParse h data text expected v = h.checkExpected data expected >>= fun _ =>
      h.checkSignature data text v >>= fun _ => h.manifest data := by
  cases expected with
  | none => rfl
  | some digest => rfl

/-- The check of the digest reports that bytes are missing before that they have another digest. -/
theorem checkExpected_decides (text : String) (v : Verifier) :
    Decides h data text expected v (h.checkExpected data expected) [.size, .digest] := by
  cases expected with
  | none => simp [Decides, Faults, Passes, Header.checkExpected]
  | some digest =>
    unfold Header.checkExpected Header.checkHash
    dsimp only
    split_ifs with hshort hdigest
    · simp [Decides, Faults, Passes, Reports, Nat.not_le.2 hshort, @eq_comm _ _ (_ : PayloadError)]
    · simp [Decides, Faults, Passes, Header.signedRange, hdigest, Nat.le_of_not_lt hshort]
    · simp [Decides, Faults, Passes, Reports, Header.signedRange, hdigest, Nat.le_of_not_lt hshort,
        @eq_comm _ _ (_ : PayloadError)]

/-! ## The signature -/

/-- For the empty text the verdict is that on the container. -/
theorem verdict_of_empty {result : Except SignatureError Unit} :
    Verdict h data "" v result ↔
      v.checkContainer (h.container data) (sha256 (h.signedRange data)) = result := by
  simp [Verdict]

/-- For another text that is read the verdict is that on what it is read as. -/
theorem verdict_of_text {raw : Bytes} {result : Except SignatureError Unit} (htext : text ≠ "")
    (hraw : Base64.decode (Utf8.encode text) = .ok raw) :
    Verdict h data text v result ↔ v.checkRaw raw (sha256 (h.signedRange data)) = result := by
  simp [Verdict, htext, ← Base64.decode_eq_ok_iff, hraw]

/-- An answer of the verifier on a digest of the right size is passed on as a mismatch. -/
theorem mapError_refusal {digest : Bytes} {result : Except SignatureError Unit}
    (hlength : ∀ n, result ≠ .error (.invalidDigestLength n)) :
    result.mapError (refusal digest) = result.mapError (.signatureMismatch · digest) := by
  cases result with
  | ok u => rfl
  | error cause =>
    cases cause with
    | invalidDigestLength n => exact absurd rfl (hlength n)
    | _ => rfl

/-- With room for the container, base64 in the text and a signature, the step that passes on the
verdict decides. -/
theorem decides_of_verdict {result : Except SignatureError Unit}
    (hroom : Passes h data text expected v .room) (htext : Passes h data text expected v .text)
    (hpresence : Passes h data text expected v .presence)
    (hverdict : ∀ result', Verdict h data text v result' ↔ result = result')
    (hlength : ∀ n, result ≠ .error (.invalidDigestLength n)) :
    Decides h data text expected v (result.mapError (refusal (sha256 (h.signedRange data))))
      [.room, .text, .presence, .signature] := by
  have haccepted : Passes h data text expected v .signature ↔ result = .ok () := hverdict _
  rw [mapError_refusal hlength]
  constructor
  · simp only [mapError_eq_ok, List.forall_mem_cons, hroom, htext, hpresence, haccepted, true_and]
    simp
  · intro e
    simp only [mapError_eq_error, Faults, Reports, hroom, htext, hpresence, haccepted, hverdict]
    cases result with
    | ok u => simp
    | error cause => simp

/-- The check of the signature reports that bytes are missing, that the text is not base64, that
there is no signature, or that the verifier does not accept it, the first of these that is so. -/
theorem checkSignature_decides (expected : Option Bytes) :
    Decides h data text expected v (h.checkSignature data text v)
      [.room, .text, .presence, .signature] := by
  have hdigest : (sha256 (h.signedRange data)).length = digestSize := length_sha256 _
  by_cases hroom : h.totalSize ≤ data.length
  -- The text chooses the source, and with it what can be wrong before the verifier is asked.
  · by_cases htext : text = ""
    · subst htext
      rw [checkSignature_of_empty v hroom, checkEmbedded]
      split_ifs with hcontainer
      · simp [Decides, Faults, Passes, Reports, hroom, hcontainer, @eq_comm _ _ (_ : PayloadError)]
      · exact decides_of_verdict hroom (absurd rfl) (fun _ => hcontainer)
          (fun _ => verdict_of_empty) (Verifier.checkContainer_ne_invalidDigestLength hdigest)
    · cases hraw : Base64.decode (Utf8.encode text) with
      | error cause =>
        have hread : ¬∃ raw, Utf8.encode text = Base64.encode raw := by
          simp [← Base64.decode_eq_ok_iff, hraw]
        rw [checkSignature_of_text_error v hroom htext hraw]
        simp [Decides, Faults, Passes, Reports, hroom, htext, hread, hraw,
          @eq_comm _ _ (_ : PayloadError)]
      | ok raw =>
        rw [checkSignature_of_text_ok v hroom htext hraw, checkOutside]
        exact decides_of_verdict hroom (fun _ => ⟨raw, Base64.decode_eq_ok_iff.1 hraw⟩)
          (fun hempty => absurd hempty htext) (fun _ => verdict_of_text htext hraw)
          (Verifier.checkRaw_ne_invalidDigestLength hdigest)
  · rw [checkSignature_of_lt text v (Nat.lt_of_not_le hroom)]
    simp [Decides, Faults, Passes, Reports, hroom, @eq_comm _ _ (_ : PayloadError)]

/-! ## The manifest -/

/-- The manifest is what the end of the signed range is read as, if the payload does not end before
its container does. -/
theorem manifest_of_room (hroom : h.totalSize ≤ data.length) :
    h.manifest data =
      (Manifest.decode ((h.signedRange data).drop headerSize)).mapError
        PayloadError.manifestDecode := by
  have hbytes : h.manifestBytes data = .ok ((h.signedRange data).drop headerSize) :=
    if_pos (Nat.le_trans h.metadataSize_le_totalSize hroom)
  rw [Header.manifest, hbytes, ok_bind]
  cases Manifest.decode ((h.signedRange data).drop headerSize) with
  | ok m => rfl
  | error cause => rfl

/-- The manifest is answered if its bytes are well formed. -/
theorem manifest_eq_ok_iff {m : Manifest} (hroom : h.totalSize ≤ data.length) :
    h.manifest data = .ok m ↔ Manifest.decode ((h.signedRange data).drop headerSize) = .ok m := by
  rw [manifest_of_room hroom, mapError_eq_ok]

/-- What is wrong with the bytes of the manifest is reported. -/
theorem manifest_eq_error_iff {e : PayloadError} (hroom : h.totalSize ≤ data.length) :
    h.manifest data = .error e ↔ Faults h data text expected v [.manifest] e := by
  rw [manifest_of_room hroom, mapError_eq_error]
  cases hdecode : Manifest.decode ((h.signedRange data).drop headerSize) with
  | ok m => simp [Faults, Passes, hdecode]
  | error cause => simp [Faults, Passes, Reports, hdecode]

/-! ## The whole -/

/-- If the signed range is there, the digest that is expected is its digest. -/
theorem passes_digest_iff (hroom : h.totalSize ≤ data.length) :
    (∀ c ∈ [Check.size, .digest], Passes h data text expected v c) ↔
      expected = none ∨ expected = some (sha256 (h.signedRange data)) := by
  have hsize : h.metadataSize ≤ data.length := Nat.le_trans h.metadataSize_le_totalSize hroom
  rw [List.forall_mem_cons, List.forall_mem_singleton]
  constructor
  · rintro ⟨-, hdigest⟩
    cases expected with
    | none => exact .inl rfl
    | some digest => exact .inr (congrArg some (hdigest digest rfl).symm)
  · intro hexpected
    refine ⟨fun _ => hsize, fun digest hdigest => ?_⟩
    rcases hexpected with rfl | rfl
    · cases hdigest
    · exact Option.some.inj hdigest

/-- The signature that counts is a container that is not empty and accepted, or base64 for bytes
that are accepted. -/
theorem passes_signature_iff :
    (∀ c ∈ [Check.text, .presence, .signature], Passes h data text expected v c) ↔
      (text = "" ∧ h.container data ≠ [] ∧
        v.checkContainer (h.container data) (sha256 (h.signedRange data)) = .ok ()) ∨
      (text ≠ "" ∧ ∃ raw, Utf8.encode text = Base64.encode raw ∧
        v.checkRaw raw (sha256 (h.signedRange data)) = .ok ()) := by
  simp only [List.forall_mem_cons, List.not_mem_nil, false_imp_iff, implies_true, and_true]
  constructor
  · rintro ⟨-, hpresence, ⟨hempty, haccepted⟩ | hraw⟩
    · exact .inl ⟨hempty, hpresence hempty, haccepted⟩
    · exact .inr hraw
  · rintro (⟨hempty, hpresence, haccepted⟩ | ⟨htext, raw, hraw, haccepted⟩)
    · exact ⟨(absurd hempty ·), fun _ => hpresence, .inl ⟨hempty, haccepted⟩⟩
    · exact ⟨fun _ => ⟨raw, hraw⟩, (absurd · htext), .inr ⟨htext, raw, hraw, haccepted⟩⟩

/-- The manifest is answered if the digest is the expected one, the payload does not end before its
container does, the signature that counts is accepted, and the bytes of the manifest are well
formed. -/
theorem verifyAndParse_eq_ok_iff {m : Manifest} :
    verifyAndParse h data text expected v = .ok m ↔
      (expected = none ∨ expected = some (sha256 (h.signedRange data))) ∧
      h.totalSize ≤ data.length ∧
      ((text = "" ∧ h.container data ≠ [] ∧
          v.checkContainer (h.container data) (sha256 (h.signedRange data)) = .ok ()) ∨
        (text ≠ "" ∧ ∃ raw, Utf8.encode text = Base64.encode raw ∧
          v.checkRaw raw (sha256 (h.signedRange data)) = .ok ())) ∧
      Manifest.decode ((h.signedRange data).drop headerSize) = .ok m := by
  rw [verifyAndParse_eq, (checkExpected_decides text v).andThen_eq_ok_iff,
    (checkSignature_decides expected).andThen_eq_ok_iff]
  constructor
  · rintro ⟨hdigest, hpass, hmanifest⟩
    obtain ⟨hroom, hsignature⟩ := List.forall_mem_cons.1 hpass
    exact ⟨(passes_digest_iff hroom).1 hdigest, hroom, passes_signature_iff.1 hsignature,
      (manifest_eq_ok_iff hroom).1 hmanifest⟩
  · rintro ⟨hdigest, hroom, hsignature, hdecode⟩
    exact ⟨(passes_digest_iff hroom).2 hdigest,
      List.forall_mem_cons.2 ⟨hroom, passes_signature_iff.2 hsignature⟩,
      (manifest_eq_ok_iff hroom).2 hdecode⟩

/-- What is reported is the failure of the first check that does not pass. -/
theorem verifyAndParse_eq_error_iff {e : PayloadError} :
    verifyAndParse h data text expected v = .error e ↔
      Faults h data text expected v
        [.size, .digest, .room, .text, .presence, .signature, .manifest] e := by
  rw [verifyAndParse_eq]
  refine (checkExpected_decides text v).andThen_eq_error_iff fun _ => ?_
  refine (checkSignature_decides expected).andThen_eq_error_iff fun hpass => ?_
  exact manifest_eq_error_iff (hpass .room List.mem_cons_self)

/-- A failure has the name of the check that reports it. -/
theorem name_of_reports {c : Check} {e : PayloadError}
    (hreports : Reports h data text expected v c e) : e.name = c.failure := by
  cases c with
  | size | room | presence =>
    rw [hreports]
    rfl
  | digest | text | signature | manifest =>
    obtain ⟨-, -, rfl⟩ := hreports
    rfl

/-- Whatever is reported is reported by some check. -/
theorem exists_reports {cs : List Check} {e : PayloadError}
    (hfaults : Faults h data text expected v cs e) :
    ∃ c, Reports h data text expected v c e := by
  induction cs with
  | nil => cases hfaults
  | cons c rest ih =>
    rcases hfaults with ⟨-, hreports⟩ | ⟨-, hrest⟩
    · exact ⟨c, hreports⟩
    · exact ih hrest

/-- A failure that has the name of no check is not reported. -/
theorem verifyAndParse_ne_error {e : PayloadError} (hname : ∀ c : Check, e.name ≠ c.failure) :
    verifyAndParse h data text expected v ≠ .error e := by
  intro herror
  obtain ⟨c, hreports⟩ := exists_reports (verifyAndParse_eq_error_iff.1 herror)
  exact hname c (name_of_reports hreports)

/-- Metadata is accepted if it has the expected digest, is not cut off, has a signature that counts
and is accepted, and holds a manifest. Otherwise the failure of the first check that it does not
pass is reported. The digest can always be used, and the bytes of the manifest are always there when
they are asked for. -/
theorem first_failing_check_reported (h : Header) (data : Bytes) (text : String)
    (expected : Option Bytes) (v : Verifier) :
    (∀ m, verifyAndParse h data text expected v = .ok m ↔
      (expected = none ∨ expected = some (sha256 (data.take h.metadataSize))) ∧
      h.totalSize ≤ data.length ∧
      ((text = "" ∧ (data.take h.totalSize).drop h.metadataSize ≠ [] ∧
          v.checkContainer ((data.take h.totalSize).drop h.metadataSize)
            (sha256 (data.take h.metadataSize)) = .ok ()) ∨
        (text ≠ "" ∧ ∃ raw, Utf8.encode text = Base64.encode raw ∧
          v.checkRaw raw (sha256 (data.take h.metadataSize)) = .ok ())) ∧
      Manifest.decode ((data.take h.metadataSize).drop headerSize) = .ok m) ∧
    (∀ e, verifyAndParse h data text expected v = .error e ↔
      Faults h data text expected v
        [.size, .digest, .room, .text, .presence, .signature, .manifest] e) ∧
    (∀ cause, verifyAndParse h data text expected v ≠ .error (.hashVerification cause)) ∧
    ∀ length size,
      verifyAndParse h data text expected v ≠ .error (.manifestOutOfRange length size) := by
  refine ⟨fun m => verifyAndParse_eq_ok_iff, fun e => verifyAndParse_eq_error_iff, fun cause => ?_,
    fun length size => ?_⟩
  · exact verifyAndParse_ne_error fun c hname => c.failure_ne.1 hname.symm
  · exact verifyAndParse_ne_error fun c hname => c.failure_ne.2 hname.symm

end

end SlotUpdate.Payload
