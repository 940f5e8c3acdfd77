import SlotUpdate.Proofs.Payload.Header

/-!
# The format of headers

`Says` is the format: what the bytes at hand say about the header, one constructor for each answer.
Reading a header gives exactly that answer (`parse_eq_iff`). An answer depends on the first 24 bytes
only, and an answer other than that more bytes are needed is not changed by any that follow
(`Says.append`), so whoever reads again from a longer buffer finds the same. `TellsHeader` tells the
answers apart by the length, the magic and the three numbers, and `header_format_told` says that
reading does so, and that it finds the sizes that were written.
-/

namespace SlotUpdate.Payload

/-! ## The magic and the numbers -/

/-- The bytes begin with the magic, and all of the header is there. -/
def HasHeader (data : Bytes) : Prop :=
  magic <+: data ∧ headerSize ≤ data.length

/-- Bytes begin with the magic if their first four bytes are it. -/
theorem magic_isPrefix_iff {data : Bytes} : magic <+: data ↔ data.take 4 = magic := by
  rw [List.prefix_iff_eq_take]
  exact eq_comm

/-- More bytes do not change whether the magic comes first. -/
theorem magic_isPrefix_append {data : Bytes} (more : Bytes) (h : magicThreshold ≤ data.length) :
    magic <+: data ++ more ↔ magic <+: data := by
  have hmagic : 4 ≤ data.length := Nat.le_trans (by decide) h
  rw [magic_isPrefix_iff, magic_isPrefix_iff, List.take_append_of_le_length hmagic]

/-- More bytes do not change the numbers in a header that is there. -/
theorem Header.atStart_append {data : Bytes} (more : Bytes) (h : headerSize ≤ data.length) :
    Header.atStart (data ++ more) = Header.atStart data := by
  calc Header.atStart (data ++ more)
    _ = Header.atStart ((data ++ more).take headerSize) :=
        (Header.atStart_take _ (Nat.le_refl _)).symm
    _ = Header.atStart (data.take headerSize) := by
        rw [List.take_append_of_le_length h]
    _ = Header.atStart data := Header.atStart_take _ (Nat.le_refl _)

/-- The header at the start, when its version is known. -/
theorem Header.atStart_eq {data : Bytes} (hversion : (Header.atStart data).version = 2) :
    Header.atStart data = ⟨2, numberAt 12 8 data, numberAt 20 4 data⟩ := by
  rw [← hversion]
  rfl

/-- A header that is there stays there. -/
theorem HasHeader.append {data : Bytes} (h : HasHeader data) (more : Bytes) :
    HasHeader (data ++ more) := by
  obtain ⟨hmagic, hlength⟩ := h
  refine ⟨hmagic.trans (List.prefix_append data more), ?_⟩
  rw [List.length_append]
  omega

/-! ## The answers -/

/-- What the bytes at hand say about the header. -/
inductive Says (data : Bytes) : Except HeaderError HeaderStatus → Prop where
  /-- The magic is not looked at yet. -/
  | short (length : data.length < magicThreshold) : Says data (.ok .insufficientData)
  /-- The magic comes first, but the header is cut off. -/
  | cut (begins : magic <+: data) (length : data.length < headerSize) :
    Says data (.ok .insufficientData)
  /-- Something else comes first. -/
  | foreign (length : magicThreshold ≤ data.length) (differs : ¬magic <+: data) :
    Says data (.error (.unknownMagic (data.take 4)))
  /-- The version is another one. -/
  | unsupported (there : HasHeader data)
    (version : (Header.atStart data).version ≠ supportedVersion) :
    Says data (.error (.unsupportedVersion (Header.atStart data).version))
  /-- The size of the manifest does not fit. -/
  | manifestTooLarge (there : HasHeader data)
    (version : (Header.atStart data).version = supportedVersion)
    (large : UInt64.size ≤ (Header.atStart data).metadataSize) :
    Says data (.error .metadataOverflow)
  /-- The size of the signature does not fit with it. -/
  | signatureTooLarge (there : HasHeader data)
    (version : (Header.atStart data).version = supportedVersion)
    (fits : (Header.atStart data).metadataSize < UInt64.size)
    (large : UInt64.size ≤ (Header.atStart data).totalSize) :
    Says data (.error .totalOverflow)
  /-- The header is complete. -/
  | complete (there : HasHeader data)
    (version : (Header.atStart data).version = supportedVersion)
    (fits : (Header.atStart data).totalSize < UInt64.size) :
    Says data (.ok (.complete (Header.atStart data)))

/-- Reading a header answers what the bytes say. -/
theorem says_parse (data : Bytes) : Says data (Header.parse data) := by
  unfold Header.parse
  dsimp only
  split_ifs with h12 hmagic h24 hversion hmetadata htotal
  · exact .short h12
  · exact .foreign (Nat.le_of_not_lt h12) (mt magic_isPrefix_iff.1 hmagic)
  · exact .cut (magic_isPrefix_iff.2 (not_not.1 hmagic)) h24
  -- From here on the header is there, and its numbers are looked at one after the other.
  all_goals
    have hthere : HasHeader data :=
      ⟨magic_isPrefix_iff.2 (not_not.1 hmagic), Nat.le_of_not_lt h24⟩
  · exact .unsupported hthere hversion
  · exact .manifestTooLarge hthere (not_not.1 hversion) hmetadata
  · exact .signatureTooLarge hthere (not_not.1 hversion) (Nat.lt_of_not_le hmetadata) htotal
  · exact .complete hthere (not_not.1 hversion) (Nat.lt_of_not_le htotal)

/-- If the header is there, what is read depends on its numbers. -/
theorem parse_of_hasHeader {data : Bytes} (h : HasHeader data) :
    Header.parse data =
      if (Header.atStart data).version ≠ supportedVersion then
        .error (.unsupportedVersion (Header.atStart data).version)
      else if UInt64.size ≤ (Header.atStart data).metadataSize then .error .metadataOverflow
      else if UInt64.size ≤ (Header.atStart data).totalSize then .error .totalOverflow
      else .ok (.complete (Header.atStart data)) := by
  obtain ⟨hmagic, hlength⟩ := h
  have hthreshold : magicThreshold ≤ data.length := Nat.le_trans (by decide) hlength
  unfold Header.parse
  rw [if_neg (Nat.not_lt_of_le hthreshold),
    if_neg (not_not_intro (magic_isPrefix_iff.1 hmagic)), if_neg (Nat.not_lt_of_le hlength)]
  rfl

/-- Reading a header answers what the bytes say, and nothing else. -/
theorem parse_eq_iff {data : Bytes} {answer : Except HeaderError HeaderStatus} :
    Header.parse data = answer ↔ Says data answer := by
  constructor
  · rintro rfl
    exact says_parse data
  · intro h
    cases h with
    | short length =>
      unfold Header.parse
      rw [if_pos length]
    | cut begins length =>
      unfold Header.parse
      rw [if_neg (not_not_intro (magic_isPrefix_iff.1 begins)), if_pos length, ite_self]
    | foreign length differs =>
      unfold Header.parse
      rw [if_neg (Nat.not_lt_of_le length), if_pos (mt magic_isPrefix_iff.2 differs)]
    | unsupported there version =>
      rw [parse_of_hasHeader there, if_pos version]
    | manifestTooLarge there version large =>
      rw [parse_of_hasHeader there, if_neg (not_not_intro version), if_pos large]
    | signatureTooLarge there version fits large =>
      rw [parse_of_hasHeader there, if_neg (not_not_intro version),
        if_neg (Nat.not_le_of_lt fits), if_pos large]
    | complete there version fits =>
      have hmetadata : (Header.atStart data).metadataSize < UInt64.size :=
        Nat.lt_of_le_of_lt (Nat.le_add_right _ _) fits
      rw [parse_of_hasHeader there, if_neg (not_not_intro version),
        if_neg (Nat.not_le_of_lt hmetadata), if_neg (Nat.not_le_of_lt fits)]

/-- Once the bytes say more than that there are too few of them, those that follow do not matter. -/
theorem Says.append {data : Bytes} {answer : Except HeaderError HeaderStatus}
    (h : Says data answer) (hanswer : answer ≠ .ok .insufficientData) (more : Bytes) :
    Says (data ++ more) answer := by
  cases h with
  | short => exact absurd rfl hanswer
  | cut => exact absurd rfl hanswer
  | foreign length differs =>
    have hlength : magicThreshold ≤ (data ++ more).length := by
      rw [List.length_append]
      omega
    have htake : (data ++ more).take 4 = data.take 4 :=
      List.take_append_of_le_length (Nat.le_trans (by decide) length)
    rw [← htake]
    exact .foreign hlength (mt (magic_isPrefix_append more length).1 differs)
  | unsupported there version =>
    rw [← Header.atStart_append more there.2] at version ⊢
    exact .unsupported (there.append more) version
  | manifestTooLarge there version large =>
    rw [← Header.atStart_append more there.2] at version large
    exact .manifestTooLarge (there.append more) version large
  | signatureTooLarge there version fits large =>
    rw [← Header.atStart_append more there.2] at version fits large
    exact .signatureTooLarge (there.append more) version fits large
  | complete there version fits =>
    rw [← Header.atStart_append more there.2] at version fits ⊢
    exact .complete (there.append more) version fits

/-! ## The answers told apart -/

/-- Which answer the bytes at hand get, by their length, the magic, and the numbers at 4, 12 and 20:
the version, the size of the manifest, and the size of the signature. -/
structure TellsHeader (data : Bytes) (answer : Except HeaderError HeaderStatus) : Prop where
  /-- More bytes are needed before the version is there, and for the rest after the magic. -/
  insufficient : answer = .ok .insufficientData ↔
    data.length < 12 ∨ magic <+: data ∧ data.length < 24
  /-- Other bytes than the magic are shown. -/
  unknownMagic : ∀ found, answer = .error (.unknownMagic found) ↔
    12 ≤ data.length ∧ ¬magic <+: data ∧ found = data.take 4
  /-- A version other than the second is shown. -/
  unsupportedVersion : ∀ version, answer = .error (.unsupportedVersion version) ↔
    HasHeader data ∧ numberAt 4 8 data ≠ 2 ∧ version = numberAt 4 8 data
  /-- The first of the two sums does not fit. -/
  metadataOverflow : answer = .error .metadataOverflow ↔
    HasHeader data ∧ numberAt 4 8 data = 2 ∧ UInt64.size ≤ 24 + numberAt 12 8 data
  /-- The second of the two sums does not fit, while the first does. -/
  totalOverflow : answer = .error .totalOverflow ↔
    HasHeader data ∧ numberAt 4 8 data = 2 ∧ 24 + numberAt 12 8 data < UInt64.size ∧
      UInt64.size ≤ 24 + numberAt 12 8 data + numberAt 20 4 data
  /-- The header is complete with the numbers if both sums fit. -/
  complete : ∀ h, answer = .ok (.complete h) ↔
    HasHeader data ∧ numberAt 4 8 data = 2 ∧
      24 + numberAt 12 8 data + numberAt 20 4 data < UInt64.size ∧
      h = ⟨2, numberAt 12 8 data, numberAt 20 4 data⟩
  /-- The sizes of a complete header are these sums, also when they are added as 64-bit words. -/
  sizes : ∀ h, answer = .ok (.complete h) →
    h.metadataSize = 24 + numberAt 12 8 data ∧
      h.totalSize = 24 + numberAt 12 8 data + numberAt 20 4 data ∧
      (24 + UInt64.ofNat h.manifestSize).toNat = h.metadataSize ∧
      (24 + UInt64.ofNat h.manifestSize + UInt64.ofNat h.signatureSize).toNat = h.totalSize

/-- Sizes whose sum fits are added as words without wrapping. -/
theorem Header.toNat_sizes {h : Header} (hfits : h.totalSize < UInt64.size) :
    (24 + UInt64.ofNat h.manifestSize).toNat = h.metadataSize ∧
      (24 + UInt64.ofNat h.manifestSize + UInt64.ofNat h.signatureSize).toNat = h.totalSize := by
  have hsum : 24 + h.manifestSize + h.signatureSize < 2 ^ 64 := hfits
  have hmetadata : (24 + UInt64.ofNat h.manifestSize).toNat = 24 + h.manifestSize := by
    rw [UInt64.toNat_add, UInt64.toNat_ofNat']
    show (24 + h.manifestSize % 2 ^ 64) % 2 ^ 64 = 24 + h.manifestSize
    omega
  refine ⟨hmetadata, ?_⟩
  rw [UInt64.toNat_add, hmetadata, UInt64.toNat_ofNat']
  show (24 + h.manifestSize + h.signatureSize % 2 ^ 64) % 2 ^ 64 =
    24 + h.manifestSize + h.signatureSize
  omega

/-- Reading a header tells the answers apart as the format does. -/
theorem parse_tellsHeader (data : Bytes) : TellsHeader data (Header.parse data) where
  insufficient := by
    rw [parse_eq_iff]
    constructor
    · intro h
      cases h with
      | short length => exact .inl length
      | cut begins length => exact .inr ⟨begins, length⟩
    · rintro (hshort | ⟨hbegins, hcut⟩)
      · exact .short hshort
      · exact .cut hbegins hcut
  unknownMagic found := by
    rw [parse_eq_iff]
    constructor
    · intro h
      cases h with
      | foreign length differs => exact ⟨length, differs, rfl⟩
    · rintro ⟨hlength, hdiffers, rfl⟩
      exact .foreign hlength hdiffers
  unsupportedVersion version := by
    rw [parse_eq_iff]
    constructor
    · intro h
      cases h with
      | unsupported there version => exact ⟨there, version, rfl⟩
    · rintro ⟨hthere, hversion, rfl⟩
      exact .unsupported hthere hversion
  metadataOverflow := by
    rw [parse_eq_iff]
    constructor
    · intro h
      cases h with
      | manifestTooLarge there version large => exact ⟨there, version, large⟩
    · rintro ⟨hthere, hversion, hlarge⟩
      exact .manifestTooLarge hthere hversion hlarge
  totalOverflow := by
    rw [parse_eq_iff]
    constructor
    · intro h
      cases h with
      | signatureTooLarge there version fits large =>
        exact ⟨there, version, fits, large⟩
    · rintro ⟨hthere, hversion, hfits, hlarge⟩
      exact .signatureTooLarge hthere hversion hfits hlarge
  complete h := by
    rw [parse_eq_iff]
    constructor
    · intro hsays
      cases hsays with
      | complete there version fits =>
        exact ⟨there, version, fits, Header.atStart_eq version⟩
    · rintro ⟨hthere, hversion, hfits, rfl⟩
      rw [← Header.atStart_eq hversion]
      exact .complete hthere hversion hfits
  sizes h := by
    rw [parse_eq_iff]
    intro hsays
    cases hsays with
    | complete there version fits => exact ⟨rfl, rfl, Header.toNat_sizes fits⟩

/-- Reading a header tells the answers apart, as the format does. What it answers stays the same
however many bytes follow, unless more of them are needed. It finds exactly the sizes that a header
was written with, if these fit, whatever follows the header. -/
theorem header_format_told :
    (∀ data, TellsHeader data (Header.parse data)) ∧
    (∀ data more, Header.parse data ≠ .ok .insufficientData →
      Header.parse (data ++ more) = Header.parse data) ∧
    ∀ (manifestSize : UInt64) (signatureSize : UInt32) (tail : Bytes),
      24 + manifestSize.toNat + signatureSize.toNat < UInt64.size →
        Header.parse (writeHeader manifestSize.toNat signatureSize.toNat ++ tail) =
          .ok (.complete ⟨2, manifestSize.toNat, signatureSize.toNat⟩) := by
  refine ⟨parse_tellsHeader, fun data more hdecided => ?_, ?_⟩
  · rw [parse_eq_iff]
    exact (says_parse data).append hdecided more
  · intro manifestSize signatureSize tail hfits
    exact parse_writeHeader tail signatureSize.toNat_lt hfits

end SlotUpdate.Payload
