import SlotUpdate.Plan.Install

/-!
# Applying properties, one after the other

Each property says nothing, says something, or is malformed (`Stated`), and a field of a plan takes
over what is said (`Stated.orKept`). `InstallPlan.applyProperties` takes the properties in order,
and three of them end it when they are malformed. So a plan has all that its properties say if none
of the three is (`InstallPlan.withProperties`), and otherwise what those before the first malformed
one say (`applies_in_order`): the failure comes too late to leave the plan as it was
(`earlier_fields_survive_failure`).
-/

namespace SlotUpdate

/-! ## What properties say -/

/-- What is said of a value. -/
inductive Stated (α : Type) where
  /-- Nothing. -/
  | nothing
  /-- A value. -/
  | value (a : α)
  /-- Something that is no value. -/
  | malformed (text : String)

namespace Stated

variable {α : Type}

/-- The value that is said, or else the one that was there. -/
def orKept : Stated α → Option α → Option α
  | value a, _ => some a
  | nothing, kept | malformed _, kept => kept

/-- What is said instead of a value. -/
def fault? : Stated α → Option String
  | malformed text => some text
  | nothing | value _ => none

/-- To say the same once more makes no difference. -/
@[simp]
theorem orKept_orKept (s : Stated α) (kept : Option α) :
    s.orKept (s.orKept kept) = s.orKept kept := by
  cases s <;> rfl

end Stated

namespace Properties

variable {α : Type}

/-- What the property of a key says. -/
def stated (p : Properties) (key : String) (parse : String → Option α) : Stated α :=
  match p.get? key with
  | none => .nothing
  | some text => match parse text with
    | some a => .value a
    | none => .malformed text

/-- The bytes of a base64 text. -/
def base64? (s : String) : Option Bytes := (Base64.decode (Utf8.encode s)).toOption

/-- The size of the payload. -/
def payloadSize (p : Properties) : Stated UInt64 := p.stated "FILE_SIZE" word?

/-- The digest of the payload. -/
def payloadHash (p : Properties) : Stated Bytes := p.stated "FILE_HASH" base64?

/-- The size of the metadata. -/
def metadataSize (p : Properties) : Stated UInt64 := p.stated "METADATA_SIZE" word?

/-- The digest of the metadata. -/
def metadataHash (p : Properties) : Stated Bytes := p.stated "METADATA_HASH" base64?

/-- The failure of the first property that may not be malformed but is. -/
def failure? (p : Properties) : Option PlanError :=
  (p.payloadSize.fault?.map (.invalidValue "FILE_SIZE")).or
    ((p.metadataSize.fault?.map (.invalidValue "METADATA_SIZE")).or
      (p.metadataHash.fault?.map (.invalidValue "METADATA_HASH")))

/-- There is no failure exactly if nothing is malformed that may not be. -/
theorem failure?_eq_none_iff {p : Properties} : p.failure? = none ↔
    p.payloadSize.fault? = none ∧ p.metadataSize.fault? = none ∧ p.metadataHash.fault? = none := by
  rw [failure?, Option.or_eq_none_iff, Option.or_eq_none_iff, Option.map_eq_none_iff,
    Option.map_eq_none_iff, Option.map_eq_none_iff]

end Properties

namespace InstallPlan

/-! ## Single properties -/

/-- The size of the payload is taken over, unless it is malformed. -/
theorem applyPayloadSize_eq (plan : InstallPlan) (p : Properties) :
    plan.applyPayloadSize p = match p.payloadSize.fault? with
      | some text => .error (.invalidValue "FILE_SIZE" text)
      | none => .ok { plan with payloadSize := p.payloadSize.orKept plan.payloadSize } := by
  unfold applyPayloadSize Properties.payloadSize Properties.stated
  cases p.get? "FILE_SIZE" with
  | none => rfl
  | some text =>
    dsimp only
    cases Properties.word? text <;> rfl

/-- The digest of the payload is taken over. -/
theorem value_applyPayloadHash (plan : InstallPlan) (p : Properties) :
    (plan.applyPayloadHash p).value =
      { plan with payloadHash := p.payloadHash.orKept plan.payloadHash } := by
  unfold applyPayloadHash Properties.payloadHash Properties.stated Properties.base64?
  cases p.get? "FILE_HASH" with
  | none => rfl
  | some text =>
    dsimp only
    cases Base64.decode (Utf8.encode text) <;> rfl

/-- The size of the metadata is taken over, unless it is malformed. -/
theorem applyMetadataSize_eq (plan : InstallPlan) (p : Properties) :
    plan.applyMetadataSize p = match p.metadataSize.fault? with
      | some text => .error (.invalidValue "METADATA_SIZE" text)
      | none => .ok { plan with metadataSize := p.metadataSize.orKept plan.metadataSize } := by
  unfold applyMetadataSize Properties.metadataSize Properties.stated
  cases p.get? "METADATA_SIZE" with
  | none => rfl
  | some text =>
    dsimp only
    cases Properties.word? text <;> rfl

/-- The digest of the metadata is taken over, unless it is malformed. -/
theorem applyMetadataHash_eq (plan : InstallPlan) (p : Properties) :
    plan.applyMetadataHash p = match p.metadataHash.fault? with
      | some text => .error (.invalidValue "METADATA_HASH" text)
      | none => .ok { plan with metadataHash := p.metadataHash.orKept plan.metadataHash } := by
  unfold applyMetadataHash Properties.metadataHash Properties.stated Properties.base64?
  cases p.get? "METADATA_HASH" with
  | none => rfl
  | some text =>
    dsimp only
    cases Base64.decode (Utf8.encode text) <;> rfl

/-! ## All properties -/

/-- The plan with what properties say of the payload. -/
def withPayload (plan : InstallPlan) (p : Properties) : InstallPlan :=
  { plan with
    payloadSize := p.payloadSize.orKept plan.payloadSize
    payloadHash := p.payloadHash.orKept plan.payloadHash }

/-- The plan with all that properties say. What they do not say of a switch is the usual. -/
def withProperties (plan : InstallPlan) (p : Properties) : InstallPlan :=
  { plan with
    payloadSize := p.payloadSize.orKept plan.payloadSize
    payloadHash := p.payloadHash.orKept plan.payloadHash
    metadataSize := p.metadataSize.orKept plan.metadataSize
    metadataHash := p.metadataHash.orKept plan.metadataHash
    powerwashRequired := Properties.switch (p.get? "POWERWASH") false
    switchSlot := Properties.switch (p.get? "SWITCH_SLOT_ON_REBOOT") true
    runPostinstall := Properties.switch (p.get? "RUN_POST_INSTALL") true }

/-- What is applied: all, or what comes before the first property that may not be malformed. -/
theorem value_applyProperties (plan : InstallPlan) (p : Properties) :
    (plan.applyProperties p).value = match p.payloadSize.fault?, p.metadataSize.fault?,
        p.metadataHash.fault? with
      | some text, _, _ => ⟨plan, some (.invalidValue "FILE_SIZE" text)⟩
      | none, some text, _ => ⟨plan.withPayload p, some (.invalidValue "METADATA_SIZE" text)⟩
      | none, none, some text =>
        ⟨{ plan.withPayload p with metadataSize := p.metadataSize.orKept plan.metadataSize },
          some (.invalidValue "METADATA_HASH" text)⟩
      | none, none, none => ⟨plan.withProperties p, none⟩ := by
  unfold applyProperties
  rw [applyPayloadSize_eq]
  cases p.payloadSize.fault? with
  | some text => rfl
  | none =>
    dsimp only
    -- The digest of the payload comes between the two sizes, and never ends it.
    rw [value_applyPayloadHash, applyMetadataSize_eq]
    cases p.metadataSize.fault? with
    | some text => rfl
    | none =>
      dsimp only
      rw [applyMetadataHash_eq]
      cases p.metadataHash.fault? with
      | some text => rfl
      | none => rfl

/-- The failure is that of the first property that may not be malformed but is. -/
theorem failure_applyProperties (plan : InstallPlan) (p : Properties) :
    (plan.applyProperties p).value.failure = p.failure? := by
  rw [value_applyProperties, Properties.failure?]
  cases p.payloadSize.fault? <;> cases p.metadataSize.fault? <;> cases p.metadataHash.fault? <;> rfl

/-- To apply the same properties once more makes no difference. -/
theorem value_applyProperties_again (plan : InstallPlan) (p : Properties) :
    ((plan.applyProperties p).value.plan.applyProperties p).value =
      (plan.applyProperties p).value := by
  rw [value_applyProperties plan, value_applyProperties]
  cases p.payloadSize.fault? with
  | some text => rfl
  | none =>
    cases p.metadataSize.fault? with
    | some text => simp only [withPayload, Stated.orKept_orKept]
    | none =>
      cases p.metadataHash.fault? with
      | some text => simp only [withPayload, Stated.orKept_orKept]
      | none => simp only [withProperties, Stated.orKept_orKept]

/-- What becomes of a plan when properties are applied to it. -/
structure AppliesInOrder (plan : InstallPlan) (p : Properties) (out : Applied) : Prop where
  /-- Applying succeeds exactly if neither size and no digest of the metadata is malformed, and
  otherwise the first of them is the error. -/
  failure : out.failure = p.failure?
  /-- Then all is applied that the properties say. -/
  whole : p.failure? = none → out.plan = plan.withProperties p
  /-- Before a malformed size of the payload nothing is applied. -/
  atPayloadSize : ∀ text, p.payloadSize.fault? = some text → out.plan = plan
  /-- Before a malformed size of the metadata the size and the digest of the payload are. -/
  atMetadataSize : p.payloadSize.fault? = none → ∀ text, p.metadataSize.fault? = some text →
    out.plan = plan.withPayload p
  /-- Before a malformed digest of the metadata its size is as well. -/
  atMetadataHash : p.payloadSize.fault? = none → p.metadataSize.fault? = none →
    ∀ text, p.metadataHash.fault? = some text → out.plan =
      { plan.withPayload p with metadataSize := p.metadataSize.orKept plan.metadataSize }
  /-- A failure leaves all else as it was. -/
  kept : out.failure ≠ none → out.plan =
    { plan with
      payloadSize := out.plan.payloadSize
      payloadHash := out.plan.payloadHash
      metadataSize := out.plan.metadataSize }
  /-- To apply the same properties once more makes no difference, whether they fail or not. -/
  again : (out.plan.applyProperties p).value = out

/-- Properties are applied one after the other, as far as the first that may not be malformed but
is, and what was applied before a failure stays. -/
theorem applies_in_order (plan : InstallPlan) (p : Properties) :
    AppliesInOrder plan p (plan.applyProperties p).value where
  failure := failure_applyProperties plan p
  whole hnone := by
    obtain ⟨hpayload, hsize, hhash⟩ := Properties.failure?_eq_none_iff.mp hnone
    rw [value_applyProperties, hpayload, hsize, hhash]
  atPayloadSize text hpayload := by rw [value_applyProperties, hpayload]
  atMetadataSize hpayload text hsize := by rw [value_applyProperties, hpayload, hsize]
  atMetadataHash hpayload hsize text hhash := by
    rw [value_applyProperties, hpayload, hsize, hhash]
  kept hfailure := by
    rw [failure_applyProperties] at hfailure
    rw [value_applyProperties]
    cases hpayload : p.payloadSize.fault? with
    | some text => rfl
    | none =>
      cases hsize : p.metadataSize.fault? with
      | some text => rfl
      | none =>
        cases hhash : p.metadataHash.fault? with
        | some text => rfl
        | none =>
          exact absurd (Properties.failure?_eq_none_iff.mpr ⟨hpayload, hsize, hhash⟩) hfailure
  again := value_applyProperties_again plan p

/-- A malformed size of the metadata is a failure, but the size of the payload is no longer what it
was before. -/
theorem earlier_fields_survive_failure :
    ∃ p, Properties.read ["FILE_SIZE=5", "METADATA_SIZE=x"] = .ok p ∧
      (empty.applyProperties p).value =
        ⟨{ empty with payloadSize := some 5 }, some (.invalidValue "METADATA_SIZE" "x")⟩ ∧
      (empty.applyProperties p).value.plan ≠ empty :=
  ⟨⟨[("FILE_SIZE", "5"), ("METADATA_SIZE", "x")]⟩, rfl, by decide, by decide⟩

end InstallPlan

end SlotUpdate
