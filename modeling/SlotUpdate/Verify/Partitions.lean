import SlotUpdate.Files
import SlotUpdate.Plan.Install
import SlotUpdate.Progress.Weights
import SlotUpdate.Verify.Source

/-!
# Verification of written partitions

Before any program runs, the written partitions are compared with the manifest: the first bytes of
each, as many as its size says, must have the recorded digest. What follows them does not matter,
nor does the device of a partition of size zero. The first partition that does not match ends the
verification. Sizes that do not fit a word together end it before it begins.
-/

namespace SlotUpdate

/-- Why the written partitions are not accepted. -/
inductive VerifyError where
  /-- There is nothing to verify. -/
  | noPartitions
  /-- The device cannot be opened. -/
  | cannotOpen (partition : String) (device : Path) (cause : SystemError)
  /-- The device cannot be read. -/
  | cannotRead (partition : String) (cause : SystemError)
  /-- The device ends too early. -/
  | truncated (partition : String) (expected : UInt64) (actual : Nat)
  /-- The digest is not the recorded one. -/
  | hashMismatch (partition : String) (expected actual : Bytes)
  /-- The sum of the sizes overflows, which ends the program. -/
  | sumOverflow
  deriving Repr, DecidableEq

namespace VerifyError

/-- The name of a failure. -/
def name : VerifyError → String
  | noPartitions => "NoPartitions"
  | cannotOpen _ _ _ => "Open"
  | cannotRead _ _ => "Read"
  | truncated _ _ _ => "Truncated"
  | hashMismatch _ _ _ => "HashMismatch"
  | sumOverflow => "panic"

/-- The text of a failure. -/
def message : VerifyError → String
  | noPartitions => "No partitions to verify"
  | cannotOpen partition device _ => s!"Failed to open {partition} for reading: {device.quote}"
  | cannotRead partition _ => "Failed to read " ++ partition
  | truncated partition expected actual =>
    s!"Partition {partition} ends after {actual} of {expected.toNat} bytes"
  | hashMismatch partition expected actual =>
    s!"New {partition} partition verification failed: expected {expected.toHex}, " ++
      "actual " ++ actual.toHex
  | sumOverflow => "attempt to add with overflow"

/-- The code that a failure is reported with. -/
def errorCode : VerifyError → ErrorCode
  | hashMismatch _ _ _ => .newRootfsVerificationError
  | sumOverflow => .error
  | _ => .filesystemVerifierError

/-- The texts of what lies behind a failure. -/
def causes : VerifyError → List String
  | cannotOpen _ _ cause | cannotRead _ cause => [cause.text]
  | _ => []

end VerifyError

/-- What happens in the course of a verification. -/
inductive VerifyEvent (α : Type) where
  /-- A device is opened. -/
  | opened (device : Path)
  /-- A share of the work is reported as done. -/
  | progress (share : α)
  /-- A message is logged. -/
  | message (line : LogLine)

namespace VerifyEvent

variable {α : Type}

/-- The device of an event that opens one. -/
def opened? : VerifyEvent α → Option Path
  | opened device => some device
  | _ => none

/-- The share of an event that reports one. -/
def progress? : VerifyEvent α → Option α
  | progress share => some share
  | _ => none

/-- The message of an event that logs one. -/
def message? : VerifyEvent α → Option LogLine
  | message line => some line
  | _ => none

/-- The event with another share. -/
def mapShare (f : α → α) : VerifyEvent α → VerifyEvent α
  | progress share => progress (f share)
  | e => e

end VerifyEvent

/-- The outcome of a verification. -/
structure Verification (α : Type) where
  /-- Whether all is accepted, or why not. -/
  result : Except VerifyError Unit
  /-- What happened, in order. -/
  events : List (VerifyEvent α)

namespace Verification

variable {α : Type}

/-- The shares of progress that were reported, in order. -/
def progress (v : Verification α) : List α := v.events.filterMap VerifyEvent.progress?

/-- The devices that were opened, in order. -/
def opened (v : Verification α) : List Path := v.events.filterMap VerifyEvent.opened?

/-- The messages, in order. -/
def log (v : Verification α) : List LogLine := v.events.filterMap VerifyEvent.message?

end Verification

variable {α : Type} [ProgressNumber α]

/-- Compare what was read of a partition with what is recorded. -/
def Partition.compare (p : Partition) (read : ReadPrefix) : Except VerifyError Bytes :=
  match read.digest with
  | .error cause => .error (.cannotRead p.name cause)
  | .ok (digest, count) =>
    if count = p.size.toNat then .ok digest else .error (.truncated p.name p.size count)

/-- Verify one partition by the source that its device opens as. -/
def Partition.verify (p : Partition) (source : Except SystemError Source) : Verification α :=
  let start := [.message (.info s!"Hashing {p.size.toNat} bytes of {p.name} on {p.target.quote}"),
    .opened p.target]
  match source with
  | .error cause => ⟨.error (.cannotOpen p.name p.target cause), start⟩
  | .ok s =>
    let read := s.readPrefix p.size.toNat 0
    let hashing := start ++ (read.progress p.size).map .progress
    match p.compare read with
    | .error e => ⟨.error e, hashing⟩
    | .ok digest =>
      ⟨if digest = p.hash then .ok () else .error (.hashMismatch p.name p.hash digest),
        hashing ++ [.message (.info s!"Hash of {p.name}: {digest.toHex}")]⟩

/-- Verify the rest of the partitions. The progress is weighted by their sizes. -/
def verifyFrom (openDevice : Path → Except SystemError Source) (a : Aggregator) :
    List Partition → Verification α
  | [] => ⟨.ok (), [.progress (a.progress ProgressNumber.zero)]⟩
  | p :: rest =>
    if p.size = 0 then
      let after := verifyFrom openDevice a.advance rest
      { after with
        events :=
          .message (.info ("Skipping verification of empty partition " ++ p.name)) :: after.events }
    else
      let here : Verification α := p.verify (openDevice p.target)
      -- The share of one partition becomes a share of all of them.
      let events := here.events.map (·.mapShare a.progress)
      match here.result with
      | .error e => ⟨.error e, events ++ [.message (.error e.message)]⟩
      | .ok () =>
        let after := verifyFrom openDevice a.advance rest
        ⟨after.result, events ++ after.events⟩

/-- Verify partitions in order, up to the first that does not match. -/
def verifyPartitions (openDevice : Path → Except SystemError Source) (ps : List Partition) :
    Verification α :=
  if ps = [] then ⟨.error .noPartitions, []⟩
  else
    -- The sizes come from a manifest, which may state any.
    match Aggregator.ofWeights? (ps.map (·.size)) with
    | none => ⟨.error .sumOverflow, []⟩
    | some a =>
      let rest := verifyFrom openDevice a ps
      { rest with events := .progress (a.progress ProgressNumber.zero) :: rest.events }

/-- The source that a path of the tree opens as. A directory opens, but cannot be read. -/
def FileTree.openSource (t : FileTree) (p : Path) : Except SystemError Source :=
  match t.stat p with
  | .error e => .error e
  | .ok (.file contents) => .ok ⟨contents, []⟩
  | .ok .directory => .ok ⟨[], [.failed .isDirectory]⟩
  | .ok .device => .ok ⟨[], []⟩

end SlotUpdate
