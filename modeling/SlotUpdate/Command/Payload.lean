import SlotUpdate.Command.Inputs

/-!
# Commands on payloads

One command shows the metadata of a payload as it stands, the other one verifies it with trusted
keys.
-/

namespace SlotUpdate.Command

/-- The line about a partition. -/
def partitionLine (u : PartitionUpdate) : String :=
  let program :=
    if u.program = "" then ""
    else s!", postinstall={Text.quote u.program} run={u.runsPostinstall}" ++
      s!" optional={u.isPostinstallOptional}"
  s!"- {u.partitionName}: {u.newSize.toNat} bytes" ++ program

/-- The lines about the metadata of a payload. -/
def infoLines (info : Payload.Info) : List String :=
  [s!"Major version: {info.header.version}",
   s!"Manifest size: {info.header.manifestSize}",
   s!"Metadata size: {info.header.metadataSize}",
   s!"Metadata signature size: {info.header.signatureSize}",
   s!"Block size: {info.manifest.effectiveBlockSize.toNat}", "Partitions:"] ++
    info.manifest.partitions.map partitionLine ++
    [s!"Signatures: {info.signatures.signatures.length}"]

/-- The decoded metadata of an open payload. -/
def readInfo (source : Except SystemError Bytes) : Except PayloadError Payload.Info :=
  match source with
  | .error e => .error (.unreadable e)
  | .ok bytes => Payload.readInfo bytes bytes.length

/-- Show the metadata of a payload. -/
def showInfo (files : FileTree) (input : Path) : Report Unit := do
  let source ← openPayload files input "Failed to open payload for reading: "
  let log := Payload.readLog (readMetadata source)
  let info ← (Report.take ofPayload (readInfo source) log).context
    ("Failed to read payload metadata: " ++ input.quote)
  (infoLines info).forM Report.print

/-- The metadata signature that is given, empty if there is none. -/
def loadSignature (files : FileTree) : Option SignatureSource → Report String
  | none => return ""
  | some (.text s) => return s
  | some (.file path) => do
    let text ← (Report.take ofSystem (files.readText path) []).context
      ("Failed to read metadata signature: " ++ path.quote)
    return Text.trim text

/-- Refuse metadata of another size than the properties say. -/
def checkSize (expected : Option UInt64) (h : Payload.Header) : Report Unit :=
  match expected with
  | none => return ()
  | some n =>
    if n.toNat = h.metadataSize then return ()
    else Report.fail
      (.failed s!"Metadata size mismatch: expected {n.toNat}, actual {h.metadataSize}" [])

/-- Verify the metadata of a payload. -/
def verifyPayload (files : FileTree) (o : VerifyOptions) : Report Unit := do
  let verifier ← loadVerifier files o.keys true
  let plan ← loadPropertiesOf files o.properties
  let signature ← loadSignature files o.signature
  let source ← openPayload files o.input "Failed to open payload for reading: "
  let (h, data) ← loadMetadata source o.input
  checkSize plan.metadataSize h
  if plan.metadataHash.isNone then
    Report.warning "No expected metadata hash. Only the signature will be checked."
  let manifest ← checkMetadata h data signature plan.metadataHash verifier o.input
  Report.status s!"Payload metadata is valid ({manifest.partitions.length} partitions)"

end SlotUpdate.Command
