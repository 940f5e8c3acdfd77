import SlotUpdate.Command.Arguments
import SlotUpdate.Command.Report
import SlotUpdate.Files
import SlotUpdate.Keys.Load
import SlotUpdate.Payload.Metadata
import SlotUpdate.Plan.Install
import SlotUpdate.Text.Blank

/-!
# Inputs of commands

The files that commands read: trusted keys, properties of a payload, and the payload itself. A file
that cannot be used ends the command, and the failure names it.
-/

namespace SlotUpdate.Command

/-- A failure that lies in a call of the system. -/
def ofSystem (e : SystemError) : Failure := .failed e.text []

/-- A failure that lies in a key or signature. -/
def ofSignature (e : SignatureError) : Failure := .failed e.message e.causes

/-- A failure that lies in a plan. -/
def ofPlan (e : PlanError) : Failure := .failed e.message e.causes

/-- A failure that lies in a payload. -/
def ofPayload (e : PayloadError) : Failure := .failed e.message e.causes

/-- A text with the code that it is reported with. -/
def coded (code : ErrorCode) (text : String) : String := s!"[{code.name}] {text}"

/-- A failure that lies in a plan, told by its code and text alone. -/
def ofCodedPlan (e : PlanError) : Failure := .failed (coded e.errorCode e.message) []

/-- A failure that lies in a payload, told by its code and text alone. -/
def ofCodedPayload (e : PayloadError) : Failure := .failed (coded e.errorCode e.message) []

/-! ## Keys -/

/-- The contents of a key file. -/
def readKeyFile (files : FileTree) (path : Path) : Except SignatureError Bytes :=
  (files.read path).mapError (.unreadable path.text)

/-- The key of a certificate. `named` says whether a failure to get the key names the file. -/
def loadCertificate (files : FileTree) (named : Bool) (path : Path) : Report Rsa.PublicKey := do
  let read := (readKeyFile files path).bind Keys.readCertificate
  let info ← (Report.take ofSignature read []).context
    ("Failed to load certificate: " ++ path.quote)
  let key := Report.take ofSignature (Keys.toRsa info) []
  if named then key.context ("Failed to get public key from certificate: " ++ path.quote) else key

/-- The key of a public key file. -/
def loadPublicKey (files : FileTree) (path : Path) : Report Rsa.PublicKey :=
  let read := (readKeyFile files path).bind (Keys.loadPublicKey path.text)
  (Report.take ofSignature read []).context
    ("Failed to load public key: " ++ path.quote)

/-- The verifier that trusts the keys of files. -/
def loadVerifier (files : FileTree) (keys : KeyFiles) (named : Bool) : Report Verifier := do
  let fromCertificates ← keys.certificates.mapM (loadCertificate files named)
  let fromFiles ← keys.publicKeys.mapM (loadPublicKey files)
  (Report.take ofSignature (Verifier.ofKeys (fromCertificates ++ fromFiles)) []).context
    "Failed to set up payload verifier"

/-! ## Properties -/

/-- The plan with the properties in a file. -/
def loadProperties (files : FileTree) (path : Path) : Report InstallPlan := do
  let text ← (Report.take ofSystem (files.readText path) []).context
    ("Failed to read payload properties: " ++ path.quote)
  let properties ← (Report.take ofPlan (Properties.read (Text.lines text)) []).context
    ("Failed to parse payload properties: " ++ path.quote)
  let applied := InstallPlan.empty.applyProperties properties
  let outcome : Except PlanError InstallPlan := match applied.value.failure with
    | some e => .error e
    | none => .ok applied.value.plan
  (Report.take ofPlan outcome applied.log).context
    ("Invalid payload properties: " ++ path.quote)

/-- The plan with the properties in a file, if there is one. -/
def loadPropertiesOf (files : FileTree) (path : Option Path) : Report InstallPlan :=
  match path with
  | some path => loadProperties files path
  | none => pure InstallPlan.empty

/-! ## Payloads -/

/-- Open a payload. `what` says what fails if it cannot be opened. Reading it may still fail. -/
def openPayload (files : FileTree) (path : Path) (what : String) :
    Report (Except SystemError Bytes) := do
  let _ ← (Report.take ofSystem (files.stat path) []).context (what ++ path.quote)
  return files.read path

/-- Read the metadata of an open payload. -/
def readMetadata (source : Except SystemError Bytes) :
    Except PayloadError (Payload.Header × Bytes) :=
  match source with
  | .error e => .error (.unreadable e)
  | .ok bytes => Payload.readMetadata bytes bytes.length

/-- Read the metadata of an open payload at a path. -/
def loadMetadata (source : Except SystemError Bytes) (path : Path) :
    Report (Payload.Header × Bytes) :=
  let read := readMetadata source
  (Report.take ofCodedPayload read (Payload.readLog read)).context
    ("Failed to read payload metadata: " ++ path.quote)

/-- Check metadata that was read and give its manifest. -/
def checkMetadata (h : Payload.Header) (data : Bytes) (signature : String)
    (expected : Option Bytes) (v : Verifier) (path : Path) : Report Manifest :=
  (Report.take ofCodedPayload (Payload.verifyAndParse h data signature expected v)
    (Payload.verifyLog h data signature expected v)).context
    ("Failed to verify payload metadata: " ++ path.quote)

end SlotUpdate.Command
