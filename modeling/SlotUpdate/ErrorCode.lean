/-!
# Error codes

The result of an update attempt or of one of its steps. The numbers are those reported to the
platform and never change. `errorClass` sorts the codes by the remedy that they call for.
-/

namespace SlotUpdate

/-- The result of an attempt or of a step. -/
inductive ErrorCode where
  /-- The update is in place and the target slot is active. -/
  | success
  /-- A failure without a code of its own. -/
  | error
  /-- A postinstall program failed, or a step around it did. -/
  | postinstallRunnerError
  /-- The program needs a boot from the other firmware slot first. -/
  | postinstallBootedFromFirmwareB
  /-- A written partition does not have the recorded digest. -/
  | newRootfsVerificationError
  /-- The requested partition cannot be run. -/
  | downloadStateInitializationError
  /-- The payload does not start with the magic. -/
  | downloadInvalidMetadataMagicString
  /-- The payload metadata cannot be read. -/
  | downloadManifestParseError
  /-- The metadata signature cannot be read. -/
  | downloadMetadataSignatureError
  /-- The metadata signature could not be checked. -/
  | downloadMetadataSignatureVerificationError
  /-- No trusted key made the metadata signature. -/
  | downloadMetadataSignatureMismatch
  /-- The sizes in the payload header are out of range. -/
  | downloadInvalidMetadataSize
  /-- There is no metadata signature. -/
  | downloadMetadataSignatureMissingError
  /-- The powerwash could not be scheduled. -/
  | postinstallPowerwashError
  /-- The program cannot update read-only firmware. -/
  | postinstallFirmwareRONotUpdatable
  /-- The payload has a version that is not supported. -/
  | unsupportedMajorPayloadVersion
  /-- A written partition could not be checked. -/
  | filesystemVerifierError
  /-- The attempt was cancelled. -/
  | userCanceled
  /-- Everything succeeded and the slot was deliberately not switched. -/
  | updatedButNotActive
  /-- A partition could not be mounted. -/
  | postInstallMountError
  /-- The program path is absolute or leaves the mounted partition. It shares the number of
  `postinstallRunnerError`, so that a consumer that knows only the platform's numbers still sees a
  postinstall failure. -/
  | postinstallInvalidPath
  deriving Repr, DecidableEq, Inhabited

/-- The kind of remedy that a result calls for. -/
inductive ErrorClass where
  /-- Nothing to remedy. -/
  | success
  /-- The payload is not well formed. -/
  | format
  /-- The payload is not signed by a trusted key. -/
  | signature
  /-- A written partition does not match the manifest. -/
  | verification
  /-- Mounting failed. -/
  | mount
  /-- The request does not fit the payload. -/
  | configuration
  /-- A program failed. -/
  | runner
  /-- Another firmware slot is needed. -/
  | firmwareSlot
  /-- Scheduling the powerwash failed. -/
  | powerwash
  /-- The attempt was cancelled. -/
  | canceled
  /-- Anything else. -/
  | other
  deriving Repr, DecidableEq

namespace ErrorCode

/-- Every code, in the order of the platform's table. -/
def all : List ErrorCode :=
  [.success, .error, .postinstallRunnerError, .postinstallBootedFromFirmwareB,
   .newRootfsVerificationError, .downloadStateInitializationError,
   .downloadInvalidMetadataMagicString, .downloadManifestParseError,
   .downloadMetadataSignatureError, .downloadMetadataSignatureVerificationError,
   .downloadMetadataSignatureMismatch, .downloadInvalidMetadataSize,
   .downloadMetadataSignatureMissingError, .postinstallPowerwashError,
   .postinstallFirmwareRONotUpdatable, .unsupportedMajorPayloadVersion, .filesystemVerifierError,
   .userCanceled, .updatedButNotActive, .postInstallMountError, .postinstallInvalidPath]

/-- The number reported to the platform. -/
def number : ErrorCode → Nat
  | .success => 0
  | .error => 1
  | .postinstallRunnerError => 5
  | .postinstallBootedFromFirmwareB => 19
  | .newRootfsVerificationError => 15
  | .downloadStateInitializationError => 20
  | .downloadInvalidMetadataMagicString => 21
  | .downloadManifestParseError => 23
  | .downloadMetadataSignatureError => 24
  | .downloadMetadataSignatureVerificationError => 25
  | .downloadMetadataSignatureMismatch => 26
  | .downloadInvalidMetadataSize => 32
  | .downloadMetadataSignatureMissingError => 39
  | .postinstallPowerwashError => 41
  | .postinstallFirmwareRONotUpdatable => 43
  | .unsupportedMajorPayloadVersion => 44
  | .filesystemVerifierError => 47
  | .userCanceled => 48
  | .updatedButNotActive => 52
  | .postInstallMountError => 63
  | .postinstallInvalidPath => 5

/-- The name reported to the user. -/
def name : ErrorCode → String
  | .success => "Success"
  | .error => "Error"
  | .postinstallRunnerError => "PostinstallRunnerError"
  | .postinstallBootedFromFirmwareB => "PostinstallBootedFromFirmwareB"
  | .newRootfsVerificationError => "NewRootfsVerificationError"
  | .downloadStateInitializationError => "DownloadStateInitializationError"
  | .downloadInvalidMetadataMagicString => "DownloadInvalidMetadataMagicString"
  | .downloadManifestParseError => "DownloadManifestParseError"
  | .downloadMetadataSignatureError => "DownloadMetadataSignatureError"
  | .downloadMetadataSignatureVerificationError => "DownloadMetadataSignatureVerificationError"
  | .downloadMetadataSignatureMismatch => "DownloadMetadataSignatureMismatch"
  | .downloadInvalidMetadataSize => "DownloadInvalidMetadataSize"
  | .downloadMetadataSignatureMissingError => "DownloadMetadataSignatureMissingError"
  | .postinstallPowerwashError => "PostinstallPowerwashError"
  | .postinstallFirmwareRONotUpdatable => "PostinstallFirmwareRONotUpdatable"
  | .unsupportedMajorPayloadVersion => "UnsupportedMajorPayloadVersion"
  | .filesystemVerifierError => "FilesystemVerifierError"
  | .userCanceled => "UserCanceled"
  | .updatedButNotActive => "UpdatedButNotActive"
  | .postInstallMountError => "PostInstallMountError"
  | .postinstallInvalidPath => "PostinstallInvalidPath"

/-- The code of a name. -/
def ofName? (s : String) : Option ErrorCode :=
  all.find? (·.name == s)

/-- The failure that a program reports by its exit code. -/
def ofExitCode : Int → ErrorCode
  | 3 => .postinstallBootedFromFirmwareB
  | 4 => .postinstallFirmwareRONotUpdatable
  | _ => .postinstallRunnerError

/-- A program that fails never makes an update a success. -/
theorem ofExitCode_ne_success (code : Int) : ofExitCode code ≠ .success := by
  unfold ofExitCode
  split <;> decide

/-- Whether the attempt counts as a success: an update that deliberately did not switch slots
does. -/
def isSuccess : ErrorCode → Bool
  | .success | .updatedButNotActive => true
  | _ => false

/-- The kind of remedy that a code calls for. -/
def errorClass : ErrorCode → ErrorClass
  | .success | .updatedButNotActive => .success
  | .downloadInvalidMetadataMagicString | .downloadManifestParseError
  | .downloadInvalidMetadataSize | .unsupportedMajorPayloadVersion => .format
  | .downloadMetadataSignatureError | .downloadMetadataSignatureVerificationError
  | .downloadMetadataSignatureMismatch | .downloadMetadataSignatureMissingError => .signature
  | .newRootfsVerificationError | .filesystemVerifierError => .verification
  | .postInstallMountError => .mount
  | .postinstallInvalidPath | .downloadStateInitializationError => .configuration
  | .postinstallRunnerError => .runner
  | .postinstallBootedFromFirmwareB | .postinstallFirmwareRONotUpdatable => .firmwareSlot
  | .postinstallPowerwashError => .powerwash
  | .userCanceled => .canceled
  | .error => .other

/-- Whether the same payload can succeed later without any other change. -/
def isRetryable (c : ErrorCode) : Bool :=
  match c.errorClass with
  | .mount | .powerwash | .canceled | .other => true
  | _ => false

/-- Whether the device must first boot from the other firmware slot. -/
def requiresReboot (c : ErrorCode) : Bool :=
  c.errorClass = .firmwareSlot

/-- Every code is in the table. -/
theorem mem_all (c : ErrorCode) : c ∈ all := by
  cases c <;> decide

/-- A code is found by its name, so names are unique. -/
theorem ofName?_name (c : ErrorCode) : ofName? c.name = some c := by
  cases c <;> decide +kernel

end ErrorCode

/-- The name of a class. -/
def ErrorClass.name : ErrorClass → String
  | .success => "Success"
  | .format => "Format"
  | .signature => "Signature"
  | .verification => "Verification"
  | .mount => "Mount"
  | .configuration => "Configuration"
  | .runner => "Runner"
  | .firmwareSlot => "FirmwareSlot"
  | .powerwash => "Powerwash"
  | .canceled => "Canceled"
  | .other => "Other"

end SlotUpdate
