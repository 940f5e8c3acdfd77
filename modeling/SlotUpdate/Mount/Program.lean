import SlotUpdate.ErrorCode
import SlotUpdate.Path
import SlotUpdate.SystemError

/-!
# Programs of a mounted partition

A partition names its program by a path relative to its root. `programPath` finds the program below
the directory where the partition is mounted. The path must be relative and must not leave that
directory, not even on the way.
-/

namespace SlotUpdate

/-- Why a partition cannot be mounted or its program cannot be found. -/
inductive MountError where
  /-- The path of the program starts at the root. -/
  | absolutePath (path : String)
  /-- The path of the program leads out of the mount directory or nowhere below it. -/
  | pathEscapes (path : String)
  /-- There is no such device. -/
  | deviceNotFound (device : Path)
  /-- There is no such mount directory. -/
  | directoryNotFound (directory : Path)
  /-- The device cannot be made read-only. -/
  | setReadonly (device : Path) (cause : SystemError)
  /-- Mounting failed. -/
  | mount (device mountPoint : Path) (cause : SystemError)
  /-- Unmounting failed, or finding out whether it is needed. -/
  | unmount (mountPoint : Path) (cause : SystemError)
  deriving Repr, DecidableEq

namespace MountError

/-- The name of a failure. -/
def name : MountError → String
  | absolutePath _ => "AbsolutePath"
  | pathEscapes _ => "PathEscapesMountDir"
  | deviceNotFound _ => "DeviceNotFound"
  | directoryNotFound _ => "MountDirNotFound"
  | setReadonly _ _ => "SetReadOnly"
  | mount _ _ _ => "Mount"
  | unmount _ _ => "Unmount"

/-- The text of a failure. -/
def message : MountError → String
  | absolutePath path => "Postinstall path is absolute: " ++ Text.quote path
  | pathEscapes path => "Postinstall path escapes the mount directory: " ++ Text.quote path
  | deviceNotFound device => "Device does not exist: " ++ device.quote
  | directoryNotFound directory => "Mount directory does not exist: " ++ directory.quote
  | setReadonly device _ => s!"Failed to set {device.quote} read-only"
  | mount device mountPoint _ => s!"Failed to mount {device.quote} at {mountPoint.quote}"
  | unmount mountPoint _ => "Failed to unmount " ++ mountPoint.quote

/-- The code that a failure is reported with. -/
def errorCode : MountError → ErrorCode
  | absolutePath _ | pathEscapes _ => .postinstallInvalidPath
  | _ => .postInstallMountError

/-- No failure to mount makes an update a success. -/
theorem errorCode_ne_success (e : MountError) : e.errorCode ≠ .success := by
  cases e <;> exact nofun

end MountError

/-- Follow components from a directory, given by the names that lead to it. A step up from the top
fails. -/
def Path.descend : (names : List String) → List Path.Component → Option (List String)
  | names, [] => some names
  | names, .normal n :: rest => descend (names ++ [n]) rest
  | names, .current :: rest => descend names rest
  | [], .parent :: _ => none
  | n :: names, .parent :: rest => descend (n :: names).dropLast rest
  | _, .root :: _ => none

/-- The program that `program` names in a partition mounted at `mountDir`. -/
def programPath (mountDir : Path) (program : String) : Except MountError Path :=
  if (Path.mk program).isAbsolute then .error (.absolutePath program)
  else match Path.descend [] (Path.mk program).components with
    -- Neither the mount directory itself nor anything above it is a program.
    | none | some [] => .error (.pathEscapes program)
    | some names =>
      let resolved := mountDir.join ⟨"/".intercalate names⟩
      if resolved.startsWith mountDir then .ok resolved else .error (.pathEscapes program)

/-- A program that is not on its partition is reported as such. -/
theorem errorCode_of_programPath {mountDir : Path} {program : String} {e : MountError}
    (h : programPath mountDir program = .error e) : e.errorCode = .postinstallInvalidPath := by
  unfold programPath at h
  split at h
  · cases h
    rfl
  · split at h
    · cases h
      rfl
    · cases h
      rfl
    · dsimp only at h
      split at h
      · cases h
      · cases h
        rfl

end SlotUpdate
