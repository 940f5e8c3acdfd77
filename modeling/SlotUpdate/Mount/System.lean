import SlotUpdate.Files
import SlotUpdate.Log

/-!
# Mounting with the calls of the system

The calls of the system that mount, unmount and make devices read-only, as they answer a program
without privileges: arguments are checked first, then the mount point is looked up, and then the
privilege is missing. No entry of the file tree is a block device.
-/

namespace SlotUpdate.SystemMounter

/-- The filesystems that are tried where none is named. -/
def fallbackFilesystems : List String := ["ext2", "ext3", "ext4", "squashfs", "erofs"]

/-- The standing mount points of the system. -/
def mountPoints : List (List String) := [[], ["dev"], ["proc"], ["sys"]]

/-- An argument of a call, which must not hold a NUL byte. -/
def checkArgument (s : String) : Except SystemError Unit :=
  match (Utf8.encode s).findIdx? (· == 0) with
  | some position => .error (.nulAt position)
  | none => .ok ()

/-- Whether something is mounted at a path. -/
def isMountPoint (files : FileTree) (p : Path) : Except SystemError Bool := do
  let _ ← files.stat p
  -- A mount point is told by its being on another device than the directory above it.
  let _ ← files.stat (p.join ⟨".."⟩)
  match ← files.locate p with
  | .system names => return mountPoints.contains names
  | _ => return false

/-- The message about a device whose own setting cannot be changed. -/
def readonlyLog (device : Path) (e : SystemError) : LogLine :=
  .debug s!"BLKROSET failed on {device.quote}: {e.text}; trying force_ro"

/-- Make a device read-only or writable. -/
def setReadonly (files : FileTree) (device : Path) : Logged (Except SystemError Unit) :=
  match files.stat device with
  | .error e => pure (.error e)
  | .ok _ => ⟨.error .notTerminal, [readonlyLog device .notTerminal]⟩

/-- The answer of the system to a call about a mount point. -/
def callAt (files : FileTree) (mountPoint : Path) : Except SystemError Unit := do
  let _ ← files.stat mountPoint
  throw .notPermitted

/-- Mount a filesystem of one kind. -/
def mountAs (files : FileTree) (mountPoint : Path) (filesystem : String) :
    Except SystemError Unit := do
  checkArgument filesystem
  callAt files mountPoint

/-- Try filesystems in order. The failure is that of the last one. -/
def mountAny (files : FileTree) (mountPoint : Path) :
    List String → Except SystemError Unit → Logged (Except SystemError Unit)
  | [], last => pure last
  | filesystem :: rest, _ =>
    match mountAs files mountPoint filesystem with
    | .ok () => pure (.ok ())
    | .error e => do
      Logged.tell (.debug s!"Failed to mount as {filesystem}: {e.text}")
      mountAny files mountPoint rest (.error e)

/-- Mount a device for reading. -/
def mount (files : FileTree) (device mountPoint : Path) (filesystem options : String) :
    Logged (Except SystemError Unit) :=
  match [device.text, mountPoint.text, options].forM checkArgument with
  | .error e => pure (.error e)
  | .ok () =>
    if filesystem = "" then mountAny files mountPoint fallbackFilesystems (.ok ())
    else pure (mountAs files mountPoint filesystem)

/-- Unmount what is mounted at a path. -/
def unmount (files : FileTree) (mountPoint : Path) : Except SystemError Unit := do
  checkArgument mountPoint.text
  callAt files mountPoint

end SlotUpdate.SystemMounter
