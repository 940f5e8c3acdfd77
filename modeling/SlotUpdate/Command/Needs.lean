import SlotUpdate.Command.Run

/-!
# The files that a command looks at

Which files must be known before a command is carried out: first those that its arguments name, and
then, once these are known, those that the settings and the payload name.
-/

namespace SlotUpdate.Command

/-- The files with the trusted keys. -/
def KeyFiles.paths (k : KeyFiles) : List Path := k.certificates ++ k.publicKeys

/-- The file of a signature. -/
def SignatureSource.path? : SignatureSource → Option Path
  | .text _ => none
  | .file path => some path

/-- The files that a task names. -/
def Task.paths : Task → List Path
  | .info input => [input]
  | .verify o =>
    o.input :: o.keys.paths ++ (o.signature.bind (·.path?)).toList ++ o.properties.toList
  | .postinstall o => o.payload :: o.keys.paths ++ o.properties.toList

/-- The files that the arguments name. -/
def namedFiles (i : Invocation) : List Path := i.config.toList ++ i.task.paths

/-- The settings as far as they are known. -/
def knownConfig (i : Invocation) (files : FileTree) : Config :=
  match (loadConfig files i.config).result with
  | .ok config => config
  | .error _ => Config.default

/-- The partitions in the metadata of a payload, which may not be verified. -/
def partitionsIn (files : FileTree) (payload : Path) : List PartitionUpdate :=
  match readInfo (files.read payload) with
  | .ok info => info.manifest.partitions
  | .error _ => []

/-- The files that the settings and the payload name: the mount directory, the request for a
powerwash, and the devices of the partitions in the slots that may be written. -/
def furtherFiles (i : Invocation) (files : FileTree) : List Path :=
  match i.task with
  | .info _ | .verify _ => []
  | .postinstall o =>
    let config := knownConfig i files
    let current := config.device.currentSlot
    let slots := [slotAfter current config.device.numSlots, if current = 0 then 1 else 0]
    let devices := (partitionsIn files o.payload).flatMap fun u =>
      slots.filterMap fun slot => slot.nameSuffix.map fun suffix =>
        config.device.deviceDir.join ⟨u.partitionName ++ suffix⟩
    config.postinstall.mountDir :: config.device.powerwashFile.toList ++ devices

end SlotUpdate.Command
