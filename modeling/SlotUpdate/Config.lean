import SlotUpdate.Boot.Host
import SlotUpdate.Postinstall.Runner
import SlotUpdate.Toml.Parse

/-!
# Configuration

A configuration file is a TOML document with the settings of the runner under `postinstall` and
those of the host under `device`. Settings that are not given keep their usual values; names that
are not known and values of the wrong kind are refused. `Config.parse` then refuses settings that
make no sense together, so every configuration that was read has a current slot among its slots
and an absolute mount directory.
-/

namespace SlotUpdate

/-- The settings of the program. -/
structure Config where
  /-- The settings of the runner. -/
  postinstall : PostinstallConfig
  /-- The settings of the host. -/
  device : DeviceConfig
  deriving Repr, DecidableEq

/-- The settings that hold without a configuration file. -/
def Config.default : Config := ⟨.default, .default⟩

/-- What makes settings unusable. -/
inductive ConfigFault where
  /-- There is no slot. -/
  | noSlots
  /-- The current slot is not among the slots. -/
  | currentSlot (current : Slot) (numSlots : UInt32)
  /-- The mount directory is not absolute. -/
  | mountDir (dir : Path)
  /-- The status pipe would take the place of a standard stream. -/
  | statusFd (fd : Int)
  deriving Repr, DecidableEq

/-- The text of a fault. -/
def ConfigFault.message : ConfigFault → String
  | noSlots => "num_slots must be non-zero"
  | currentSlot current numSlots =>
    s!"current_slot ({current.toNat}) must be less than num_slots ({numSlots.toNat})"
  | mountDir dir => "mount_dir must be absolute: " ++ dir.quote
  | statusFd fd => s!"status_fd must not be a standard stream: {fd}"

/-- Why there is no configuration. -/
inductive ConfigError where
  /-- The file cannot be read. -/
  | unreadable (path : Path) (cause : SystemError)
  /-- The text is no TOML, or has settings that are not known or of the wrong kind. -/
  | malformed (path : Path) (text : String) (fault : Toml.Fault)
  /-- The settings are unusable. -/
  | invalid (fault : ConfigFault)
  deriving Repr, DecidableEq

namespace ConfigError

/-- The name of a failure. -/
def name : ConfigError → String
  | unreadable _ _ => "Read"
  | malformed _ _ _ => "Parse"
  | invalid _ => "Invalid"

/-- The text of a failure. -/
def message : ConfigError → String
  | unreadable path _ => "Failed to read config: " ++ path.quote
  | malformed path _ _ => "Failed to parse config: " ++ path.quote
  | invalid fault => "Invalid config: " ++ fault.message

/-- The texts of what lies behind a failure. -/
def causes : ConfigError → List String
  | unreadable _ cause => [cause.text]
  | malformed _ text fault => [fault.render text.toList]
  | invalid _ => []

end ConfigError

/-! ## Values of settings -/

namespace Toml

/-- What a value is called where another kind is expected. -/
def Value.description : Value → String
  | .text s => "string " ++ Text.quote s
  | .integer n => "integer " ++ backquoted (toString n)
  | .fraction decimal => "floating point " ++ backquoted decimal
  | .truth b => "boolean " ++ backquoted (toString b)
  | .array _ | .tables _ => "sequence"
  | .table _ _ | .moment _ => "map"

namespace Placed

/-- The fault of a setting that cannot have a value, for a cause. -/
def refuse (v : Placed Value) (cause : Cause) : Fault := ⟨v.place, none, [], some cause⟩

/-- The fault of a setting that cannot have a value of its kind. -/
def refuseKind (v : Placed Value) (expected : String) : Fault :=
  v.refuse (.wrongKind v.value.description expected)

/-- A text. -/
def text (expected : String) (v : Placed Value) : Except Fault String :=
  match v.value with
  | .text s => .ok s
  | _ => .error (v.refuseKind expected)

/-- A path. -/
def path (v : Placed Value) : Except Fault Path :=
  (v.text "path string").map fun s => ⟨s⟩

/-- A truth value. -/
def truth (v : Placed Value) : Except Fault Bool :=
  match v.value with
  | .truth b => .ok b
  | _ => .error (v.refuseKind "a boolean")

/-- A whole number from `least` to `greatest`. -/
def integer (expected : String) (least greatest : Int) (v : Placed Value) : Except Fault Int :=
  match v.value with
  | .integer n =>
    if least ≤ n ∧ n ≤ greatest then .ok n
    else .error (v.refuse (.wrongValue v.value.description expected))
  | _ => .error (v.refuseKind expected)

/-- A number of 32 bits without a sign. -/
def word32 (v : Placed Value) : Except Fault UInt32 :=
  (v.integer "u32" 0 (UInt32.size - 1)).map fun n => UInt32.ofNat n.toNat

/-- A number of 64 bits without a sign. -/
def word64 (v : Placed Value) : Except Fault UInt64 :=
  (v.integer "u64" 0 (UInt64.size - 1)).map fun n => UInt64.ofNat n.toNat

/-- A number of 32 bits with a sign. -/
def signed32 (v : Placed Value) : Except Fault Int :=
  v.integer "i32" Int32.minValue.toInt Int32.maxValue.toInt

end Placed

/-- The name under which a date stands where a table is expected. -/
def momentName : String := "$__toml_private_datetime"

/-- A table of texts. A date is a table of its own. -/
def Placed.texts (v : Placed Value) : Except Fault (List (String × String)) :=
  match v.value with
  | .table _ es => es.mapM fun (name, v) => do return (name.value, ← v.text "a string")
  | .moment written => .ok [(momentName, written)]
  | _ => .error (v.refuseKind "a map")

end Toml

/-- Settings of one table: what they are called, their names in order, and how one of them is
set. -/
structure Settings (α : Type) where
  /-- What they are called. -/
  title : String
  /-- The names. -/
  names : List String
  /-- Set a value, unless it is of the wrong kind. Names that are not known change nothing. -/
  set : α → String → Toml.Placed Toml.Value → Except Toml.Fault α

namespace Settings

variable {α : Type}

/-- Settings from a table. A name that is not known is refused. -/
def applyTable (s : Settings α) (start : α) (es : Toml.Entries) : Except Toml.Fault α :=
  es.foldlM (fun c (name, v) =>
    -- Names are checked one by one, so the first fault in the text is the one reported.
    if s.names.contains name.value then s.set c name.value v
    else .error ⟨name.place, none, [], some (.unknownName name.value s.names)⟩) start

/-- Settings from values in the order of the names, of which later names may be left out. Further
values are ignored. -/
def applyList (s : Settings α) (start : α) (vs : List (Toml.Placed Toml.Value)) :
    Except Toml.Fault α :=
  (s.names.zip vs).foldlM (fun c (name, v) => s.set c name v) start

/-- Settings from a value: a table, or values in the order of the names. -/
def apply (s : Settings α) (start : α) (v : Toml.Placed Toml.Value) : Except Toml.Fault α :=
  match v.value with
  | .table _ es => s.applyTable start es
  | .array vs => s.applyList start vs
  | .tables ts => s.applyList start (ts.reverse.map fun t => ⟨.table .header t.value, t.place⟩)
  | .moment _ => .error (v.refuse (.unknownName Toml.momentName s.names))
  | _ => .error (v.refuseKind ("struct " ++ s.title))

end Settings

/-- The settings of the runner. -/
def PostinstallConfig.settings : Settings PostinstallConfig where
  title := "PostinstallConfig"
  names := ["mount_dir", "poll_interval_ms", "recovery", "status_fd"]
  set c name v := match name with
    | "mount_dir" => return { c with mountDir := ← v.path }
    | "poll_interval_ms" => return { c with pollIntervalMs := ← v.word64 }
    | "recovery" => return { c with recovery := ← v.truth }
    | "status_fd" => return { c with statusFd := ← v.signed32 }
    | _ => return c

/-- The settings of the host. -/
def DeviceConfig.settings : Settings DeviceConfig where
  title := "DeviceConfig"
  names := ["num_slots", "current_slot", "device_dir", "virtual_ab", "powerwash_file",
    "mount_options"]
  set c name v := match name with
    | "num_slots" => return { c with numSlots := ← v.word32 }
    | "current_slot" => return { c with currentSlot := ← v.word32 }
    | "device_dir" => return { c with deviceDir := ← v.path }
    | "virtual_ab" => return { c with virtualAb := ← v.truth }
    | "powerwash_file" => return { c with powerwashFile := some (← v.path) }
    | "mount_options" => return { c with mountOptions := ← v.texts }
    | _ => return c

namespace Config

/-- All settings. -/
def settings : Settings Config where
  title := "Config"
  names := ["postinstall", "device"]
  set c name v := match name with
    | "postinstall" =>
      return { c with postinstall := ← PostinstallConfig.settings.apply .default v }
    | "device" => return { c with device := ← DeviceConfig.settings.apply .default v }
    | _ => return c

/-- What makes settings unusable, if anything does. -/
def fault? (c : Config) : Option ConfigFault :=
  if c.device.numSlots = 0 then some .noSlots
  else if c.device.numSlots ≤ c.device.currentSlot then
    some (.currentSlot c.device.currentSlot c.device.numSlots)
  else if !c.postinstall.mountDir.isAbsolute then some (.mountDir c.postinstall.mountDir)
  else if c.postinstall.statusFd ≤ 2 then some (.statusFd c.postinstall.statusFd)
  else none

/-- The settings that a text writes, whether they are usable or not. -/
def read (text : String) : Except Toml.Fault Config := do
  settings.applyTable .default (← Toml.parse text)

/-- The settings that a text gives. `path` is where it comes from. -/
def parse (path : Path) (text : String) : Except ConfigError Config :=
  match read text with
  | .error fault => .error (.malformed path text fault)
  | .ok c => match c.fault? with
    | some fault => .error (.invalid fault)
    | none => .ok c

/-- The settings that a file gives. -/
def load (files : FileTree) (path : Path) : Except ConfigError Config :=
  match files.readText path with
  | .ok text => parse path text
  | .error e => .error (.unreadable path e)

end Config

end SlotUpdate
