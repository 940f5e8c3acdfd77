import SlotUpdate.ErrorCode
import SlotUpdate.Boot.Device

/-!
# Payload properties

A payload comes with properties: lines of a key, an equals sign and a value. `Properties.read`
accepts lines with unique keys. The properties are kept in the order of their keys, so what was
read does not depend on the order of the lines.
-/

namespace SlotUpdate

/-- Why there is no plan. -/
inductive PlanError where
  /-- A line of the properties has no equals sign. -/
  | invalidLine (line : String)
  /-- A key of the properties stands twice. -/
  | duplicate (key : String)
  /-- The value of a property is malformed. -/
  | invalidValue (key value : String)
  /-- The size of a partition is no multiple of the block size. -/
  | unaligned (partition : String) (size : UInt64) (blockSize : UInt32)
  /-- The manifest lacks the partition. -/
  | missingPartition (partition : String)
  /-- The partition has no program. -/
  | noProgram (partition : String)
  /-- The partition has no device. -/
  | device (partition : String) (cause : BootError)
  deriving Repr, DecidableEq

namespace PlanError

/-- The name of a failure. -/
def name : PlanError → String
  | invalidLine _ => "InvalidPropertiesLine"
  | duplicate _ => "DuplicateProperty"
  | invalidValue _ _ => "InvalidProperty"
  | unaligned _ _ _ => "InvalidPartitionSize"
  | missingPartition _ => "MissingPartition"
  | noProgram _ => "NoPostinstallProgram"
  | device _ _ => "PartitionDevice"

/-- The text of a failure. -/
def message : PlanError → String
  | invalidLine line => "Invalid payload properties line: " ++ Text.quote line
  | duplicate key => "Duplicate payload property: " ++ Text.quote key
  | invalidValue key value =>
    s!"Invalid value for payload property {Text.quote key}: {Text.quote value}"
  | unaligned partition size blockSize =>
    s!"Size of {partition} ({size.toNat}) is not aligned to the block size ({blockSize.toNat})"
  | missingPartition partition => "Partition not found in manifest: " ++ partition
  | noProgram partition => s!"Partition {partition} does not have a postinstall program"
  | device partition _ => "Failed to find device for partition " ++ partition

/-- The code that a failure is reported with. -/
def errorCode : PlanError → ErrorCode
  | missingPartition _ | noProgram _ => .downloadStateInitializationError
  | unaligned _ _ _ | device _ _ => .downloadManifestParseError
  | _ => .error

/-- The texts of what lies behind a failure, the nearest first. -/
def causes : PlanError → List String
  | device _ cause => cause.message :: cause.causes
  | _ => []

end PlanError

/-- Properties, in the order of their keys. -/
structure Properties where
  /-- The keys and values. -/
  entries : List (String × String)
  deriving Repr, DecidableEq

namespace Properties

/-- The value of a key. -/
def get? (p : Properties) (key : String) : Option String :=
  (p.entries.find? (·.1 == key)).map (·.2)

/-- Put a pair before the first pair of a greater key. -/
def insertSorted (key value : String) : List (String × String) → List (String × String)
  | [] => [(key, value)]
  | e :: rest => if key < e.1 then (key, value) :: e :: rest else e :: insertSorted key value rest

/-- Add a property whose key is new. -/
def insert (p : Properties) (key value : String) : Properties :=
  ⟨insertSorted key value p.entries⟩

/-- A line without the carriage returns at its end. -/
def trimLine (line : List Char) : List Char :=
  (line.reverse.dropWhile (· == '\r')).reverse

/-- The key and the value of a line: what stands before and after the first equals sign. -/
def splitLine? (line : List Char) : Option (String × String) :=
  match line.dropWhile (· != '=') with
  | [] => none
  | _ :: value => some (String.ofList (line.takeWhile (· != '=')), String.ofList value)

/-- Read lines on top of properties that were read before. -/
def readFrom (p : Properties) : List String → Except PlanError Properties
  | [] => .ok p
  | line :: rest =>
    match trimLine line.toList with
    | [] => readFrom p rest
    -- A value may hold further equals signs.
    | cs => match splitLine? cs with
      | none => .error (.invalidLine (String.ofList cs))
      | some (key, value) =>
        if (p.get? key).isSome then .error (.duplicate key)
        else readFrom (p.insert key value) rest

/-- The properties that lines give. -/
def read (lines : List String) : Except PlanError Properties :=
  readFrom ⟨[]⟩ lines

/-! ## Values -/

/-- The value of a text of decimal digits, with an optional plus sign, that fits a word. -/
def word? (s : String) : Option UInt64 :=
  let ds := match s.toList with
    | '+' :: rest => rest
    | cs => cs
  if ds ≠ [] ∧ ds.all Char.isDigit then
    let n := ds.foldl (fun n d => 10 * n + (d.toNat - 48)) 0
    if n < UInt64.size then some (UInt64.ofNat n) else none
  else none

/-- The value of a switch: zero or one. All else means that the usual value holds. -/
def switch (value : Option String) (usual : Bool) : Bool :=
  match value with
  | some "0" => false
  | some "1" => true
  | _ => usual

end Properties

end SlotUpdate
