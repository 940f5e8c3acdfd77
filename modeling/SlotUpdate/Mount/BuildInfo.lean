import SlotUpdate.Log
import SlotUpdate.Path
import SlotUpdate.Text.Blank

/-!
# Build properties

A mounted partition may hold properties of its build in one of a few files. Those that describe
the build itself are logged, under the name of the partition.
-/

namespace SlotUpdate.BuildInfo

/-- The files that may hold properties, relative to the root of a partition. -/
def files : List Path :=
  [⟨"build.prop"⟩, ⟨"etc/build.prop"⟩, ⟨"system/build.prop"⟩]

/-- What the lines of interest contain. -/
def key : List Char := "ro.build".toList

/-- Whether `key` stands anywhere in a list of characters. -/
def occurs (key : List Char) : List Char → Bool
  | [] => key.isEmpty
  | c :: cs => key.isPrefixOf (c :: cs) || occurs key cs

/-- Whether a line is of interest. -/
def isOfInterest (line : String) : Bool :=
  occurs key line.toList

/-- The messages about one file, by its text if it can be read. -/
def logLines (name : String) : Option String → List LogLine
  | none => []
  | some text => ((Text.lines text).filter isOfInterest).map fun l => .info (name ++ ": " ++ l)

end SlotUpdate.BuildInfo
