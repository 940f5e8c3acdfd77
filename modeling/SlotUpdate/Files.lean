import SlotUpdate.Path
import SlotUpdate.SystemError
import SlotUpdate.Text.Utf8

/-!
# Files

A tree of files, as calls of the operating system see it: opening, reading, writing and removing
answer what the file holds or why the call fails. Entries are known by their place below the working
directory or below the root; only those below the working directory can be changed.
-/

namespace SlotUpdate

/-- What stands at a place of the tree. -/
inductive FileEntry where
  /-- A file and its contents. -/
  | file (contents : Bytes)
  /-- A directory. -/
  | directory
  /-- A device that reads as an empty file. -/
  | device
  deriving Repr, DecidableEq

/-- A tree of files: the entries by their place. -/
structure FileTree where
  /-- The entries below the working directory, by the names from there. -/
  entries : List (List String × FileEntry)
  /-- The entries that are known by the names from the root. -/
  rooted : List (List String × FileEntry)
  deriving Repr, DecidableEq

namespace FileTree

/-- Where a walk through the tree stands. -/
inductive Place where
  /-- Below the root of the system, by names. -/
  | system (names : List String)
  /-- Above the working directory, at an unknown place. -/
  | above
  /-- Below the working directory, by names. -/
  | below (names : List String)
  deriving Repr, DecidableEq

/-- The longest name of an entry in bytes. -/
def maxNameLength : Nat := 255

/-- The length in bytes that paths stay below. -/
def maxPathLength : Nat := 4096

/-- The entries that every system has, by the names from the root. -/
def systemEntries : List (List String × FileEntry) :=
  [([], .directory), (["dev"], .directory), (["dev", "null"], .device), (["bin"], .directory),
   (["bin", "sh"], .device), (["etc"], .directory), (["lib"], .directory), (["proc"], .directory),
   (["sys"], .directory), (["tmp"], .directory), (["usr"], .directory),
   (["usr", "bin"], .directory), (["usr", "lib"], .directory), (["var"], .directory)]

/-- An empty working directory. -/
def empty : FileTree := ⟨[], systemEntries⟩

/-- The entry below the working directory. -/
def entryBelow? (t : FileTree) : List String → Option FileEntry
  | [] => some .directory
  | names => (t.entries.find? (·.1 == names)).map (·.2)

/-- The entry at a place. -/
def entryAt? (t : FileTree) : Place → Option FileEntry
  | .system names => (t.rooted.find? (·.1 == names)).map (·.2)
  | .above => some .directory
  | .below names => t.entryBelow? names

/-- The place one step up. -/
def Place.up : Place → Place
  | .system names => .system names.dropLast
  | .above => .above
  | .below [] => .above
  | .below names => .below names.dropLast

/-- The place of an entry of a directory. -/
def Place.child (name : String) : Place → Option Place
  | .system names => some (.system (names ++ [name]))
  | .above => none
  | .below names => some (.below (names ++ [name]))

/-- One step of a walk from a directory. -/
def step (here : Place) (part : String) : Except SystemError Place :=
  if part = "." then .ok here
  else if part = ".." then .ok here.up
  else if maxNameLength < part.utf8ByteSize then .error .nameTooLong
  else match here.child part with
    | some place => .ok place
    | none => .error .noEntry

/-- Walk along the parts of a path. All but the last must lead to directories; the last one need
not exist. -/
def walk (t : FileTree) (here : Place) : List String → Except SystemError Place
  | [] => .ok here
  | part :: rest => do
    match t.entryAt? here with
    | some .directory => walk t (← step here part) rest
    | some _ => throw .notDirectory
    | none => throw .noEntry

/-- Where a path leads. The last part of a path that ends in a slash must be a directory. -/
def locate (t : FileTree) (p : Path) : Except SystemError Place := do
  if p.text.toList.contains '\x00' then throw .nulInName
  if p.text = "" then throw .noEntry
  if maxPathLength ≤ p.text.utf8ByteSize then throw .nameTooLong
  let place ← t.walk (if p.isAbsolute then .system [] else .below []) p.parts
  if p.text.toList.getLast? = some '/' then
    match t.entryAt? place with
    | some .directory => return place
    | some _ => throw .notDirectory
    | none => return place
  else return place

/-- What a path names. -/
def stat (t : FileTree) (p : Path) : Except SystemError FileEntry := do
  match t.entryAt? (← t.locate p) with
  | some e => return e
  | none => throw .noEntry

/-- Whether a path names something. -/
def hasPath (t : FileTree) (p : Path) : Bool :=
  match t.stat p with
  | .ok _ => true
  | .error _ => false

/-- The contents of the file at a path. Opening a directory succeeds, but reading it does not. -/
def read (t : FileTree) (p : Path) : Except SystemError Bytes := do
  match ← t.stat p with
  | .file contents => return contents
  | .directory => throw .isDirectory
  | .device => return []

/-- The text of the file at a path. -/
def readText (t : FileTree) (p : Path) : Except SystemError String := do
  match Utf8.decode? (← t.read p) with
  | some s => return s
  | none => throw .notText

/-- Put an entry at a place below the working directory. -/
def insert (t : FileTree) (names : List String) (e : FileEntry) : FileTree :=
  { t with entries := t.entries.filter (·.1 != names) ++ [(names, e)] }

/-- Take the entry of a place away. -/
def erase (t : FileTree) (names : List String) : FileTree :=
  { t with entries := t.entries.filter (·.1 != names) }

/-- Put an entry at a place and directories on the way to it. -/
def insertWithParents (t : FileTree) (names : List String) (e : FileEntry) : FileTree :=
  let parents := (List.range names.length).tail.map names.take
  (parents.foldl (fun t d => if (t.entryBelow? d).isSome then t else t.insert d .directory)
    t).insert names e

/-- Put an entry at a path, which names no directory above another one. Directories on the way are
added where they are missing. -/
def insertAt (t : FileTree) (p : Path) (e : FileEntry) : FileTree :=
  let names := p.parts.filter (· ≠ ".")
  if names.contains ".." then t
  else if p.isAbsolute then
    { t with rooted := ((FileTree.mk t.rooted []).insertWithParents names e).entries }
  else t.insertWithParents names e

/-- Write a file, which takes the place of what it held. -/
def write (t : FileTree) (p : Path) (contents : Bytes) : Except SystemError FileTree := do
  let place ← t.locate p
  match t.entryAt? place, place with
  | some .directory, _ => throw .isDirectory
  | some .device, _ => return t
  | _, .below names =>
    if p.text.toList.getLast? = some '/' then throw .isDirectory
    else return t.insert names (.file contents)
  | _, _ => throw .denied

/-- Remove a file. -/
def remove (t : FileTree) (p : Path) : Except SystemError FileTree := do
  let place ← t.locate p
  match t.entryAt? place, place with
  | none, _ => throw .noEntry
  | some .directory, _ => throw .isDirectory
  | some _, .below names => return t.erase names
  | some _, _ => throw .denied

end FileTree

end SlotUpdate
