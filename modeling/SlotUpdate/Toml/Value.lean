import SlotUpdate.Toml.Fault

/-!
# Settings and tables of a TOML document

A document is a table: names with their values, each name once. How a table came to be decides what
may be added to it later: a header opens a table that headers or dotted keys of deeper tables
implied, but not one that another header or a dotted key made. Names and values keep their places
in the text.
-/

namespace SlotUpdate.Toml

/-- How a table came to be. -/
inductive Origin where
  /-- It stands in braces. -/
  | braces
  /-- A header of its own opened it. -/
  | header
  /-- The header of a deeper table leads through it. -/
  | implied
  /-- A dotted key leads through it. -/
  | dotted
  deriving Repr, DecidableEq

/-- A value of a document. -/
inductive Value where
  /-- A text. -/
  | text (s : String)
  /-- A whole number. -/
  | integer (n : Int)
  /-- A number with a fraction or an exponent, or one that is not finite, as a decimal. -/
  | fraction (decimal : String)
  /-- A truth value. -/
  | truth (b : Bool)
  /-- A date, a time or both. -/
  | moment (written : String)
  /-- Values in brackets. -/
  | array (items : List (Placed Value))
  /-- Tables that headers in double brackets opened, the last one first. -/
  | tables (items : List (Placed (List (Placed String × Placed Value))))
  /-- A table: names and values. -/
  | table (origin : Origin) (entries : List (Placed String × Placed Value))

/-- The kind of a value that no key leads through. -/
def Value.kind : Value → String
  | .text _ => "string"
  | .integer _ => "integer"
  | .fraction _ => "float"
  | .truth _ => "boolean"
  | .moment _ => "datetime"
  | .array _ => "array"
  | .tables _ => "array of tables"
  | .table .braces _ => "inline table"
  | .table _ _ => "table"

/-- The names and values of a table. -/
abbrev Entries := List (Placed String × Placed Value)

/-- A name with dots: the names of the tables on the way, and the last one. -/
structure Key where
  /-- The names on the way. -/
  path : List (Placed String)
  /-- The last name. -/
  name : Placed String
  deriving Repr, DecidableEq

/-- The texts of names. -/
def namesOf (path : List (Placed String)) : List String := path.map (·.value)

namespace Entries

/-- The value of a name. -/
def get? (es : Entries) (name : String) : Option (Placed Value) :=
  (es.find? (·.1.value == name)).map (·.2)

/-- The entries without a name. -/
def erase (es : Entries) (name : String) : Entries := es.filter (·.1.value != name)

/-- The entries with another value of a name, which goes to the end if it is new. -/
def set (es : Entries) (name : Placed String) (v : Placed Value) : Entries :=
  if (es.get? name.value).isSome then
    es.map fun e => if e.1.value == name.value then (e.1, v) else e
  else es ++ [(name, v)]

/-- The stretch from the first of several tables to the last one, which comes first. -/
def stretchOf (place : Stretch) (items : List (Placed Entries)) : Stretch :=
  ⟨(items.getLast?.map (·.place.before)).getD place.before,
    (items.head?.map (·.place.after)).getD place.after⟩

/-- Several tables, the last one first, as the value of a name. -/
def tablesOf (place : Stretch) (items : List (Placed Entries)) : Placed Value :=
  ⟨.tables items, stretchOf place items⟩

/-- Add a value under a dotted key to a table, which came to be as `origin` says. `home` leads to
the table that the key starts from, if it does not stand in braces, and `passed` holds the names
before. Tables on the way that do not exist yet are made; the last one must be the work of dotted
keys, and the ones before it must not have a header of their own. -/
def addDotted (home : Option (List String)) (passed : List String) (origin : Origin)
    (name : Placed String) (v : Placed Value) :
    List (Placed String) → Entries → Except Cause Entries
  | [], es =>
    if passed ≠ [] ∧ origin ≠ .dotted then .error (.duplicate name.value none)
    else if (es.get? name.value).isSome then .error (.duplicate name.value home)
    else .ok (es.set name v)
  | key :: path, es => do
    let onward (origin : Origin) (inner : Entries) : Except Cause Entries :=
      addDotted home (passed ++ [key.value]) origin name v path inner
    let inner ← match es.get? key.value with
      | none => pure ⟨.table .dotted (← onward .dotted []), key.place⟩
      | some ⟨.table .dotted inner, place⟩ =>
        pure ⟨.table .dotted (← onward .dotted inner), place⟩
      | some ⟨.table .implied inner, place⟩ =>
        pure ⟨.table .implied (← onward .implied inner), place⟩
      | some ⟨.tables (last :: before), place⟩ =>
        pure (tablesOf place
          (⟨← onward .header last.value, last.place⟩ :: before))
      | some ⟨.table .header _, _⟩ => throw (.duplicate key.value none)
      | some other => match home, other.value with
        | none, .table .braces _ => throw (.duplicate key.value none)
        | _, value => throw (.notTable (passed ++ [key.value]) value.kind)
    return es.set key inner

/-- Change the table that the names of a header lead to, from the table where the path starts.
Tables on the way that do not exist yet are implied; of the tables that one name stands for the
last one counts. `passed` holds the names before. -/
def change (f : Placed Entries → Except Cause (Placed Entries)) (passed : List String) :
    List (Placed String) → Placed Entries → Except Cause (Placed Entries)
  | [], es => f es
  | key :: path, es => do
    let onward (inner : Placed Entries) : Except Cause (Placed Entries) :=
      change f (passed ++ [key.value]) path inner
    let inner ← match es.value.get? key.value with
      | none => do
        let changed ← onward ⟨[], key.place⟩
        pure ⟨.table .implied changed.value, changed.place⟩
      | some ⟨.tables (last :: before), place⟩ => do
        pure (tablesOf place ((← onward last) :: before))
      | some ⟨.table origin inner, place⟩ =>
        if origin = .braces then throw (.notTable (passed ++ [key.value]) "inline table")
        else do
          let changed ← onward ⟨inner, place⟩
          pure ⟨.table origin changed.value, changed.place⟩
      | some other => throw (.notTable (passed ++ [key.value]) other.value.kind)
    return ⟨es.value.set key inner, es.place⟩

/-- Open the table of a header: one that is new or was only implied. -/
def openTable (passed : List String) (name : Placed String) (header : Stretch) (es : Entries) :
    Except Cause Entries :=
  match (es.get? name.value).map (·.value) with
  | none => .ok (es ++ [(name, ⟨.table .header [], header⟩)])
  | some (.table .implied inner) =>
    .ok (es.erase name.value ++ [(name, ⟨.table .header inner, header⟩)])
  | some _ => .error (.duplicate name.value (some passed))

/-- Open one more table of a header in double brackets. -/
def openNext (passed : List String) (name : Placed String) (header : Stretch) (es : Entries) :
    Except Cause Entries :=
  match es.get? name.value with
  | none => .ok (es.set name (tablesOf header [⟨[], header⟩]))
  | some ⟨.tables items, place⟩ =>
    .ok (es.set name (tablesOf place (⟨[], header⟩ :: items)))
  | some _ => .error (.duplicate name.value (some passed))

end Entries

/-- A document that is being read: its table, and the names of the header that was read last. -/
structure Document where
  /-- The table of the document. -/
  root : Entries
  /-- The names that lead to the table which takes the next names. -/
  path : List (Placed String)

namespace Document

/-- A document of which nothing was read. -/
def empty : Document := ⟨[], []⟩

/-- Change the table that the names of a header lead to. -/
def change (d : Document) (path : List (Placed String))
    (f : Placed Entries → Except Cause (Placed Entries)) : Except Cause Entries :=
  (Entries.change f [] path ⟨d.root, ⟨0, 0⟩⟩).map (·.value)

/-- Add a value under a key. The table of the header reaches up to the end of the value. -/
def add (d : Document) (key : Key) (v : Placed Value) : Except Cause Document := do
  let root ← d.change d.path fun es => do
    let added ← es.value.addDotted (some (namesOf d.path)) [] .header key.name v key.path
    return ⟨added, { es.place with after := v.place.after }⟩
  return { d with root := root }

/-- Go on with the table of a header. -/
def openTable (d : Document) (key : Key) (header : Stretch) : Except Cause Document := do
  let root ← d.change key.path fun es => do
    return ⟨← es.value.openTable (namesOf key.path) key.name header, es.place⟩
  return ⟨root, key.path ++ [key.name]⟩

/-- Go on with one more table of a header in double brackets. -/
def openNext (d : Document) (key : Key) (header : Stretch) : Except Cause Document := do
  let root ← d.change key.path fun es => do
    return ⟨← es.value.openNext (namesOf key.path) key.name header, es.place⟩
  return ⟨root, key.path ++ [key.name]⟩

end Document

end SlotUpdate.Toml
