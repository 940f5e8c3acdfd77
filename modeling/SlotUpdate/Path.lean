import SlotUpdate.Text.Quoted

/-!
# Paths

A path is a text with its parts between slashes. Two paths with the same components name the same
place, so comparing and sorting go by components: empty parts do not count, nor does a dot that is
not the first part.
-/

namespace SlotUpdate

/-- A path of a file or directory. -/
structure Path where
  /-- Its text. -/
  text : String
  deriving Repr, DecidableEq, Inhabited

namespace Path

/-- A component of a path, in the order in which components are sorted. -/
inductive Component where
  /-- The root directory, at the front. -/
  | root
  /-- The directory where the path starts, at the front. -/
  | current
  /-- The directory above. -/
  | parent
  /-- The entry of this name. -/
  | normal (name : String)
  deriving Repr, DecidableEq

/-- The parts of a path between its slashes, without empty ones. -/
def parts (p : Path) : List String :=
  ((p.text.toList.splitOn '/').filter (· ≠ [])).map String.ofList

/-- Whether a path starts at the root. -/
def isAbsolute (p : Path) : Bool :=
  p.text.toList.head? == some '/'

/-- The component that a part is, if it counts. -/
def Component.ofPart? (part : String) : Option Component :=
  if part = "." then none
  else if part = ".." then some .parent
  else some (.normal part)

/-- The components of a path. -/
def components (p : Path) : List Component :=
  let rest := p.parts.filterMap Component.ofPart?
  if p.isAbsolute then .root :: rest
  else if p.parts.head? = some "." then .current :: rest
  else rest

/-- A path relative to another one. An absolute path stays as it is. -/
def join (base p : Path) : Path :=
  if p.isAbsolute then p
  else if base.text = "" ∨ base.text.toList.getLast? = some '/' then ⟨base.text ++ p.text⟩
  else ⟨base.text ++ "/" ++ p.text⟩

/-- Whether the components of `base` come first in `p`. -/
def startsWith (p base : Path) : Bool :=
  base.components.isPrefixOf p.components

/-- Whether two paths have the same components. -/
def same (p q : Path) : Bool :=
  p.components == q.components

/-- The place of a component among the kinds of component. -/
def Component.rank : Component → Nat
  | .root => 0
  | .current => 1
  | .parent => 2
  | .normal _ => 3

/-- Whether a component sorts before another one; names sort by their characters. -/
def Component.before : Component → Component → Bool
  | .normal a, .normal b => a < b
  | a, b => a.rank < b.rank

/-- Whether a path sorts before another one or with it. -/
def sortsBefore (p q : Path) : Bool :=
  !go q.components p.components
where
  /-- Whether one list of components sorts strictly before another one. -/
  go : List Component → List Component → Bool
    | _, [] => false
    | [], _ :: _ => true
    | a :: as, b :: bs => a.before b || (a == b && go as bs)

/-- The quoted text of a path. -/
def quote (p : Path) : String :=
  Text.quote p.text

end Path

end SlotUpdate
