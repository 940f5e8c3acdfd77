/-!
# Arithmetic of the shell

Whole numbers of 64 bits, which wrap around, with the usual operators. `evaluate?` fails where the
expression is malformed or divides by zero.
-/

namespace SlotUpdate.Shell.Arithmetic

/-- A number as 64 bits with a sign hold it. -/
def wrap (n : Int) : Int := Int.bmod n UInt64.size

/-- One for truth and zero otherwise. -/
def truth (b : Bool) : Int := if b then 1 else 0

/-- The operators with two operands by how tight they bind, the loosest first; within one group a
longer symbol stands before its beginnings. -/
def operators : List (List (String × (Int → Int → Option Int))) :=
  [[("||", fun a b => some (truth (a ≠ 0 || b ≠ 0)))],
   [("&&", fun a b => some (truth (a ≠ 0 && b ≠ 0)))],
   [("==", fun a b => some (truth (a = b))), ("!=", fun a b => some (truth (a ≠ b)))],
   [("<=", fun a b => some (truth (a ≤ b))), (">=", fun a b => some (truth (a ≥ b))),
    ("<", fun a b => some (truth (a < b))), (">", fun a b => some (truth (a > b)))],
   [("+", fun a b => some (wrap (a + b))), ("-", fun a b => some (wrap (a - b)))],
   [("*", fun a b => some (wrap (a * b))),
    ("/", fun a b => if b = 0 then none else some (wrap (a.tdiv b))),
    ("%", fun a b => if b = 0 then none else some (a.tmod b))]]

/-- A text without the blanks at its front. -/
def skipBlanks (cs : List Char) : List Char :=
  cs.dropWhile Char.isWhitespace

/-- The text after a symbol at its front. -/
def afterSymbol? (symbol : List Char) (cs : List Char) : Option (List Char) :=
  if symbol.isPrefixOf cs then some (cs.drop symbol.length) else none

/-- The number of decimal digits. -/
def digitsValue (ds : List Char) : Int :=
  wrap (ds.foldl (fun n d => 10 * n + (d.toNat - '0'.toNat)) 0)

/-- The number that a text writes, if it writes one. -/
def number? (s : String) : Option Int :=
  let digits? (ds : List Char) : Option Int :=
    if ds ≠ [] ∧ ds.all Char.isDigit then some (digitsValue ds) else none
  match s.toList with
  | '-' :: ds => (digits? ds).map fun n => wrap (-n)
  | ds => digits? ds

mutual

/-- Read an expression whose operators are those of the groups. The number bounds how many steps
are taken. -/
def expression (lookup : String → String) :
    Nat → List (List (String × (Int → Int → Option Int))) → List Char → Option (Int × List Char)
  | 0, _, _ => none
  | fuel + 1, [], cs => operand lookup fuel (skipBlanks cs)
  | fuel + 1, group :: tighter, cs => do
    let (a, rest) ← expression lookup fuel tighter cs
    operations lookup fuel group tighter a (skipBlanks rest)

/-- Read the operations of one group that follow their first operand. -/
def operations (lookup : String → String) :
    Nat → List (String × (Int → Int → Option Int)) →
      List (List (String × (Int → Int → Option Int))) → Int → List Char → Option (Int × List Char)
  | 0, _, _, _, _ => none
  | fuel + 1, group, tighter, a, cs =>
    match group.findSome? fun (symbol, f) =>
        (afterSymbol? symbol.toList cs).map fun rest => (f, rest) with
    | none => some (a, cs)
    | some (f, rest) => do
      let (b, rest) ← expression lookup fuel tighter rest
      operations lookup fuel group tighter (← f a b) (skipBlanks rest)

/-- Read a number, a variable, an operand with a sign, or an expression in parentheses. -/
def operand (lookup : String → String) : Nat → List Char → Option (Int × List Char)
  | 0, _ => none
  | fuel + 1, '(' :: rest => do
    let (n, rest) ← expression lookup fuel operators rest
    match skipBlanks rest with
    | ')' :: rest => return (n, rest)
    | _ => none
  | fuel + 1, '-' :: rest =>
    (operand lookup fuel (skipBlanks rest)).map fun (n, r) => (wrap (-n), r)
  | fuel + 1, '+' :: rest => operand lookup fuel (skipBlanks rest)
  | fuel + 1, '!' :: rest =>
    (operand lookup fuel (skipBlanks rest)).map fun (n, r) => (truth (n = 0), r)
  | _, c :: rest =>
    if c.isDigit then
      some (digitsValue (c :: rest.takeWhile Char.isDigit), rest.dropWhile Char.isDigit)
    else if c.isAlpha || c == '_' then
      let isNameChar (c : Char) : Bool := c.isAlphanum || c == '_'
      let name := String.ofList (c :: rest.takeWhile isNameChar)
      some ((number? (lookup name)).getD 0, rest.dropWhile isNameChar)
    else none
  | _, [] => none

end

/-- The value of an expression, where `lookup` gives the values of variables. -/
def evaluate? (lookup : String → String) (s : String) : Option Int :=
  let cs := skipBlanks s.toList
  if cs = [] then some 0
  else match expression lookup (16 * (cs.length + 1)) operators cs with
    | some (n, rest) => if skipBlanks rest = [] then some n else none
    | none => none

end SlotUpdate.Shell.Arithmetic
