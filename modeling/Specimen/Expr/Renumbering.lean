import Specimen.Expr

/-!
# Other numbers for identifiers

An identifier is written as a call with its number. The function is told by the last names of its path,
because what comes before these can be chosen. The expressions of identifiers can be given other
numbers, and all else of an expression stays (`Expr.renumbered`).
-/

namespace Specimen

open Source (Path)

namespace Source.Path

/-- The names of a path, from the left. -/
def names (path : Path) : List String := path.segments.map Segment.name

/-- Whether the last names of a path are given ones. -/
def endsWith (path : Path) (ends : List String) : Bool := ends.isSuffixOf path.names

/-- Whether the calls of a function make identifiers. -/
def makesIdentifier (callee : Path) : Bool := callee.endsWith ["Uuid", "from_u128"]

end Source.Path

namespace Expr

/-- Another number in place of a number. -/
def mapInteger (f : Nat → Nat) : Expr → Expr
  | .integer n => .integer (f n)
  | e => e

mutual

/-- An expression with other numbers for its identifiers. -/
def renumbered (f : Nat → Nat) : Expr → Expr
  | .integer n => .integer n
  | .float x => .float x
  | .bool b => .bool b
  | .text s => .text s
  | .path p => .path p
  | .call callee arguments =>
    .call callee
      (if callee.makesIdentifier then arguments.map (mapInteger f) else listRenumbered f arguments)
  | .method receiver name arguments => .method (renumbered f receiver) name (listRenumbered f arguments)
  | .list items => .list (listRenumbered f items)
  | .map pairs => .map (pairsRenumbered f pairs)
  | .braces p fields => .braces p (fieldsRenumbered f fields)
  | .firstSample type member => .firstSample type member

/-- Expressions with other numbers for their identifiers. -/
def listRenumbered (f : Nat → Nat) : List Expr → List Expr
  | [] => []
  | e :: es => renumbered f e :: listRenumbered f es

/-- The pairs of a map with other numbers for their identifiers. -/
def pairsRenumbered (f : Nat → Nat) : List (Expr × Expr) → List (Expr × Expr)
  | [] => []
  | (key, value) :: pairs => (renumbered f key, renumbered f value) :: pairsRenumbered f pairs

/-- Fields with other numbers for their identifiers. -/
def fieldsRenumbered (f : Nat → Nat) : List (FieldName × Expr) → List (FieldName × Expr)
  | [] => []
  | (name, value) :: fields => (name, renumbered f value) :: fieldsRenumbered f fields

end

end Expr

end Specimen
