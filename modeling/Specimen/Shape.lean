import Specimen.Category
import Specimen.TypeRef

/-!
# Shapes

The shape of a type is what samples are made from: for a struct the parameters that it is constructed
with and the way it is constructed, for an enum its cases with their payloads. Types and categories
are read already, and everything keeps the order of the declaration.
-/

namespace Specimen

/-- A parameter of a construction, or a part of a payload. -/
structure Parameter where
  /-- The label, if it has one. -/
  name : Option String := none
  type : TypeRef
  category : Option Category := none
  deriving DecidableEq, Repr

/-- How a struct is constructed. -/
inductive Construction where
  /-- By calling a constructor. -/
  | constructor (name : String)
  /-- By giving its members, by position if `tuple` holds and else by name. -/
  | fields (tuple : Bool)
  deriving DecidableEq, Repr

/-- A case of an enum. -/
structure CaseShape where
  name : String
  payload : List Parameter := []
  deriving DecidableEq, Repr

/-- The shape of a type. -/
inductive Shape where
  | struct (name : String) (source : Construction) (parameters : List Parameter)
  | enum (name : String) (cases : List CaseShape)
  deriving DecidableEq, Repr

namespace Shape

/-- The name of the type. -/
def name : Shape → String
  | .struct name _ _ => name
  | .enum name _ => name

/-- All parameters: those of the struct, or those of all payloads. -/
def parameters : Shape → List Parameter
  | .struct _ _ parameters => parameters
  | .enum _ cases => cases.flatMap CaseShape.payload

/-- The paths of the types that a shape refers to, each once, in the order of their first
occurrences. -/
def references (shape : Shape) : List String :=
  (shape.parameters.flatMap fun p => p.type.references).eraseDups

end Shape

end Specimen
