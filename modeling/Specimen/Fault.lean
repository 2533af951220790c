import Specimen.Category
import Specimen.Declaration
import Specimen.Reasons

/-!
# Faults

Why no samples are made for a declaration. A fault tells what is wrong; where it is wrong is told by
the diagnostic that reports it.
-/

namespace Specimen

/-- A text that cannot stand in generated source as what it was read as. -/
inductive Refused where
  | name (text : String)
  | path (text : String)
  deriving DecidableEq, Repr

namespace Refused

/-- A text is read as a name unless something else is said. -/
instance : Coe String Refused := ⟨name⟩

/-- The text itself. -/
def text : Refused → String
  | .name text => text
  | .path text => text

/-- What its reader tells of it. -/
def reason? [Reasons] : Refused → Option String
  | .name text => Reasons.ofName text
  | .path text => Reasons.ofPath text

end Refused

/-- What keeps a declaration from having samples. -/
inductive Fault where
  /-- The declaration is neither a struct nor an enum. -/
  | notSampled (name : String) (kind : Kind)
  | countNotPositive (count : Int)
  | noCases
  /-- There are no samples of a type. -/
  | typeNotSupported (type : String)
  /-- The type of a member does not accept its category. -/
  | categoryMismatch (category : Category) (type : String)
  | categoryNotSupported (token : String)
  /-- A computed member has a category. -/
  | notStored
  /-- A type that is referred to has failed. -/
  | dependencyFailed (type : String)
  | cyclicReference (type path : String)
  /-- A text cannot stand as a name or a path in generated source. -/
  | invalidName (refused : Refused)
  deriving DecidableEq, Repr

namespace Fault

/-- The stable identifier of a fault. -/
def id : Fault → String
  | .notSampled _ _ => "not_a_struct_or_enum"
  | .countNotPositive _ => "argument_not_greater_than_zero"
  | .noCases => "enum_with_empty_cases"
  | .typeNotSupported _ => "type_not_supported"
  | .categoryMismatch _ _ => "category_mismatch"
  | .categoryNotSupported _ => "category_not_supported"
  | .notStored => "not_a_stored_member"
  | .dependencyFailed _ => "dependency_failed"
  | .cyclicReference _ _ => "cyclic_reference"
  | .invalidName _ => "invalid_name"

/-- The wording of a fault. -/
def message [Reasons] : Fault → String
  | .notSampled name kind =>
    "sample generation can only be applied to structs and enums, "
      ++ s!"'{name}' is a {kind.label}"
  | .countNotPositive count => s!"'count' argument must be greater than zero, found {count}"
  | .noCases => "enum must contain at least one case"
  | .typeNotSupported type => s!"'{type}' type is not supported"
  | .categoryMismatch category type =>
    s!"'{category.token}' category is not compatible with '{type}' type. "
      ++ s!"Use '{category.domain.expectedType}' type instead."
  | .categoryNotSupported token => s!"'{token}' is not a supported category"
  | .notStored => "category can only be applied to stored members"
  | .dependencyFailed type => s!"'{type}' has no sample collection to reference"
  | .cyclicReference type path => s!"'{type}' refers back to itself through {path}"
  | .invalidName refused =>
    s!"'{refused.text}' is not a valid Rust name" ++ Reasons.ending refused.reason?

end Fault

end Specimen
