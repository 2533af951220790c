import Specimen.Scalar

/-!
# Type references

The type of a member or a parameter, as far as samples are made for it: a scalar, a list, a map, or a
reference to another declared type. `TypeRef.text` is the written form; `Specimen.TypeRef.Reader`
reads types from text and `Specimen.TypeRef.Fields` from their parts given by name.
-/

namespace Specimen

/-- Whether a map keeps its keys by hash or in order. -/
inductive MapKind where
  | hash
  | ordered
  deriving DecidableEq, Repr

namespace MapKind

/-- The name of the map type. -/
def typeName : MapKind → String
  | .hash => "HashMap"
  | .ordered => "BTreeMap"

/-- The map type with the given name. -/
def ofTypeName? (name : String) : Option MapKind :=
  if name = "HashMap" then some .hash else if name = "BTreeMap" then some .ordered else none

end MapKind

/-- A type that samples can be made for. -/
inductive TypeRef where
  | scalar (kind : ScalarKind)
  | array (element : TypeRef)
  | mapping (kind : MapKind) (key value : TypeRef)
  /-- A declared type, by the path it is referred to with. -/
  | reference (path : String)
  deriving DecidableEq, Repr

namespace TypeRef

/-- The kind of a scalar. -/
def scalar? : TypeRef → Option ScalarKind
  | .scalar kind => some kind
  | _ => none

/-- The innermost type of lists and of the values of maps, which a category applies to. -/
def leaf : TypeRef → TypeRef
  | .array element => element.leaf
  | .mapping _ _ value => value.leaf
  | type => type

/-- The paths of all references in a type, from left to right. -/
def references : TypeRef → List String
  | .scalar _ => []
  | .array element => element.references
  | .mapping _ key value => key.references ++ value.references
  | .reference path => [path]

/-- The written form of a type. -/
def text : TypeRef → String
  | .scalar kind => kind.typeName
  | .array element => s!"Vec<{element.text}>"
  | .mapping kind key value => s!"{kind.typeName}<{key.text}, {value.text}>"
  | .reference path => path

instance : ToString TypeRef := ⟨text⟩

/-- A leaf is a scalar or a reference. -/
theorem leaf_eq (type : TypeRef) :
    (∃ kind, type.leaf = .scalar kind) ∨ ∃ path, type.leaf = .reference path := by
  induction type with
  | scalar kind => exact .inl ⟨kind, rfl⟩
  | array _ ih => exact ih
  | mapping _ _ _ _ ih => exact ih
  | reference path => exact .inr ⟨path, rfl⟩

end TypeRef

end Specimen
