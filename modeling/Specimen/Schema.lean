import Specimen.Declaration
import Specimen.TypeKey

/-!
# Schemas

A schema is the list of declarations that samples are made for, in the order in which they are made,
with the defaults that hold for all of them and the types from elsewhere that have samples already.
No two declarations of a schema have the same name: `Schema.ofParts` refuses a list in which a name
comes back, so the name is enough to find a declaration.

Main statement: in the list of declarations, a name finds the declaration that has it
(`find?_name_of_mem`).
-/

namespace Specimen

/-- What holds for all declarations of a schema. -/
structure Defaults where
  /-- The mode of a declaration that has none of its own. -/
  mode : Mode := .randomized
  /-- The name of the generated function. -/
  member : String := "sample"
  /-- The path of the data provider in generated source. -/
  dataCrate : String := "::sample_data"
  deriving DecidableEq, Repr

/-- A set of declarations with different names. -/
structure Schema where
  version : Nat := 1
  defaults : Defaults := {}
  /-- Types that have samples already. -/
  externalTypes : List String := []
  types : List Declaration
  distinct : (types.map Declaration.name).Nodup

namespace Schema

/-- Why there is no schema, or no declaration in it. -/
inductive Error where
  /-- The text cannot be had. -/
  | unreadable (reason : String)
  /-- The text is no schema. -/
  | malformed
  | duplicateType (name : String)
  | typeNotFound (name : String)
  deriving DecidableEq, Repr

/-- The wording of an error. -/
def Error.message : Error → String
  | .unreadable reason => s!"Failed to read schema file: {reason}"
  | .malformed => "Failed to parse YAML"
  | .duplicateType name => s!"Type '{name}' is declared more than once"
  | .typeNotFound name => s!"Type not found: {name}"

/-- The first name of a list that was there before. -/
def firstRepeated? : (seen : List String) → List String → Option String
  | _, [] => none
  | seen, name :: names =>
    if seen.contains name then some name else firstRepeated? (name :: seen) names

/-- The schema of some declarations, unless a name comes back. -/
def ofParts (version : Nat) (defaults : Defaults) (externalTypes : List String)
    (types : List Declaration) : Except Error Schema :=
  if h : (types.map Declaration.name).Nodup then
    .ok ⟨version, defaults, externalTypes, types, h⟩
  else .error (.duplicateType ((firstRepeated? [] (types.map Declaration.name)).getD ""))

/-- The schema of some declarations, all else as by default. -/
def ofTypes (types : List Declaration) : Except Error Schema := ofParts 1 {} [] types

/-- The schema with more types that have samples already. -/
def withExternalTypes (schema : Schema) (names : List String) : Schema :=
  { schema with externalTypes := schema.externalTypes ++ names }

/-- The schema with another name for the generated function and another data provider. -/
def withTargets (schema : Schema) (member dataCrate : Option String) : Schema :=
  { schema with
    defaults := { schema.defaults with
      member := member.getD schema.defaults.member
      dataCrate := dataCrate.getD schema.defaults.dataCrate } }

/-- The declaration that a path refers to. -/
def find? (schema : Schema) (path : String) : Option Declaration :=
  schema.types.find? fun declaration => declaration.name == typeKey path

/-- The declaration that a path refers to; it has to be there. -/
def require (schema : Schema) (path : String) : Except Error Declaration :=
  match schema.find? path with
  | some declaration => .ok declaration
  | none => .error (.typeNotFound path)

/-- The names of all declarations. -/
def typeNames (schema : Schema) : List String := schema.types.map Declaration.name

/-- Whether a path refers to a type that has samples already. -/
def isExternal (schema : Schema) (path : String) : Bool :=
  schema.externalTypes.any fun external => typeKey external == typeKey path

/-- The mode that a declaration is sampled in. -/
def modeOf (schema : Schema) (declaration : Declaration) : Mode :=
  declaration.sample.mode.getD schema.defaults.mode

/-- Among declarations with different names, a name finds the declaration that has it. -/
theorem find?_name_of_mem {types : List Declaration}
    (distinct : (types.map Declaration.name).Nodup) {declaration : Declaration}
    (h : declaration ∈ types) :
    types.find? (fun other => other.name == declaration.name) = some declaration := by
  induction types with
  | nil => simp at h
  | cons other types ih =>
    simp only [List.map_cons, List.nodup_cons, List.mem_map, not_exists, not_and] at distinct
    rcases List.mem_cons.mp h with rfl | h
    · simp
    · have hne : other.name ≠ declaration.name :=
        fun heq => distinct.1 declaration h heq.symm
      rw [List.find?_cons_of_neg (by simpa using hne)]
      exact ih distinct.2 h

end Schema

end Specimen
