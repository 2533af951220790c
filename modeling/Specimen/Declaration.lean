/-!
# Declarations

A declaration records what a type looks like: its kind, the members it holds, the constructors it
offers and the cases it has, and next to them how many samples of it are wanted. The types of members
and their category tokens are kept as text, so that a bad one is a matter of its declaration alone.

Declarations are built up from `Declaration.ofKind` by the `with…` operations.
-/

namespace Specimen

/-- How sample values are produced. -/
inductive Mode where
  /-- The same placeholders every time. -/
  | fixed
  /-- Calls to the data provider. -/
  | randomized
  deriving DecidableEq, Repr

namespace Mode

/-- The name of the mode. -/
def label : Mode → String
  | .fixed => "fixed"
  | .randomized => "randomized"

/-- The mode with a name; each has a second name. -/
def ofName? (name : String) : Option Mode :=
  if name = "fixed" ∨ name = "default" then some .fixed
  else if name = "randomized" ∨ name = "random" then some .randomized
  else none

end Mode

/-- What is declared. -/
inductive Kind where
  | struct
  | enum
  | union
  | trait
  | typeAlias
  deriving DecidableEq, Repr

namespace Kind

/-- Every kind. -/
def all : List Kind := [.struct, .enum, .union, .trait, .typeAlias]

/-- The name of the kind in a schema. -/
def name : Kind → String
  | .struct => "struct"
  | .enum => "enum"
  | .union => "union"
  | .trait => "trait"
  | .typeAlias => "type_alias"

/-- The name of the kind in messages. -/
def label : Kind → String
  | .typeAlias => "type alias"
  | kind => kind.name

/-- The kind with a name. -/
def ofName? (name : String) : Option Kind := all.find? fun kind => kind.name == name

/-- A name finds the kind it names. -/
theorem ofName?_name (kind : Kind) : ofName? kind.name = some kind := by
  cases kind <;> decide +kernel

end Kind

/-- How the value of a member is held. -/
inductive Accessor where
  | stored
  /-- Stored, and watched for changes. -/
  | observed
  /-- Worked out when asked for. -/
  | computed
  deriving DecidableEq, Repr

namespace Accessor

/-- The name of the accessor. -/
def name : Accessor → String
  | .stored => "stored"
  | .observed => "observed"
  | .computed => "computed"

/-- The accessor with a name. -/
def ofName? (name : String) : Option Accessor :=
  [stored, observed, computed].find? fun accessor => accessor.name == name

/-- Whether the member takes part in construction. -/
def isStored : Accessor → Bool
  | .stored | .observed => true
  | .computed => false

end Accessor

/-- A member of a struct. -/
structure Member where
  /-- The name, if the members are named. -/
  name : Option String
  type : String
  accessor : Accessor := .stored
  category : Option String := none
  deriving DecidableEq, Repr

/-- The name that reports use for the member at a position. -/
def Member.displayName (member : Member) (index : Nat) : String :=
  member.name.getD (toString index)

/-- A parameter of a constructor, or a part of the payload of a case. -/
structure Slot where
  name : Option String
  type : String
  deriving DecidableEq, Repr

/-- A constructor. -/
structure Constructor where
  name : String
  parameters : List Slot
  deriving DecidableEq, Repr

/-- A case of an enum. -/
structure Case where
  name : String
  payload : List Slot
  deriving DecidableEq, Repr

/-- How many samples are wanted, and in which mode. -/
structure Directive where
  count : Int
  mode : Option Mode := none
  deriving DecidableEq, Repr

/-- A declared type. -/
structure Declaration where
  name : String
  kind : Kind
  sample : Directive
  members : List Member := []
  constructors : List Constructor := []
  cases : List Case := []
  deriving DecidableEq, Repr

namespace Declaration

/-- A declaration without members, constructors and cases. -/
def ofKind (name : String) (kind : Kind) (count : Int) : Declaration :=
  { name, kind, sample := { count } }

/-- The declaration with a mode of its own. -/
def withMode (declaration : Declaration) (mode : Mode) : Declaration :=
  { declaration with sample := { declaration.sample with mode := some mode } }

/-- The declaration with one more member. -/
def withMember (declaration : Declaration) (member : Member) : Declaration :=
  { declaration with members := declaration.members ++ [member] }

/-- The declaration with one more constructor, given by the names and types of its parameters. -/
def withConstructor (declaration : Declaration) (name : String)
    (parameters : List (String × String)) : Declaration :=
  let slots := parameters.map fun (label, type) => ⟨some label, type⟩
  { declaration with constructors := declaration.constructors ++ [⟨name, slots⟩] }

/-- The declaration with one more case. -/
def withCase (declaration : Declaration) (name : String) (payload : List Slot) : Declaration :=
  { declaration with cases := declaration.cases ++ [⟨name, payload⟩] }

end Declaration

end Specimen
