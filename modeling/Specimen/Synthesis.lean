import Specimen.Expr
import Specimen.Identifiers
import Specimen.Shape
import Specimen.Targets

/-!
# Values of samples

Every type has one way to be filled. A scalar becomes a placeholder or a call of the data provider,
depending on the mode; a list gets one element and a map one pair; a reference becomes the first sample
of the type it refers to, which has to have samples.

A category goes to the innermost values, but never to the keys of a map. Identifiers get numbers one
after the other, and a number that has been taken stays taken when a later part fails, so a failure
carries the counter as well.
-/

namespace Specimen

/-- A computation that takes identifier numbers and may fail. -/
abbrev Synthesis (α : Type) := ExceptT Fault (StateM Identifiers) α

/-- Whether a type that is referred to has samples. -/
inductive ReferenceStatus where
  | available
  /-- The type is known, but there are no samples of it. -/
  | failed
  | unknown
  deriving DecidableEq, Repr

/-- What the values of a type are made with. -/
structure Surroundings where
  mode : Mode
  targets : Targets
  status : String → ReferenceStatus

namespace Synthesis

/-- A result that needs no identifiers. -/
def ofExcept {α : Type} : Except Fault α → Synthesis α
  | .ok a => pure a
  | .error fault => throw fault

/-- Takes the number of the next identifier. -/
def identifier : Synthesis Nat := modifyGet Identifiers.take

end Synthesis

/-! ## Scalars -/

/-- The placeholder of texts. -/
def placeholderText : String := "Hello World"

/-- The placeholder of addresses. -/
def placeholderUrl : String := "https://www.rust-lang.org"

/-- A name inside the data provider. -/
def Targets.item (targets : Targets) (names : List String) : Source.Path :=
  targets.dataCrate.join names

/-- The placeholder of a kind. -/
def placeholder (kind : ScalarKind) (targets : Targets) : Synthesis Expr :=
  match kind with
  | .int | .int8 | .int16 | .int32 | .int64 => return .integer 0
  | .uint | .uint8 | .uint16 | .uint32 | .uint64 => return .integer 0
  | .float32 | .float64 => return .float 0
  | .text => return .call ((Source.Path.ofName "String").join ["from"]) [.text placeholderText]
  | .bool => return .bool true
  | .bytes => return .call ((Source.Path.ofName "Vec").join ["new"]) []
  | .dateTime => return .path (targets.item ["DateTime", "UNIX_EPOCH"])
  | .uuid => do
    let number ← Synthesis.identifier
    return .call (targets.item ["Uuid", "from_u128"]) [.integer number]
  | .url => return .call (targets.item ["Url", "from_static"]) [.text placeholderUrl]
  | .point | .rect | .size | .vector => return .call (targets.item [kind.typeName, "default"]) []

/-- A category in generated source. -/
def categoryExpr (category : Category) (targets : Targets) : Expr :=
  let path := targets.item ["Category", category.variantName]
  match category with
  | .image width height =>
    .braces path [(.named "width", .integer width.toNat), (.named "height", .integer height.toNat)]
  | _ => .path path

/-- A call of the data provider for a value of a kind. The category is passed on to the kinds that
take categories. -/
def providerCall (kind : ScalarKind) (category : Option Category) (targets : Targets) : Expr :=
  let argument := match category.filter fun _ => kind.domain?.isSome with
    | some category => Expr.call (.ofName "Some") [categoryExpr category targets]
    | none => .path (.ofName "None")
  .method (.call (targets.item ["DataGenerator", "random"]) [argument]) kind.methodName []

/-! ## All types -/

/-- The value of a reference. -/
def referenceExpr (path : String) (surroundings : Surroundings) : Except Fault Expr :=
  match surroundings.status path with
  | .available =>
    (readPath path).map fun type => .firstSample type surroundings.targets.member
  | .failed => .error (.dependencyFailed path)
  | .unknown => .error (.typeNotSupported path)

/-- The value of a type. -/
def synthesize (surroundings : Surroundings) : TypeRef → Option Category → Synthesis Expr
  | .scalar kind, category =>
    match surroundings.mode with
    | .fixed => placeholder kind surroundings.targets
    | .randomized => return providerCall kind category surroundings.targets
  | .array element, category => do
    let element ← synthesize surroundings element category
    return .list [element]
  | .mapping _ key value, category => do
    let key ← synthesize surroundings key none
    let value ← synthesize surroundings value category
    return .map [(key, value)]
  | .reference path, _ => Synthesis.ofExcept (referenceExpr path surroundings)

/-- The value of a parameter. -/
def Parameter.synthesize (parameter : Parameter) (surroundings : Surroundings) : Synthesis Expr :=
  Specimen.synthesize surroundings parameter.type parameter.category

end Specimen
