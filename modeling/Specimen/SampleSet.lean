import Specimen.Synthesis

/-!
# Sample sets

The samples of one type: as many as its declaration asks for, each made from the shape of the type on
its own. The samples of a struct are all made in the same way, those of an enum take its cases in turn.

A value with named fields is written in braces. If only some of the parts of a payload have names, the
others go by their position.
-/

namespace Specimen

/-- The samples of a type. -/
structure SampleSet where
  typeName : String
  typePath : Source.Path
  /-- The name of the function that gives the samples. -/
  member : String
  samples : List Expr

namespace SampleSet

/-- An item of the type whose samples are made. -/
def selfItem (name : String) : Except Fault Source.Path :=
  (readName name).map fun name => Expr.selfPath.join [name]

/-- The name of the field at a position. -/
def fieldName (name : Option String) (index : Nat) : Except Fault FieldName :=
  match name with
  | some name => (readName name).map .named
  | none => .ok (.position index)

/-- The values of parameters. -/
def arguments (surroundings : Surroundings) (parameters : List Parameter) :
    Synthesis (List Expr) :=
  parameters.mapM fun parameter => parameter.synthesize surroundings

/-- The value of the field at a position. -/
def field (surroundings : Surroundings) (parameter : Parameter) (index : Nat) :
    Synthesis (FieldName × Expr) := do
  let name ← Synthesis.ofExcept (fieldName parameter.name index)
  let value ← parameter.synthesize surroundings
  return (name, value)

/-- A value with its parameters as fields. -/
def withFields (surroundings : Surroundings) (path : Source.Path) (parameters : List Parameter) :
    Synthesis Expr := do
  let fields ← parameters.zipIdx.mapM fun entry => field surroundings entry.1 entry.2
  return .braces path fields

/-- A value with its parameters as arguments. -/
def withArguments (surroundings : Surroundings) (path : Source.Path)
    (parameters : List Parameter) : Synthesis Expr :=
  return .call path (← arguments surroundings parameters)

/-- A sample of a struct. -/
def structSample (surroundings : Surroundings) (source : Construction)
    (parameters : List Parameter) : Synthesis Expr :=
  match source with
  | .constructor name => do
    let path ← Synthesis.ofExcept (selfItem name)
    withArguments surroundings path parameters
  | .fields true => withArguments surroundings Expr.selfPath parameters
  | .fields false => withFields surroundings Expr.selfPath parameters

/-- A sample of a case. -/
def caseSample (surroundings : Surroundings) (c : CaseShape) : Synthesis Expr := do
  let path ← Synthesis.ofExcept (selfItem c.name)
  if c.payload.isEmpty then return .path path
  else if c.payload.any fun slot => slot.name.isSome then
    withFields surroundings path c.payload
  else withArguments surroundings path c.payload

/-- The first `count` samples of an enum with cases. -/
def caseSamples (surroundings : Surroundings) (cases : List CaseShape) (count : Nat) :
    Synthesis (List Expr) :=
  ((List.range count).filterMap fun i => cases[i % cases.length]?).mapM (caseSample surroundings)

/-- The samples of a shape. -/
def samplesOf (surroundings : Surroundings) (shape : Shape) (count : Nat) :
    Synthesis (List Expr) :=
  match shape with
  | .struct _ source parameters =>
    (List.replicate count ()).mapM fun _ => structSample surroundings source parameters
  | .enum _ cases =>
    if cases.isEmpty then throw .noCases else caseSamples surroundings cases count

/-- Makes the samples of a shape, of which at least one has to be asked for. -/
def build (surroundings : Surroundings) (shape : Shape) (count : Int) : Synthesis SampleSet := do
  if count ≤ 0 then throw (.countNotPositive count)
  let samples ← samplesOf surroundings shape count.toNat
  let typePath ← Synthesis.ofExcept (readPath shape.name)
  return { typeName := shape.name, typePath, member := surroundings.targets.member, samples }

end SampleSet

end Specimen
