import Specimen.Fault
import Specimen.Source.Name
import Specimen.Source.Reader

/-!
# Names in generated source

Generated source refers to two things by names that can be chosen: the function that gives the samples
of a type, and the module that holds the data provider. Both have to be names that the source can
hold.
-/

namespace Specimen

/-- The name of the generated functions, and the path of the data provider. -/
structure Targets where
  member : String
  dataCrate : Source.Path

/-- Reads a name. -/
def readName (text : String) : Except Fault String :=
  match Source.name? text with
  | some name => .ok name
  | none => .error (.invalidName text)

/-- Reads a path. -/
def readPath (text : String) : Except Fault Source.Path :=
  match Source.path? text with
  | some path => .ok path
  | none => .error (.invalidName (.path text))

namespace Targets

/-- The names that are used unless others are given. -/
def standard : Targets := ⟨"sample", ⟨true, [.mk "sample_data" .none]⟩⟩

/-- Reads both names. -/
def read (member dataCrate : String) : Except Fault Targets := do
  let member ← readName member
  let dataCrate ← readPath dataCrate
  return { member, dataCrate }

end Targets

end Specimen
