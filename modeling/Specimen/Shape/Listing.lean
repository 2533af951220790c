import Specimen.Schema
import Specimen.Shape.Encoding
import Specimen.Shape.Extraction
import Specimen.Yaml.Writer

/-!
# Listing shapes

The shapes of the declarations of a schema, or of one of them, as a document. A declaration without a
shape is reported and left out; the others are listed all the same.
-/

namespace Specimen

/-- The shapes of some declarations and what was reported about the others. -/
structure Listing where
  shapes : List Shape
  report : List Diagnostic

namespace Listing

/-- The shape of a declaration, or the reason why there is none. -/
def entry (declaration : Declaration) : Except Diagnostic Shape :=
  declaration.shape.mapError fun error => error.diagnostic declaration.name

/-- The listing of some declarations. -/
def ofDeclarations : List Declaration → Listing
  | [] => ⟨[], []⟩
  | declaration :: declarations =>
    let rest := ofDeclarations declarations
    match entry declaration with
    | .ok shape => { rest with shapes := shape :: rest.shapes }
    | .error d => { rest with report := d :: rest.report }

/-- The listing of a schema, or of the one declaration that a path refers to. -/
def ofSchema (schema : Schema) : (type : Option String) → Except Schema.Error Listing
  | none => .ok (ofDeclarations schema.types)
  | some type => (schema.require type).map fun declaration => ofDeclarations [declaration]

/-- The document that lists the shapes. -/
def document (listing : Listing) : String :=
  (Yaml.Value.list (listing.shapes.map Shape.toValue)).document

/-- The closing message, if something was left out. -/
def failure? (listing : Listing) : Option String :=
  match Diagnostic.errorCount listing.report with
  | 0 => none
  | count => some s!"{count} type(s) have no extractable shape"

end Listing

end Specimen
