import Specimen.Category.Reader
import Specimen.Shape
import Specimen.TypeRef.Fields

/-!
# Shapes as values

A shape is written as a table of its parts. The field `kind` comes first and tells which parts follow;
a label or a category that is not there is left out, and so is an empty payload. What is read back may
also give the parts of a table as a list, in the order in which they are written, and may add fields
that are not known.
-/

namespace Specimen

open Specimen.Yaml

/-- The fields of a record: a table with texts as keys, or a list of its values in a known order. -/
def recordFields? (order : List String) : Value → Option (List (String × Value))
  | .table entries => entries.mapM fun (key, value) => key.text?.map fun name => (name, value)
  | .list items => if items.length ≤ order.length then some (order.zip items) else none
  | _ => none

/-- A field that has to be a text. -/
def textField? (fields : List (String × Value)) (name : String) : Option String :=
  (fields.lookup name).bind Value.text?

/-- A field that may be nothing or not be there. -/
def maybeField? {α : Type} (fields : List (String × Value)) (name : String)
    (read? : Value → Option α) : Option (Option α) :=
  match fields.lookup name with
  | none | some .null => some none
  | some value => (read? value).map some

/-- The items of a list. -/
def listItems? {α : Type} (read? : Value → Option α) : Value → Option (List α)
  | .list items => items.mapM read?
  | _ => none

namespace Parameter

/-- A parameter as a value. -/
def toValue (p : Parameter) : Value :=
  .record <|
    (p.name.map fun name => ("name", Value.text name)).toList
      ++ [("type", .text p.type.text)]
      ++ (p.category.map fun category => ("category", Value.text category.token)).toList

/-- Reads a parameter. -/
def ofValue? (value : Value) : Option Parameter := do
  let fields ← recordFields? ["name", "type", "category"] value
  let name ← maybeField? fields "name" Value.text?
  let type ← (fields.lookup "type").bind TypeRef.ofValue?
  let category ← maybeField? fields "category" fun value =>
    value.text?.bind fun token => (Category.read token).toOption
  return { name, type, category }

end Parameter

namespace CaseShape

/-- A case as a value. -/
def toValue (c : CaseShape) : Value :=
  .record <|
    ("name", Value.text c.name)
      :: if c.payload.isEmpty then []
        else [("payload", .list (c.payload.map Parameter.toValue))]

/-- Reads a case. -/
def ofValue? (value : Value) : Option CaseShape := do
  let fields ← recordFields? ["name", "payload"] value
  let name ← textField? fields "name"
  let payload ← match fields.lookup "payload" with
    | some value => listItems? Parameter.ofValue? value
    | none => some []
  return { name, payload }

end CaseShape

namespace Construction

/-- A construction as a value. -/
def toValue : Construction → Value
  | .constructor name => .record [("kind", .text "constructor"), ("name", .text name)]
  | .fields tuple => .record [("kind", .text "fields"), ("tuple", .bool tuple)]

/-- Reads a construction. -/
def ofValue? (value : Value) : Option Construction :=
  ((recordFields? ["kind", "name"] value).bind fun fields =>
    if textField? fields "kind" = some "constructor" then
      (textField? fields "name").map .constructor
    else none).orElse fun _ =>
  (recordFields? ["kind", "tuple"] value).bind fun fields =>
    if textField? fields "kind" = some "fields" then
      match fields.lookup "tuple" with
      | none => some (.fields false)
      | some (.bool tuple) => some (.fields tuple)
      | some _ => none
    else none

end Construction

namespace Shape

/-- A shape as a value. -/
def toValue : Shape → Value
  | .struct name source parameters =>
    .record [("kind", .text "struct"), ("name", .text name), ("source", source.toValue),
      ("parameters", .list (parameters.map Parameter.toValue))]
  | .enum name cases =>
    .record [("kind", .text "enum"), ("name", .text name),
      ("cases", .list (cases.map CaseShape.toValue))]

/-- Reads the shape of a struct. -/
def structOfValue? (value : Value) : Option Shape := do
  let fields ← recordFields? ["kind", "name", "source", "parameters"] value
  if textField? fields "kind" ≠ some "struct" then none
  let name ← textField? fields "name"
  let source ← (fields.lookup "source").bind Construction.ofValue?
  let parameters ← (fields.lookup "parameters").bind (listItems? Parameter.ofValue?)
  return .struct name source parameters

/-- Reads the shape of an enum. -/
def enumOfValue? (value : Value) : Option Shape := do
  let fields ← recordFields? ["kind", "name", "cases"] value
  if textField? fields "kind" ≠ some "enum" then none
  let name ← textField? fields "name"
  let cases ← (fields.lookup "cases").bind (listItems? CaseShape.ofValue?)
  return .enum name cases

/-- Reads a shape. -/
def ofValue? (value : Value) : Option Shape :=
  (structOfValue? value).orElse fun _ => enumOfValue? value

end Shape

end Specimen
