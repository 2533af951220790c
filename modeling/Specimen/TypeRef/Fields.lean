import Specimen.TypeRef.Reader
import Specimen.Yaml.Node.Value

/-!
# Types from fields

A type may be given by its parts instead of by its text: a table whose field `type` tells what it is,
and whose other fields are the types it is made of.

    {type: array, element: T}
    {type: mapping, key: K, value: V}      (also `map`; `btree_map` for the ordered kind)
    {type: reference, name: P}
    {type: u8}                             (any scalar)

Each part may be given in either way. Fields that a form does not use are allowed; they have to have
names and nothing else is asked of them.

Main statement: every field of a table is looked up by its last entry (`lookup?`), so the order of
different fields does not matter.
-/

namespace Specimen.TypeRef

open Specimen.Yaml

/-- A field of a table, with what it says as a text and as a type. -/
structure Field where
  name : String
  text? : Option String
  type? : Option TypeRef

/-- The last field with a name. -/
def lookup? (name : String) (fields : List Field) : Option Field :=
  fields.reverse.find? fun field => field.name == name

/-- The type that fields describe. -/
def ofFields? (fields : List Field) : Option TypeRef :=
  let part? := fun name => (lookup? name fields).bind Field.type?
  if !fields.all fun field => field.name != "type" || field.text?.isSome then none
  else
    match (lookup? "type" fields).bind Field.text? with
    | none => none
    | some kind =>
      if kind = "array" then (part? "element").map .array
      else if kind = "mapping" ∨ kind = "map" ∨ kind = "btree_map" then
        match part? "key", part? "value" with
        | some key, some value =>
          some (.mapping (if kind = "btree_map" then .ordered else .hash) key value)
        | _, _ => none
      else if kind = "reference" then
        ((lookup? "name" fields).bind Field.text?).map .reference
      else (ScalarKind.ofTypeName? kind).map .scalar

mutual

/-- The type that a value describes, by its text or by its fields. -/
def ofValue? : Value → Option TypeRef
  | .text text => (read text).toOption
  | .table entries => (fields? entries).bind ofFields?
  | _ => none

/-- The fields of a table, if all keys are texts. -/
def fields? : List (Value × Value) → Option (List Field)
  | [] => some []
  | (key, value) :: entries =>
    match key.text?, fields? entries with
    | some name, some fields => some (⟨name, value.text?, ofValue? value⟩ :: fields)
    | _, _ => none

end

/-- The value of an entry of a document that is a type. Keys and the field `type` are read as texts,
whatever they stand for by themselves. -/
def entryValue? (key value : Node) : Option (Value × Value) :=
  match key.text? with
  | none => none
  | some name =>
    let said? :=
      if name = "type" then value.text?.map Value.text
      else value.valueWithin? (Node.depthLimit - 1)
    said?.map fun said => (.text name, said)

/-- The type that a document describes. -/
def ofNode? : Node → Option TypeRef
  | .table tag entries =>
    if (localTag? tag).isSome then none
    else (entries.mapM fun (key, value) => entryValue? key value).bind fun entries =>
      ofValue? (.table entries)
  | node => node.value?.bind ofValue?

end Specimen.TypeRef
