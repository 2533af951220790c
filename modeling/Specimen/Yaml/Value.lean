/-!
# Values of a document

What a document says, once its layout is gone: nothing, truth values, numbers, texts, lists and
tables. A table is a list of pairs, because the order of its entries shows in what is written; its
keys are values of any kind, and a value may carry a tag of its own.

A real number is kept as it is spelled, so that writing it back changes nothing.
-/

namespace Specimen.Yaml

/-- A value of a document. -/
inductive Value where
  | null
  | bool (b : Bool)
  | integer (n : Int)
  /-- A number with a fraction or an exponent, as it is spelled. -/
  | real (spelling : String)
  | text (s : String)
  | list (items : List Value)
  | table (entries : List (Value × Value))
  | tagged (tag : String) (value : Value)
  deriving Inhabited, Repr

namespace Value

/-- A table whose keys are texts. -/
def record (fields : List (String × Value)) : Value :=
  .table (fields.map fun (name, value) => (.text name, value))

/-- A value without its tags. -/
def untagged : Value → Value
  | .tagged _ value => value.untagged
  | value => value

/-- The text that a value is, tags apart. -/
def text? (value : Value) : Option String :=
  match value.untagged with
  | .text s => some s
  | _ => none

@[simp] theorem untagged_text (s : String) : (Value.text s).untagged = .text s := by
  simp [untagged]

@[simp] theorem text?_text (s : String) : (Value.text s).text? = some s := by
  simp [text?]

end Value

end Specimen.Yaml
