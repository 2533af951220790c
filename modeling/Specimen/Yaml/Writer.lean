import Specimen.Yaml.Style
import Specimen.Yaml.Value

/-!
# Writing documents

A document is written in blocks, one entry a line. The entries of a table stand two columns to the
right of what they belong to, the dashes of a list under the first letter of its key; an empty list
is `[]` and an empty table `{}`. The first entry of what stands behind a dash follows on the same
line.

A piece of text that ends with a line end of its own gets no second one (`endLine`).
-/

namespace Specimen.Yaml.Value

open Style (spaces)

/-- Ends the line, unless it has just ended. -/
def endLine (cs : List Char) : List Char :=
  match cs.getLast? with
  | some c => if isBreak c then cs else cs ++ ['\n']
  | none => ['\n']

/-- A value on one line, if it has such a form. -/
def scalarForm (indent : Nat) : Value → Option (List Char)
  | .null => some "null".toList
  | .bool b => some (if b then "true" else "false").toList
  | .integer n => some (toString n).toList
  | .real spelling => some spelling.toList
  | .text s => some (Style.write indent s)
  | .list [] => some "[]".toList
  | .table [] => some "\x7b\x7d".toList
  | .list (_ :: _) => none
  | .table (_ :: _) => none
  | .tagged tag value => (value.scalarForm indent).map fun cs => '!' :: tag.toList ++ ' ' :: cs

mutual

/-- A value at a column that its first line has reached already. -/
def inlineForm (column : Nat) : Value → List Char
  | .list items => itemsForm column true items
  | .table entries => entriesForm column true entries
  | .tagged _ value => inlineForm column value
  | _ => []

/-- The items of a list, dashes at `column`; the first line may have reached it already. -/
def itemsForm (column : Nat) : (reached : Bool) → List Value → List Char
  | _, [] => []
  | reached, item :: items =>
    (if reached then [] else spaces column) ++ '-' :: ' '
      :: (match item.scalarForm (column + 2) with
        | some cs => endLine cs
        | none => inlineForm (column + 2) item)
      ++ itemsForm column false items

/-- The entries of a table, keys at `column`; the first line may have reached it already. -/
def entriesForm (column : Nat) : (reached : Bool) → List (Value × Value) → List Char
  | _, [] => []
  | reached, (key, value) :: entries =>
    (if reached then [] else spaces column)
      ++ (match key.scalarForm (column + 2) with
        | some cs => cs
        | none => '?' :: ' ' :: (inlineForm (column + 2) key ++ spaces column))
      ++ ':' :: valueForm column value
      ++ entriesForm column false entries

/-- What stands behind a key at `column`. -/
def valueForm (column : Nat) : Value → List Char
  | .list [] => " []\n".toList
  | .list (item :: items) => '\n' :: itemsForm column false (item :: items)
  | .table [] => " \x7b\x7d\n".toList
  | .table (entry :: entries) => '\n' :: entriesForm (column + 2) false (entry :: entries)
  | value => ' ' :: endLine ((value.scalarForm (column + 2)).getD [])

end

/-- The document that says a value. -/
def document (value : Value) : String :=
  String.ofList <|
    match value.scalarForm 2 with
    | some cs => endLine cs
    | none => inlineForm 0 value

end Specimen.Yaml.Value
