import Specimen.Yaml.Node

/-!
# What a node says by itself

`Node.value?` reads a node as a value without anything being asked of it. Words without quotes stand
for what `Plain.meaning` tells, a core tag decides what a scalar has to be, a local tag is kept. There
is no value if a table has two equal keys, a whole number needs more than 64 bits, or lists and tables
are nested too deeply.
-/

namespace Specimen.Yaml

namespace Value

mutual

/-- Whether two values are the same as keys: numbers by their value, tables in any order. -/
def same : Value → Value → Bool
  | .null, .null => true
  | .bool a, .bool b => a == b
  | .integer m, .integer n => m == n
  | .real a, .real b =>
    match Plain.readReal? a.toList, Plain.readReal? b.toList with
    | some x, some y => x == y || (x.isNaN && y.isNaN)
    | _, _ => a == b
  | .text a, .text b => a == b
  | .list as, .list bs => sameItems as bs
  | .table as, .table bs => as.length == bs.length && sameEntries as bs
  | .tagged s a, .tagged t b => s == t && same a b
  | _, _ => false

/-- Whether two lists are the same item by item. -/
def sameItems : List Value → List Value → Bool
  | [], [] => true
  | a :: as, b :: bs => same a b && sameItems as bs
  | _, _ => false

/-- Whether all entries occur among the entries of another table. -/
def sameEntries : List (Value × Value) → List (Value × Value) → Bool
  | [], _ => true
  | (key, value) :: entries, bs =>
    bs.any (fun (k, v) => same key k && same value v) && sameEntries entries bs

end

/-- Whether no two entries have the same key. -/
def hasDistinctKeys : List (Value × Value) → Bool
  | [] => true
  | (key, _) :: entries =>
    !entries.any (fun (k, _) => same key k) && hasDistinctKeys entries

/-- The value of words without quotes. -/
def ofPlain? (text : String) : Option Value :=
  match Plain.meaning text with
  | .null => some .null
  | .bool b => some (.bool b)
  | .integer n => if -(Nat.pow 2 63 : Int) ≤ n && n < Nat.pow 2 64 then some (.integer n) else none
  | .real => some (.real text)
  | .text => some (.text text)

/-- The value of a scalar with a core tag. -/
def ofTagged? (tag text : String) : Option Value :=
  let cs := text.toList
  if tag = coreTag "bool" then (Plain.bool? text).map .bool
  else if tag = coreTag "int" then
    ((Plain.readWhole? cs).filter fun n => -(Nat.pow 2 63 : Int) ≤ n && n < Nat.pow 2 64).map .integer
  else if tag = coreTag "float" then
    if (Plain.readReal? cs).isSome then some (.real text) else none
  else if tag = coreTag "null" then if Plain.isNull text then some .null else none
  else some (.text text)

/-- A value behind a local tag, whose name is not empty. -/
def behindTag? (name : String) (value? : Option Value) : Option Value :=
  if name.isEmpty then none else value?.map (.tagged name)

end Value

namespace Node

mutual

/-- What a node says, at most `depth` levels deep. -/
def valueWithin? : (depth : Nat) → Node → Option Value
  | _, .alias _ => none
  | _, .scalar form tag text =>
    let bare? := if form = .plain then Value.ofPlain? text else some (.text text)
    match localTag? tag, tag with
    | some name, _ => Value.behindTag? name bare?
    | none, some tag => Value.ofTagged? tag text
    | none, none => bare?
  | depth, .list tag items =>
    let bare? := if depth = 0 then none else (itemsWithin? (depth - 1) items).map Value.list
    match localTag? tag with
    | some name => Value.behindTag? name bare?
    | none => bare?
  | depth, .table tag entries =>
    let bare? :=
      if depth = 0 then none
      else ((entriesWithin? (depth - 1) entries).filter Value.hasDistinctKeys).map Value.table
    match localTag? tag with
    | some name => Value.behindTag? name bare?
    | none => bare?

/-- What items say. -/
def itemsWithin? : (depth : Nat) → List Node → Option (List Value)
  | _, [] => some []
  | depth, item :: items =>
    match valueWithin? depth item, itemsWithin? depth items with
    | some value, some values => some (value :: values)
    | _, _ => none

/-- What entries say. -/
def entriesWithin? : (depth : Nat) → List (Node × Node) → Option (List (Value × Value))
  | _, [] => some []
  | depth, (key, value) :: entries =>
    match valueWithin? depth key, valueWithin? depth value, entriesWithin? depth entries with
    | some key, some value, some entries => some ((key, value) :: entries)
    | _, _, _ => none

end

/-- The greatest number of lists and tables one inside the other. -/
def depthLimit : Nat := 128

/-- What a node says. -/
def value? (node : Node) : Option Value := valueWithin? depthLimit node

end Node

end Specimen.Yaml
