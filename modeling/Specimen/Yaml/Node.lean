import Specimen.Yaml.Plain
import Specimen.Yaml.Token
import Specimen.Yaml.Value

/-!
# Nodes of a document

A node is a value as it is written: scalars keep their text and the form it has, everything keeps its
tag, and aliases point to the nodes that they repeat. What a node says depends on what is asked of it:
where a text is asked for, any scalar gives its text, and where a number is asked for, only one
without quotes can give it. So the questions stand here as functions of their own, each without an
answer for the nodes that are no answer to it.

`Node.value?` asks for nothing in particular. It takes words without quotes for what they stand for,
refuses a table with two equal keys, and goes 128 levels deep.
-/

namespace Specimen.Yaml

/-- A value as it is written. -/
inductive Node where
  | scalar (form : ScalarForm) (tag : Option String) (text : String)
  | list (tag : Option String) (items : List Node)
  | table (tag : Option String) (entries : List (Node × Node))
  /-- A repetition of the node with the given number. -/
  | alias (number : Nat)
  deriving Repr

/-- The tag of a kind of scalar that documents know. -/
def coreTag (name : String) : String := "tag:yaml.org,2002:" ++ name

/-- The name of a local tag. -/
def localTag? (tag : Option String) : Option String :=
  match tag.map String.toList with
  | some ('!' :: name) => some (String.ofList name)
  | _ => none

namespace Node

/-- A node that is not there. -/
def empty : Node := .scalar .plain none ""

/-! ## Aliases -/

mutual

/-- The node with every alias replaced. -/
def mapAliases (f : Nat → Node) : Node → Node
  | .scalar form tag text => .scalar form tag text
  | .list tag items => .list tag (mapAliasesItems f items)
  | .table tag entries => .table tag (mapAliasesEntries f entries)
  | .alias number => f number

/-- The items with every alias replaced. -/
def mapAliasesItems (f : Nat → Node) : List Node → List Node
  | [] => []
  | item :: items => mapAliases f item :: mapAliasesItems f items

/-- The entries with every alias replaced. -/
def mapAliasesEntries (f : Nat → Node) : List (Node × Node) → List (Node × Node)
  | [] => []
  | (key, value) :: entries =>
    (mapAliases f key, mapAliases f value) :: mapAliasesEntries f entries

end

/-- The node that an alias repeats, with the aliases in it replaced as well, up to `depth` of them one
inside the other. An alias that is left stands inside the node it repeats. -/
def repeated (nodes : Nat → Option Node) : (depth : Nat) → (number : Nat) → Node
  | 0, number => .alias number
  | depth + 1, number =>
    match nodes number with
    | some node => node.mapAliases (repeated nodes depth)
    | none => .alias number

/-! ## Questions -/

/-- The text of a scalar of any form. -/
def text? : Node → Option String
  | .scalar _ _ text => some text
  | _ => none

/-- Whether a node is there. A plain scalar that stands for nothing is not; one with the tag for
nothing has to stand for nothing. -/
def isPresent? : Node → Option Bool
  | .scalar .plain none text => some (!(text.isEmpty || Plain.isNull text))
  | .scalar .plain (some tag) text =>
    if tag = coreTag "null" then (if Plain.isNull text then some false else none) else some true
  | .alias _ => none
  | _ => some true

/-- The items of a list. A node that is not there is an empty list. -/
def items? : Node → Option (List Node)
  | .list _ items => some items
  | .scalar .plain _ text => if text.isEmpty then some [] else none
  | _ => none

/-- The entries of a table, keys as texts. A node that is not there is an empty table. -/
def fields? : Node → Option (List (String × Node))
  | .table _ entries => entries.mapM fun (key, value) => key.text?.map fun name => (name, value)
  | .scalar .plain _ text => if text.isEmpty then some [] else none
  | _ => none

/-- The name of a choice: the text of a scalar, or a local tag with nothing behind it. -/
def choice? : Node → Option String
  | .scalar form tag text =>
    match localTag? tag with
    | some name =>
      if form == .plain && (text.isEmpty || Plain.isNull text) then some name else none
    | none => some text
  | _ => none

/-- The text of a scalar that a number can be read from. -/
def numeral? : Node → Option String
  | .scalar .plain _ text => some text
  | .scalar .literal (some tag) text => if tag = coreTag "int" then some text else none
  | _ => none

/-- A whole number of 64 bits without a sign. -/
def natural? (node : Node) : Option Nat :=
  node.numeral?.bind fun text => Plain.readUnsigned? text.toList

/-- A whole number of 64 bits with a sign. -/
def integer? (node : Node) : Option Int :=
  node.numeral?.bind fun text => Plain.readSigned? text.toList

end Node

end Specimen.Yaml
