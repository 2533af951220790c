/-!
# Tokens of a document

Layout is resolved before structure: the tokens of a document tell where blocks begin and end, where
keys and values stand, and what the scalars say, so that nothing after them has to know about
columns.
-/

namespace Specimen.Yaml

/-- How a scalar is written, as far as its meaning depends on it. -/
inductive ScalarForm where
  | plain
  /-- Lines behind a bar, line ends kept. -/
  | literal
  /-- Between quotes, or lines that are folded. -/
  | quoted
  deriving DecidableEq, Repr

/-- A token of a document. -/
inductive Token where
  /-- The declared version. -/
  | version (major minor : Nat)
  /-- A declared short form: the handle, and what it stands for. -/
  | shorthand (handle expansion : String)
  | documentStart
  | documentEnd
  | openBlockList
  | openBlockTable
  | closeBlock
  | openList
  | closeList
  | openTable
  | closeTable
  /-- The dash before an item of a block list. -/
  | dash
  | comma
  | key
  | value
  | alias (name : String)
  | anchor (name : String)
  | tag (handle suffix : String)
  | scalar (form : ScalarForm) (text : String)
  deriving DecidableEq, Repr

end Specimen.Yaml
