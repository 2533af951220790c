import Specimen.Yaml.Node
import Specimen.Yaml.Token.Lexer

/-!
# Reading documents

The tokens of a document are read as a node, and the aliases in it are replaced by what they repeat.
A text has to hold exactly one document.

An alias points to a number, and the number of an anchor is the number of names that are known when
it is reached. A name that is given again therefore takes the number that the next new name takes as
well, and the last anchor with a number is what the number stands for. This is decided at the end, so
an anchor may take over an alias that stands before it.

A question mark between square brackets with nothing behind it takes the comma, colon or bracket that
follows for its own.
-/

namespace Specimen.Yaml

namespace Document

/-- The state of reading: the tokens that are left, and what is known of anchors. -/
structure Reading where
  tokens : List Token
  /-- What the handles of tags stand for. -/
  shorthands : List (String × String)
  /-- The numbers of the names of anchors. -/
  names : List (String × Nat)
  /-- The anchors, by number and by how many came before, the last first. -/
  anchors : List (Nat × Nat)
  /-- The nodes of the anchors, by how many came before. -/
  nodes : List (Nat × Node)

/-- A reader that may fail. -/
abbrev Reader := StateT Reading Option

/-- No result. -/
def refuse {α : Type} : Reader α := fun _ => none

/-- The next token. -/
def peek : Reader (Option Token) := return (← get).tokens.head?

/-- Drops the next token. -/
def skip : Reader Unit := modify fun r => { r with tokens := r.tokens.tail }

/-- Whether the next token is one of a list; the end of the text is none. -/
def isNext (tokens : List Token) : Reader Bool :=
  return (← get).tokens.head?.any (tokens.contains ·)

/-- Drops the next token if it is the given one. -/
def accept (token : Token) : Reader Bool := do
  if ← isNext [token] then
    skip
    return true
  return false

/-! ## Properties -/

/-- What a tag stands for. -/
def tag (handle suffix : String) : Reader String := do
  if handle.isEmpty then return suffix
  match (← get).shorthands.lookup handle with
  | some expansion => return expansion ++ suffix
  | none => refuse

/-- The anchor and the tag in front of a node, in either order. -/
def properties : Reader (Option String × Option String) := do
  match ← peek with
  | some (.anchor name) =>
    skip
    match ← peek with
    | some (.tag handle suffix) =>
      skip
      return (some name, some (← tag handle suffix))
    | _ => return (some name, none)
  | some (.tag handle suffix) =>
    skip
    match ← peek with
    | some (.anchor name) =>
      skip
      return (some name, some (← tag handle suffix))
    | _ => return (none, some (← tag handle suffix))
  | _ => return (none, none)

/-- Takes note of an anchor; the result is how many came before. -/
def enter (name : String) : Reader Nat := do
  let r ← get
  let number := r.names.length
  let known := r.names.filter fun (other, _) => other != name
  let place := r.anchors.length
  set { r with names := (name, number) :: known, anchors := (number, place) :: r.anchors }
  return place

/-- Takes note of the node behind an anchor. -/
def leave (place : Nat) (node : Node) : Reader Unit :=
  modify fun r => { r with nodes := (place, node) :: r.nodes }

/-! ## Nodes -/

/-- What ends an item or an entry of a block. -/
def blockEnds : List Token := [.key, .value, .closeBlock]

mutual

/-- A node. Blocks may begin only where `block` holds, and a list without an indentation of its own
only where `flush` does. -/
def node : (fuel : Nat) → (block flush : Bool) → Reader Node
  | 0, _, _ => refuse
  | fuel + 1, block, flush => do
    match ← peek with
    | some (.alias name) =>
      skip
      match (← get).names.lookup name with
      | some number => return .alias number
      | none => refuse
    | _ =>
      let (anchor?, tag?) ← properties
      let place? ← match anchor? with
        | some name => some <$> enter name
        | none => pure none
      let result ← match ← peek with
        | some (.scalar form text) =>
          skip
          pure (Node.scalar form (tag?.filter (· != "!")) text)
        | some .openList =>
          skip
          Node.list tag? <$> listItems fuel true
        | some .openTable =>
          skip
          Node.table tag? <$> tableEntries fuel true
        | some .openBlockList =>
          if !block then refuse
          else
            skip
            Node.list tag? <$> blockItems fuel
        | some .openBlockTable =>
          if !block then refuse
          else
            skip
            Node.table tag? <$> blockEntries fuel
        | next =>
          if flush && next == some .dash then Node.list tag? <$> flushItems fuel
          else if anchor?.isSome || tag?.isSome then pure (.scalar .plain tag? "")
          else refuse
      if let some place := place? then leave place result
      return result

/-- The items of a block list. -/
def blockItems : (fuel : Nat) → Reader (List Node)
  | 0 => refuse
  | fuel + 1 => do
    if ← accept .closeBlock then return []
    if !(← accept .dash) then refuse
    let item ← if ← isNext [.dash, .closeBlock] then pure .empty else node fuel true false
    return item :: (← blockItems fuel)

/-- The items of a list whose dashes stand at the column of the table around it. -/
def flushItems : (fuel : Nat) → Reader (List Node)
  | 0 => refuse
  | fuel + 1 => do
    if !(← accept .dash) then return []
    let item ← if ← isNext (.dash :: blockEnds) then pure .empty else node fuel true false
    return item :: (← flushItems fuel)

/-- The entries of a block table. -/
def blockEntries : (fuel : Nat) → Reader (List (Node × Node))
  | 0 => refuse
  | fuel + 1 => do
    if ← accept .closeBlock then return []
    if !(← accept .key) then refuse
    let key ← if ← isNext blockEnds then pure .empty else node fuel true true
    let value ←
      if ← accept .value then
        if ← isNext blockEnds then pure .empty else node fuel true true
      else pure .empty
    return (key, value) :: (← blockEntries fuel)

/-- The items of a list in brackets. -/
def listItems : (fuel : Nat) → (first : Bool) → Reader (List Node)
  | 0, _ => refuse
  | fuel + 1, first => do
    if ← accept .closeList then return []
    if !first && !(← accept .comma) then refuse
    if ← accept .closeList then return []
    let item ←
      if ← accept .key then
        let key ←
          if ← isNext [.value, .comma, .closeList] then do
            skip
            pure .empty
          else node fuel false false
        let value ← bracketValue fuel .closeList
        pure (Node.table none [(key, value)])
      else node fuel false false
    return item :: (← listItems fuel false)

/-- The entries of a table in brackets. -/
def tableEntries : (fuel : Nat) → (first : Bool) → Reader (List (Node × Node))
  | 0, _ => refuse
  | fuel + 1, first => do
    if ← accept .closeTable then return []
    if !first && !(← accept .comma) then refuse
    if ← accept .closeTable then return []
    if ← accept .key then
      let key ←
        if ← isNext [.value, .comma, .closeTable] then pure .empty else node fuel false false
      let value ← bracketValue fuel .closeTable
      return (key, value) :: (← tableEntries fuel false)
    else
      let key ← node fuel false false
      return (key, .empty) :: (← tableEntries fuel false)

/-- The value behind a key in brackets, if there is one. -/
def bracketValue : (fuel : Nat) → (close : Token) → Reader Node
  | 0, _ => refuse
  | fuel + 1, close => do
    if ← accept .value then
      if ← isNext [.comma, close] then return .empty
      node fuel false false
    else return .empty

end

/-! ## Documents -/

/-- The directives in front of a document: at most one version, which has to be known, and every short
form once. -/
def directives : (fuel : Nat) → (versioned : Bool) → (given : List (String × String)) →
    Reader (List (String × String))
  | 0, _, _ => refuse
  | fuel + 1, versioned, given => do
    match ← peek with
    | some (.version major minor) =>
      if versioned || major != 1 || !(minor == 1 || minor == 2) then refuse
      skip
      directives fuel true given
    | some (.shorthand handle expansion) =>
      if given.any fun (other, _) => other == handle then refuse
      skip
      directives fuel versioned ((handle, expansion) :: given)
    | _ => return given

/-- The short forms that every document knows. -/
def coreShorthands : List (String × String) := [("!", "!"), ("!!", coreTag "")]

/-- Whether a token stands between documents. -/
def isBoundary : Token → Bool
  | .version _ _ | .shorthand _ _ | .documentStart | .documentEnd => true
  | _ => false

/-- A document, up to the end of the text. -/
def document (fuel : Nat) : Reader Node := do
  match ← peek with
  | none => refuse
  | some token =>
    let root ←
      if isBoundary token && token != .documentEnd then do
        let given ← directives fuel false []
        modify fun r => { r with shorthands := given ++ coreShorthands }
        if !(← accept .documentStart) then refuse
        match ← peek with
        | none => pure .empty
        | some token => if isBoundary token then pure .empty else node fuel true false
      else node fuel true false
    modify fun r => { r with tokens := r.tokens.dropWhile (· == .documentEnd) }
    if (← peek).isSome then refuse
    return root

end Document

namespace Node

/-- The node that tokens say. -/
def ofTokens? (tokens : List Token) : Option Node :=
  let start : Document.Reading := ⟨tokens, Document.coreShorthands, [], [], []⟩
  match Document.document (3 * tokens.length + 8) start with
  | none => none
  | some (root, r) =>
    let nodes := fun number => (r.anchors.lookup number).bind fun place => r.nodes.lookup place
    some (root.mapAliases (repeated nodes r.anchors.length))

/-- Reads a document. -/
def read? (text : String) : Option Node := (Token.lex? text).bind ofTokens?

end Node

end Specimen.Yaml
