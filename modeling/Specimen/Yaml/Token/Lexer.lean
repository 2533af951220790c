import Specimen.Yaml.Token
import Specimen.Yaml.Token.Property

/-!
# The layout of a document

The lexer walks through a document with the columns of the open blocks in hand. A block begins where
a dash or a key stands further right than the block around it, and ends where something stands
further left.

That something is a key shows only when the colon behind it is reached. So wherever a key could begin
a slot is reserved among the tokens, and the colon fills the slot; a slot that is not filled by then
was none. A key has to end on its line and within 1024 characters. In a block, what stands exactly at
the column of an open table has to be a key.

Inside brackets columns do not count.
-/

namespace Specimen.Yaml

/-- A place in a document, and the text from there on. -/
structure Cursor where
  rest : List Char
  line : Nat
  column : Nat
  index : Nat

namespace Cursor

/-- Moves over one character that ends no line. -/
def skip (cursor : Cursor) : Cursor :=
  { cursor with rest := cursor.rest.tail, column := cursor.column + 1, index := cursor.index + 1 }

/-- The place behind some text. -/
def after : Cursor → List Char → Cursor
  | cursor, [] => cursor
  | cursor, '\r' :: '\n' :: cs =>
    after ⟨cursor.rest, cursor.line + 1, 0, cursor.index + 2⟩ cs
  | cursor, c :: cs =>
    if isBreak c then after ⟨cursor.rest, cursor.line + 1, 0, cursor.index + 1⟩ cs
    else after ⟨cursor.rest, cursor.line, cursor.column + 1, cursor.index + 1⟩ cs

/-- Moves to a later place, given by the text from there on. -/
def moveTo (cursor : Cursor) (rest : List Char) : Cursor :=
  { cursor.after (cursor.rest.take (cursor.rest.length - rest.length)) with rest := rest }

end Cursor

namespace Lexer

/-- A token, or a slot for the beginning of a key. -/
inductive Item where
  | token (token : Token)
  | slot (number : Nat)

/-- A place where a key may have begun. -/
structure Candidate where
  slot : Nat
  line : Nat
  column : Nat
  index : Nat
  /-- Whether it is an error if it is no key. -/
  required : Bool

/-- The state of the walk. -/
structure State where
  place : Cursor
  /-- The column of the innermost open block, -1 if there is none. -/
  indent : Int
  /-- The columns of the blocks around it, from the inside out. -/
  outer : List Int
  /-- The candidates inside the innermost brackets, or outside of all. -/
  candidate : Option Candidate
  /-- The candidates of the brackets around, from the inside out; there is one for every open pair. -/
  candidates : List (Option Candidate)
  /-- Whether a key may begin here. -/
  keyAllowed : Bool
  slots : Nat
  /-- What has been found, the last first. -/
  items : List Item

namespace State

/-- The beginning of a document. -/
def start (text : List Char) : State :=
  ⟨⟨text, 0, 0, 0⟩, -1, [], none, [], true, 0, []⟩

/-- Whether the walk is inside brackets. -/
def inBrackets (s : State) : Bool := !s.candidates.isEmpty

/-- Adds a token. -/
def push (s : State) (token : Token) : State := { s with items := .token token :: s.items }

/-- Moves to the place where the text `rest` begins. -/
def moveTo (s : State) (rest : List Char) : State := { s with place := s.place.moveTo rest }

/-- Moves over one character. -/
def skip (s : State) : State := { s with place := s.place.skip }

/-- Says whether a key may begin at the next place. -/
def allowKey (s : State) (allowed : Bool) : State := { s with keyAllowed := allowed }

/-! ### Blanks -/

/-- Moves over blanks, comments and line ends. Tabs do not count as blanks where a key may begin. -/
def skipBlanks : (fuel : Nat) → State → State
  | 0, s => s
  | fuel + 1, s =>
    let tabs := s.inBrackets || !s.keyAllowed
    let rest := s.place.rest.dropWhile fun c => c == ' ' || (tabs && c == '\t')
    let rest := if rest.head? == some '#' then rest.dropWhile fun c => !isBreak c else rest
    match rest with
    | [] => s.moveTo []
    | c :: _ =>
      if isBreak c then
        let s := s.moveTo (Scalar.skipBreak rest)
        skipBlanks fuel (if s.inBrackets then s else s.allowKey true)
      else s.moveTo rest

/-! ### Candidates for keys -/

/-- Drops a candidate that has got too far away; a required one is an error. -/
def fresh? (place : Cursor) : Option Candidate → Option (Option Candidate)
  | none => some none
  | some k =>
    if k.line < place.line || k.index + 1024 < place.index then
      if k.required then none else some none
    else some (some k)

/-- Drops the candidates that have got too far away. -/
def dropStale? (s : State) : Option State := do
  let candidate ← fresh? s.place s.candidate
  let candidates ← s.candidates.mapM (fresh? s.place)
  return { s with candidate, candidates }

/-- Gives up the candidate of this level. -/
def dropCandidate? (s : State) : Option State :=
  if s.candidate.any (·.required) then none else some { s with candidate := none }

/-- Reserves a slot for a key that may begin here. -/
def addCandidate? (s : State) : Option State :=
  if !s.keyAllowed then some s
  else
    s.dropCandidate?.map fun s =>
      { s with
        candidate := some
          ⟨s.slots, s.place.line, s.place.column, s.place.index,
            !s.inBrackets && s.indent == (s.place.column : Int)⟩
        slots := s.slots + 1
        items := .slot s.slots :: s.items }

/-- Puts tokens into a slot; the last comes first. -/
def fill (slot : Nat) (tokens : List Token) : List Item → List Item
  | [] => []
  | .slot n :: items =>
    if n = slot then tokens.map Item.token ++ items else .slot n :: fill slot tokens items
  | item :: items => item :: fill slot tokens items

/-! ### Blocks -/

/-- Opens a block at a column, unless one is open there or further right. -/
def openBlock (s : State) (column : Nat) (token : Token) : State :=
  if s.inBrackets || (column : Int) ≤ s.indent then s
  else { s.push token with indent := column, outer := s.indent :: s.outer }

/-- Closes the blocks right of a column. -/
def closeBlocks (column : Int) (s : State) : State :=
  if s.inBrackets then s else go s.indent s.outer s
where
  /-- Closes blocks from the inside out. -/
  go (indent : Int) : List Int → State → State
    | [], s => { s with indent, outer := [] }
    | next :: outer, s =>
      if column < indent then go next outer (s.push .closeBlock)
      else { s with indent, outer := next :: outer }

/-! ### One token -/

/-- A directive, or a line between documents. -/
def boundary? (s : State) (token : Token) (rest : List Char) : Option State :=
  (s.closeBlocks (-1)).dropCandidate?.map fun s => ((s.allowKey false).push token).moveTo rest

/-- An opening bracket. -/
def open? (s : State) (token : Token) : Option State :=
  s.addCandidate?.map fun s =>
    (({ s with candidate := none, candidates := s.candidate :: s.candidates }.allowKey true).push
      token).skip

/-- A closing bracket. -/
def close? (s : State) (token : Token) : Option State :=
  s.dropCandidate?.map fun s =>
    let s := match s.candidates with
      | candidate :: candidates => { s with candidate, candidates }
      | [] => s
    ((s.allowKey false).push token).skip

/-- A comma. -/
def comma? (s : State) : Option State :=
  s.dropCandidate?.map fun s => ((s.allowKey true).push .comma).skip

/-- A dash before an item. Inside brackets it is left to the structure to refuse it. -/
def dash? (s : State) : Option State :=
  if !s.inBrackets && !s.keyAllowed then none
  else
    (s.openBlock s.place.column .openBlockList).dropCandidate?.map fun s =>
      ((s.allowKey true).push .dash).skip

/-- A question mark before a key. -/
def key? (s : State) : Option State :=
  if !s.inBrackets && !s.keyAllowed then none
  else
    (s.openBlock s.place.column .openBlockTable).dropCandidate?.map fun s =>
      ((s.allowKey !s.inBrackets).push .key).skip

/-- A colon before a value. -/
def value? (s : State) : Option State :=
  match s.candidate with
  | some k =>
    let opens := !s.inBrackets && s.indent < (k.column : Int)
    let s := { s with
      items := fill k.slot (if opens then [.key, .openBlockTable] else [.key]) s.items
      candidate := none }
    let s := if opens then { s with indent := k.column, outer := s.indent :: s.outer } else s
    some ((s.allowKey false).push .value).skip
  | none =>
    if !s.inBrackets && !s.keyAllowed then none
    else
      let s := s.openBlock s.place.column .openBlockTable
      some ((s.allowKey !s.inBrackets).push .value).skip

/-- Something that may be a key or be part of one. -/
def content? (s : State) (read? : Option (Token × List Char)) : Option State :=
  s.addCandidate?.bind fun s =>
    read?.map fun (token, rest) => ((s.allowKey false).push token).moveTo rest

/-- A block of lines. -/
def lines? (s : State) (literal : Bool) : Option State :=
  s.dropCandidate?.bind fun s =>
    (Scalar.block? literal s.indent s.place.rest.tail).map fun (text, rest) =>
      ((s.allowKey true).push
        (.scalar (if literal then .literal else .quoted) (String.ofList text))).moveTo rest

/-- Words without quotes. -/
def words? (s : State) : Option State :=
  s.addCandidate?.bind fun s =>
    let cs := s.place.rest
    (Scalar.words? s.inBrackets (s.indent + 1).toNat (cs.length + 1) [] false cs).map fun words =>
      ((s.allowKey words.broken).push (.scalar .plain (String.ofList words.text))).moveTo words.rest

/-- Text between quotes. -/
def quoted? (s : State) (single : Bool) : Option State :=
  let cs := s.place.rest.tail
  s.content? <| (Scalar.quoted? single (cs.length + 1) cs).map fun (text, rest) =>
    (.scalar .quoted (String.ofList text), rest)

/-- Whether words without quotes may begin with the character in front of a text. -/
def opensWords (inBrackets : Bool) (c : Char) (cs : List Char) : Bool :=
  !(isGap c || isBreak c || "-?:,[]\x7b\x7d#&*!|>'\"%@\x60".toList.contains c)
    || (c == '-' && !cs.head?.any isGap)
    || (!inBrackets && (c == '?' || c == ':') && !isOver cs)

/-- Reads the token that begins at this place, with the character `c` in front of the text `cs`. -/
def token? (s : State) (c : Char) (cs : List Char) : Option State :=
  if s.place.column == 0 && c == '%' then
    (Property.directive? cs).bind fun (directive, rest) =>
      match directive with
      | .version major minor => s.boundary? (.version major minor) rest
      | .shorthand handle expansion => s.boundary? (.shorthand handle expansion) rest
  else if s.place.column == 0 && Scalar.atDocumentMark (c :: cs) then
    s.boundary? (if c == '-' then .documentStart else .documentEnd) (cs.drop 2)
  else if c == '[' then s.open? .openList
  else if c == '\x7b' then s.open? .openTable
  else if c == ']' then s.close? .closeList
  else if c == '\x7d' then s.close? .closeTable
  else if c == ',' then s.comma?
  else if c == '-' && isOver cs then s.dash?
  else if c == '?' && (s.inBrackets || isOver cs) then s.key?
  else if c == ':' && (s.inBrackets || isOver cs) then s.value?
  else if c == '*' then
    s.content? ((Property.name? cs).map fun (name, rest) => (.alias name, rest))
  else if c == '&' then
    s.content? ((Property.name? cs).map fun (name, rest) => (.anchor name, rest))
  else if c == '!' then
    s.content? ((Property.tag? s.inBrackets (c :: cs)).map fun (handle, suffix, rest) =>
      (.tag handle suffix, rest))
  else if c == '|' && !s.inBrackets then s.lines? true
  else if c == '>' && !s.inBrackets then s.lines? false
  else if c == '\'' then s.quoted? true
  else if c == '"' then s.quoted? false
  else if opensWords s.inBrackets c cs then s.words?
  else none

/-- Reads all tokens up to the end of the text. -/
def finish? : (fuel : Nat) → State → Option State
  | 0, _ => none
  | fuel + 1, s => do
    let s ← (s.skipBlanks (s.place.rest.length + 1)).dropStale?
    let s := s.closeBlocks s.place.column
    match s.place.rest with
    | [] =>
      (s.closeBlocks (-1)).dropCandidate?
    | c :: cs => finish? fuel (← s.token? c cs)

end State

/-- The tokens among what has been found, the first first. -/
def tokens (items : List Item) : List Token :=
  items.reverse.filterMap fun
    | .token token => some token
    | .slot _ => none

/-- The text behind a byte order mark, which takes up a column. -/
def skipMark (s : State) : State :=
  match s.place.rest with
  | '\uFEFF' :: _ => s.skip
  | _ => s

end Lexer

/-- The tokens of a document. -/
def Token.lex? (text : String) : Option (List Token) :=
  let cs := text.toList
  if !cs.all isAllowed then none
  else
    ((Lexer.skipMark (Lexer.State.start cs)).finish? (2 * cs.length + 4)).map fun s =>
      Lexer.tokens s.items

end Specimen.Yaml
