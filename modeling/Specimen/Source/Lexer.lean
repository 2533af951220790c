import Specimen.Source.Literal
import Specimen.Source.Token
import Specimen.Text.Blank
import Specimen.Text.Quoted

/-!
# From text to tokens

`Token.lex?` cuts a text into tokens, or refuses it: when it holds a character that begins no token,
a literal or a comment that does not end, or brackets that do not match. Blanks and comments are
dropped, but a comment for documentation becomes the tokens of an attribute. A mark at the very
beginning that tells the byte order is dropped too.

The text is first cut into `Piece`s, in which an opening and a closing bracket are pieces of their
own, and the pieces are then nested. Cutting off one piece shortens the text, so the length of the
text bounds the number of steps.
-/

namespace Specimen.Source

open Specimen.Text

/-- A token, or one bracket of a group. -/
inductive Piece where
  | leaf (token : Token)
  | opening (delimiter : Delimiter)
  | closing (delimiter : Delimiter)
  deriving Repr

namespace Piece

/-! ## Blanks and comments -/

/-- Blanks between tokens: the two marks for the direction of writing count too. -/
def isGap (c : Char) : Bool := isBlank c || c.toNat == 0x200E || c.toNat == 0x200F

/-- Reads a comment whose opening has been read up to its end, where comments inside it have to end
as well; gives what it holds and the text behind it. -/
def blockComment? : (depth : Nat) → List Char → Option (List Char × List Char)
  | _, [] => none
  | depth, '/' :: '*' :: cs =>
    (blockComment? (depth + 1) cs).map fun (inner, rest) => ('/' :: '*' :: inner, rest)
  | 0, '*' :: '/' :: cs => some ([], cs)
  | depth + 1, '*' :: '/' :: cs =>
    (blockComment? depth cs).map fun (inner, rest) => ('*' :: '/' :: inner, rest)
  | depth, c :: cs => (blockComment? depth cs).map fun (inner, rest) => (c :: inner, rest)

/-- Whether what follows `//` makes the comment one for documentation. -/
def documentsLine : List Char → Bool
  | '/' :: '/' :: _ => false
  | '/' :: _ => true
  | '!' :: _ => true
  | _ => false

/-- Whether what follows the opening of a block comment makes it one for documentation. -/
def documentsBlock : List Char → Bool
  | '*' :: '*' :: _ => false
  | '*' :: '/' :: _ => false
  | '*' :: _ => true
  | '!' :: _ => true
  | _ => false

/-- Drops the blanks and the plain comments at the front. -/
def dropGaps : (fuel : Nat) → List Char → List Char
  | 0, cs => cs
  | _ + 1, [] => []
  | fuel + 1, '/' :: '/' :: cs =>
    if documentsLine cs then '/' :: '/' :: cs else dropGaps fuel (cs.dropWhile (· != '\n'))
  | fuel + 1, '/' :: '*' :: cs =>
    if documentsBlock cs then '/' :: '*' :: cs
    else
      match blockComment? 0 cs with
      | some (_, rest) => dropGaps fuel rest
      | none => '/' :: '*' :: cs
  | fuel + 1, c :: cs => if isGap c then dropGaps fuel cs else c :: cs

/-! ## Documentation -/

/-- Whether every carriage return in a text has a line feed after it. -/
def endsLinesProperly : List Char → Bool
  | [] => true
  | '\r' :: '\n' :: cs => endsLinesProperly cs
  | '\r' :: _ => false
  | _ :: cs => endsLinesProperly cs

/-- The text without a carriage return at its end. -/
def dropReturn (cs : List Char) : List Char :=
  match cs.reverse with
  | '\r' :: rest => rest.reverse
  | _ => cs

/-- A comment for documentation at the front: whether it documents what encloses it, what it says,
and the text behind it. -/
def documentation? : List Char → Option (Bool × List Char × List Char)
  | '/' :: '/' :: mark :: cs =>
    if documentsLine (mark :: cs) then
      let line := cs.takeWhile (· != '\n')
      let rest := cs.dropWhile (· != '\n')
      some (mark == '!', if rest.isEmpty then line else dropReturn line, rest)
    else none
  | '/' :: '*' :: mark :: cs =>
    if documentsBlock (mark :: cs) then
      (blockComment? 0 cs).map fun (inner, rest) => (mark == '!', inner, rest)
    else none
  | _ => none

/-- The attribute that a comment for documentation stands for. -/
def ofDocumentation (inner : Bool) (words : List Char) : List Piece :=
  .leaf (Token.lone '#') :: ((if inner then [.leaf (Token.lone '!')] else [])
    ++ [.opening .bracket, .leaf (.word "doc"), .leaf (Token.lone '='),
      .leaf (.literal (quoted (String.ofList words))), .closing .bracket])

/-! ## Single tokens -/

/-- The characters of punctuation, the apostrophe apart. -/
def marks : List Char :=
  ['~', '!', '@', '#', '$', '%', '^', '&', '*', '-', '=', '+', '|', ';', ':', ',', '<', '.', '>',
    '/', '?']

/-- Whether a text begins with a mark or an apostrophe; the opening of a comment is no mark. -/
def startsMark : List Char → Bool
  | '/' :: '/' :: _ => false
  | '/' :: '*' :: _ => false
  | c :: _ => marks.contains c || c == '\''
  | [] => false

/-- Words that stand for themselves only and cannot be written raw. -/
def isReservedRaw (word : String) : Bool :=
  word == "_" || word == "super" || word == "self" || word == "Self" || word == "crate"

/-- The identifier at the front, raw or not, and the text behind it. -/
def identifier? : List Char → Option (String × List Char)
  | 'r' :: '#' :: cs =>
    match takeWord? cs with
    | some (word, rest) =>
      if isReservedRaw (String.ofList word) then none
      else some (String.ofList ('r' :: '#' :: word), rest)
    | none => none
  | cs =>
    match takeWord? cs with
    | some (word, rest) => some (String.ofList word, rest)
    | none => none

/-- Whether a text begins like a literal with a letter in front, so that no word begins there. -/
def startsPrefixed : List Char → Bool
  | 'r' :: '"' :: _ => true
  | 'r' :: '#' :: '"' :: _ => true
  | 'r' :: '#' :: '#' :: _ => true
  | 'b' :: '"' :: _ => true
  | 'b' :: '\'' :: _ => true
  | 'b' :: 'r' :: '"' :: _ => true
  | 'b' :: 'r' :: '#' :: _ => true
  | 'c' :: '"' :: _ => true
  | 'c' :: 'r' :: '"' :: _ => true
  | 'c' :: 'r' :: '#' :: _ => true
  | _ => false

/-- The lifetime whose apostrophe has been read. -/
def lifetime? (cs : List Char) : Option (Token × List Char) :=
  match identifier? cs with
  | none => none
  | some (name, rest) =>
    let raw := (dropFront? ['r', '#'] cs).isSome
    match rest with
    | '\'' :: _ => none
    | '#' :: _ => if raw then some (.lifetime name, rest) else none
    | _ => some (.lifetime name, rest)

/-- The token at the front that is no bracket, and the text behind it. -/
def leaf? (cs : List Char) : Option (Token × List Char) :=
  match Literal.after? cs with
  | some rest => some (.literal (String.ofList (cs.take (cs.length - rest.length))), rest)
  | none =>
    match cs with
    | [] => none
    | '\'' :: rest => lifetime? rest
    | c :: rest =>
      if startsMark cs then some (.mark c (startsMark rest), rest)
      else if startsPrefixed cs then none
      else (identifier? cs).map fun (name, rest) => (.word name, rest)

/-! ## The whole text -/

/-- The pieces of a text. -/
def lex? : (fuel : Nat) → List Char → Option (List Piece)
  | 0, _ => none
  | fuel + 1, cs =>
    let cs := dropGaps (cs.length + 1) cs
    match documentation? cs with
    | some (inner, words, rest) =>
      if endsLinesProperly words then (lex? fuel rest).map (ofDocumentation inner words ++ ·)
      else none
    | none =>
      match cs with
      | [] => some []
      | '(' :: rest => (lex? fuel rest).map (.opening .paren :: ·)
      | '[' :: rest => (lex? fuel rest).map (.opening .bracket :: ·)
      | '\x7b' :: rest => (lex? fuel rest).map (.opening .brace :: ·)
      | ')' :: rest => (lex? fuel rest).map (.closing .paren :: ·)
      | ']' :: rest => (lex? fuel rest).map (.closing .bracket :: ·)
      | '\x7d' :: rest => (lex? fuel rest).map (.closing .brace :: ·)
      | _ =>
        match leaf? cs with
        | some (token, rest) => (lex? fuel rest).map (.leaf token :: ·)
        | none => none

/-- Nests pieces into tokens. `outer` holds the open groups, the innermost first, each with the
tokens before it, and `done` the tokens read in the innermost one; both are in reverse. -/
def nest? : (outer : List (Delimiter × List Token)) → (done : List Token) → List Piece →
    Option (List Token)
  | [], done, [] => some done.reverse
  | _ :: _, _, [] => none
  | outer, done, .leaf token :: rest => nest? outer (token :: done) rest
  | outer, done, .opening delimiter :: rest => nest? ((delimiter, done) :: outer) [] rest
  | [], _, .closing _ :: _ => none
  | (delimiter, before) :: outer, done, .closing closed :: rest =>
    if delimiter = closed then nest? outer (.group delimiter done.reverse :: before) rest
    else none

end Piece

namespace Token

/-- The text without a mark of byte order at its front. -/
def dropOrderMark : List Char → List Char
  | c :: cs => if c.toNat = 0xFEFF then cs else c :: cs
  | [] => []

/-- The tokens of a text. -/
def lex? (text : List Char) : Option (List Token) :=
  (Piece.lex? (text.length + 1) (dropOrderMark text)).bind (Piece.nest? [] [])

end Token

end Specimen.Source
