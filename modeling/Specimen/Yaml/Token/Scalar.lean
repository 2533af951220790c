import Specimen.Text.Numeral
import Specimen.Yaml.Character

/-!
# Scalars that span lines

The text of a scalar is read off its written form here: words without quotes, text between quotes,
and blocks of lines. Line ends inside the first two are folded: one that stands alone becomes a space,
of several the first is dropped, and the blanks around them are dropped as well (`folded`). A line
separator or a paragraph separator is kept as it is; all other line ends read as a line feed.

Every reader takes the text from the scalar on and returns the rest behind it, from which the lexer
works out where it stands.
-/

namespace Specimen.Yaml.Scalar

open Specimen.Text

/-! ## Line ends -/

/-- The text behind the line end that it begins with. -/
def skipBreak : List Char → List Char
  | '\r' :: '\n' :: cs => cs
  | _ :: cs => cs
  | [] => []

/-- The line end that a text begins with, as it is read. -/
def readBreak : List Char → List Char
  | c :: _ =>
    if c == '\u2028' || c == '\u2029' then [c] else if isBreak c then ['\n'] else []
  | [] => []

/-- The line ends in a run of blanks and line ends, as they are read. -/
def breaksOf : List Char → List Char
  | [] => []
  | '\r' :: '\n' :: cs => '\n' :: breaksOf cs
  | c :: cs => readBreak [c] ++ breaksOf cs

/-- What a run of blanks and line ends between two words reads as. -/
def folded (run : List Char) : List Char :=
  match breaksOf run with
  | [] => run
  | ['\n'] => [' ']
  | '\n' :: more => more
  | breaks => breaks

/-- The column behind a run that has a line end. -/
def columnAfter (run : List Char) : Nat := (run.reverse.takeWhile fun c => !isBreak c).length

/-- Whether a tab stands left of a column in a line that begins inside the run; `column?` is the
current column once such a line has begun. -/
def hasTabBefore (limit : Nat) : (column? : Option Nat) → List Char → Bool
  | _, [] => false
  | column?, c :: cs =>
    if isBreak c then hasTabBefore limit (some 0) cs
    else
      match column? with
      | none => hasTabBefore limit none cs
      | some column => (c == '\t' && column < limit) || hasTabBefore limit (some (column + 1)) cs

/-- Whether a text begins with three dashes or three points that stand for themselves. -/
def atDocumentMark : List Char → Bool
  | '-' :: '-' :: '-' :: cs => isOver cs
  | '.' :: '.' :: '.' :: cs => isOver cs
  | _ => false

/-- A blank or a line end. -/
def isFiller (c : Char) : Bool := isGap c || isBreak c

/-! ## Words without quotes -/

/-- What a scalar reads as, the rest behind it, and whether a line has ended since its last word. -/
structure Words where
  text : List Char
  rest : List Char
  broken : Bool

/-- Text in front of what has been read. -/
def Words.prepend (front : List Char) (words : Words) : Words :=
  { words with text := front ++ words.text }

/-- Reads words on from the text `cs`. `indent` is the least column of a line that belongs to the
scalar, `pending` what stands between the last word and this place, `broken` whether a line has ended
there. A scalar ends before a colon at the end of a word, before a comment and before a line that
stands too far left; inside brackets it also ends before a bracket or a comma, and a colon right
before one of them is an error. -/
def words? (inBrackets : Bool) (indent : Nat) :
    (fuel : Nat) → (pending : List Char) → (broken : Bool) → List Char → Option Words
  | 0, _, _, _ => none
  | _ + 1, _, broken, [] => some ⟨[], [], broken⟩
  | fuel + 1, pending, broken, c :: cs =>
    if isFiller c then
      let run := (c :: cs).takeWhile isFiller
      let after := (c :: cs).dropWhile isFiller
      let ends := run.any isBreak
      let column := columnAfter run
      if hasTabBefore indent none run then none
      else if ends && ((!inBrackets && column < indent) || (column == 0 && atDocumentMark after)) then
        some ⟨[], after, true⟩
      else if after.head? == some '#' then some ⟨[], after, ends⟩
      else words? inBrackets indent fuel (folded run) ends after
    else if inBrackets && c == ':' && cs.head?.any (",?[]\x7b\x7d".toList.contains ·) then none
    else if (c == ':' && isOver cs) || (inBrackets && ",[]\x7b\x7d".toList.contains c) then
      some ⟨[], c :: cs, broken⟩
    else (words? inBrackets indent fuel [] false cs).map (Words.prepend (pending ++ [c]))

/-! ## Text between quotes -/

/-- The escapes of one letter. -/
def escapeLetter? (c : Char) : Option Char :=
  match c with
  | '0' => some '\x00'
  | 'a' => some '\x07'
  | 'b' => some '\x08'
  | 't' | '\t' => some '\t'
  | 'n' => some '\n'
  | 'v' => some '\x0b'
  | 'f' => some '\x0c'
  | 'r' => some '\r'
  | 'e' => some '\x1b'
  | ' ' => some ' '
  | '"' => some '"'
  | '/' => some '/'
  | '\\' => some '\\'
  | 'N' => some '\x85'
  | '_' => some '\xa0'
  | 'L' => some '\u2028'
  | 'P' => some '\u2029'
  | _ => none

/-- The character with the given number, if there is one. -/
def charOf? (n : Nat) : Option Char := if n.isValidChar then some (Char.ofNat n) else none

/-- Reads an escape behind its backslash. -/
def escape? : List Char → Option (Char × List Char)
  | [] => none
  | c :: cs =>
    let numbered := fun (width : Nat) =>
      let ds := cs.take width
      if ds.length < width then none
      else ((readBase? 16 ds).bind charOf?).map fun d => (d, cs.drop width)
    match c with
    | 'x' => numbered 2
    | 'u' => numbered 4
    | 'U' => numbered 8
    | _ => (escapeLetter? c).map fun d => (d, cs)

/-- Text in front of what has been read. -/
def prepend (front : List Char) (read : List Char × List Char) : List Char × List Char :=
  (front ++ read.1, read.2)

/-- Reads text behind an opening quote up to the closing one. Between single quotes two of them stand
for one; between double quotes a backslash escapes, and one before a line end joins the lines without
a space. -/
def quoted? (single : Bool) : (fuel : Nat) → List Char → Option (List Char × List Char)
  | 0, _ => none
  | _ + 1, [] => none
  | fuel + 1, c :: cs =>
    if isFiller c then
      let run := (c :: cs).takeWhile isFiller
      let after := (c :: cs).dropWhile isFiller
      if run.getLast?.any isBreak && atDocumentMark after then none
      else (quoted? single fuel after).map (prepend (folded run))
    else if single then
      if c != '\'' then (quoted? single fuel cs).map (prepend [c])
      else if cs.head? == some '\'' then (quoted? single fuel cs.tail).map (prepend ['\''])
      else some ([], cs)
    else if c == '"' then some ([], cs)
    else if c != '\\' then (quoted? single fuel cs).map (prepend [c])
    else if cs.head?.any isBreak then
      let run := (skipBreak cs).takeWhile isFiller
      let after := (skipBreak cs).dropWhile isFiller
      if (run.isEmpty || run.getLast?.any isBreak) && atDocumentMark after then none
      else (quoted? single fuel after).map (prepend (breaksOf run))
    else
      match escape? cs with
      | none => none
      | some (d, after) => (quoted? single fuel after).map (prepend [d])

/-! ## Blocks of lines -/

/-- What happens to the line ends at the end of a block. -/
inductive Ending where
  | strip
  | clip
  | keep
  deriving DecidableEq, Repr

/-- The mark of an ending. -/
def endingOf? (c : Char) : Option Ending :=
  if c == '+' then some .keep else if c == '-' then some .strip else none

/-- The indentation that a header gives; a zero is an error. -/
def indentOf? (c : Char) : Option Nat := if c.isDigit then some (c.toNat - '0'.toNat) else none

/-- The header behind the bar of a block: ending and indentation in either order. -/
def header? (cs : List Char) : Option (Ending × Option Nat × List Char) :=
  let result := match cs with
    | c :: rest =>
      match endingOf? c with
      | some ending =>
        match rest.head?.bind indentOf? with
        | some n => (ending, some n, rest.tail)
        | none => (ending, none, rest)
      | none =>
        match indentOf? c with
        | some n =>
          match rest.head?.bind endingOf? with
          | some ending => (ending, some n, rest.tail)
          | none => (.clip, some n, rest)
        | none => (.clip, none, cs)
    | [] => (.clip, none, cs)
  let (ending, indent?, rest) := result
  if indent? == some 0 then none
  else
    let rest := rest.dropWhile isGap
    let rest := if rest.head? == some '#' then rest.dropWhile fun c => !isBreak c else rest
    match rest with
    | [] => some (ending, indent?, [])
    | c :: _ => if isBreak c then some (ending, indent?, skipBreak rest) else none

/-- The empty lines before a line of a block: their line ends, the greatest column reached, the column
at the end and the rest. -/
structure Gap where
  breaks : List Char
  widest : Nat
  column : Nat
  rest : List Char

/-- Reads empty lines. A line is empty if it has nothing but spaces up to the indentation; without a
known indentation all its spaces count. A tab in their place is an error. -/
def gap? (indent? : Option Nat) : (fuel : Nat) → List Char → Option Gap
  | 0, _ => none
  | fuel + 1, cs =>
    let spaces := cs.takeWhile (· == ' ')
    let column := match indent? with
      | some indent => min indent spaces.length
      | none => spaces.length
    let rest := cs.drop column
    match rest with
    | [] => some ⟨[], column, column, []⟩
    | c :: _ =>
      if c == '\t' && indent?.all (column < ·) then none
      else if isBreak c then
        (gap? indent? fuel (skipBreak rest)).map fun gap =>
          { gap with breaks := readBreak rest ++ gap.breaks, widest := max column gap.widest }
      else some ⟨[], column, column, rest⟩

/-- Reads the lines of a block from the place where the gap before them ends. `breaks` is the line end
of the line before and `blankBefore` whether that line began with a blank. -/
def lines? (literal : Bool) (ending : Ending) (indent : Nat) :
    (fuel : Nat) → (breaks : List Char) → (blankBefore : Bool) → Gap →
      Option (List Char × List Char)
  | 0, _, _, _ => none
  | fuel + 1, breaks, blankBefore, gap =>
    if gap.column == indent && !gap.rest.isEmpty then
      let blank := gap.rest.head?.any isGap
      let line := gap.rest.takeWhile fun c => !isBreak c
      let after := gap.rest.dropWhile fun c => !isBreak c
      let before :=
        if !literal && breaks == ['\n'] && !blankBefore && !blank then
          (if gap.breaks.isEmpty then [' '] else []) ++ gap.breaks
        else breaks ++ gap.breaks
      match gap? (some indent) (fuel + 1) (skipBreak after) with
      | none => none
      | some next =>
        (lines? literal ending indent fuel (readBreak after) blank next).map
          (prepend (before ++ line))
    else
      let tail := match ending with
        | .strip => []
        | .clip => breaks
        | .keep => breaks ++ gap.breaks
      some (tail, gap.rest)

/-- Reads a block of lines behind its bar. `parent` is the column of the block around it, -1 if there
is none. -/
def block? (literal : Bool) (parent : Int) (cs : List Char) : Option (List Char × List Char) :=
  let fuel := cs.length + 2
  match header? cs with
  | none => none
  | some (ending, given?, body) =>
    let given? := given?.map fun n => (max parent 0).toNat + n
    match gap? given? fuel body with
    | none => none
    | some gap =>
      let indent := given?.getD (max gap.widest (max (parent + 1) 1).toNat)
      lines? literal ending indent fuel [] false gap

end Specimen.Yaml.Scalar
