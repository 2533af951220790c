import Specimen.Text.Numeral
import Specimen.Yaml.Character
import Specimen.Yaml.Plain

/-!
# How a text is written

A text is written in the plainest of four styles that keeps it. Without quotes, if it could not be
taken for anything else; a text with a line feed as a block of lines behind a bar; otherwise between
single quotes; and between double quotes, with escapes, if it has a character that does not show, or
a space at a place where the chosen style would lose it.

Lines are never folded, so a text is only broken where it has a line end of its own.
-/

namespace Specimen.Yaml

open Specimen.Text

/-- The four ways to write a text. -/
inductive Style where
  | plain
  | single
  | double
  /-- The lines of the text, each on a line of its own. -/
  | lines
  deriving DecidableEq, Repr

namespace Style

/-! ## What a text has in it -/

/-- Whether the first of two neighbours satisfies `p` and the second `q`, anywhere in a text. -/
def hasPair (p q : Char → Bool) : List Char → Bool
  | a :: b :: cs => (p a && q b) || hasPair p q (b :: cs)
  | _ => false

/-- Whether a character is a space. -/
def isSpace (c : Char) : Bool := c == ' '

/-- Whether the first character of a text opens something else than a plain text. -/
def opensMarkup : List Char → Bool
  | [] => false
  | c :: cs =>
    "#,[]\x7b\x7d&*!|>'\"%@`".toList.contains c
      || ((c == '?' || c == ':' || c == '-') && isOver cs)

/-- Whether a text has a colon at the end of a word, or a hash at the beginning of one, after its
first character. -/
def hasMarkup : List Char → Bool
  | a :: b :: cs =>
    (b == ':' && isOver cs) || (b == '#' && (isGap a || isBreak a)) || hasMarkup (b :: cs)
  | _ => false

/-- Whether a text begins like a line between documents. -/
def opensDocument : List Char → Bool
  | '-' :: '-' :: '-' :: _ => true
  | '.' :: '.' :: '.' :: _ => true
  | _ => false

/-- Whether a text begins or ends with a character of a kind. -/
def touches (p : Char → Bool) (cs : List Char) : Bool :=
  cs.head?.any p || cs.getLast?.any p

/-- Whether only escapes can show a text. -/
def needsEscapes (cs : List Char) : Bool :=
  cs.any (fun c => !isShown c) || hasPair isSpace isBreak cs

/-- Whether a text keeps its meaning without quotes, as far as its characters go. -/
def allowsPlain (cs : List Char) : Bool :=
  !touches (fun c => isSpace c || isBreak c) cs && !hasPair isBreak isSpace cs
    && !needsEscapes cs && !cs.any isBreak && !opensDocument cs && !opensMarkup cs && !hasMarkup cs

/-- Whether a text keeps its meaning between single quotes. -/
def allowsSingle (cs : List Char) : Bool := !hasPair isBreak isSpace cs && !needsEscapes cs

/-- Whether a text keeps its meaning as lines. -/
def allowsLines (cs : List Char) : Bool := !cs.getLast?.any isSpace && !needsEscapes cs

/-- The style a text is written in. -/
def of (s : String) : Style :=
  let cs := s.toList
  if cs.contains '\n' then (if allowsLines cs then .lines else .double)
  else if !Plain.isAmbiguous s && allowsPlain cs then .plain
  else if allowsSingle cs then .single
  else .double

/-! ## Writing in a style -/

/-- The spaces before a line. -/
def spaces (n : Nat) : List Char := List.replicate n ' '

/-- A character between double quotes. -/
def escaped (c : Char) : List Char :=
  let n := c.toNat
  let number := fun (letter : Char) (width : Nat) =>
    '\\' :: letter :: (hexadecimalOf width n).map Char.toUpper
  if isShown c && !isBreak c && c != '"' && c != '\\' then [c]
  else
    match n with
    | 0x00 => ['\\', '0']
    | 0x07 => ['\\', 'a']
    | 0x08 => ['\\', 'b']
    | 0x09 => ['\\', 't']
    | 0x0A => ['\\', 'n']
    | 0x0B => ['\\', 'v']
    | 0x0C => ['\\', 'f']
    | 0x0D => ['\\', 'r']
    | 0x1B => ['\\', 'e']
    | 0x22 => ['\\', '"']
    | 0x5C => ['\\', '\\']
    | 0x85 => ['\\', 'N']
    | 0x2028 => ['\\', 'L']
    | 0x2029 => ['\\', 'P']
    | _ =>
      if n ≤ 0xFF then number 'x' 2 else if n ≤ 0xFFFF then number 'u' 4 else number 'U' 8

/-- The characters between single quotes; `broken` tells whether a line has just ended. -/
def singleInner (indent : Nat) : (broken : Bool) → List Char → List Char
  | broken, [] => if broken then spaces indent else []
  | broken, c :: cs =>
    if isBreak c then c :: singleInner indent true cs
    else
      (if broken then spaces indent else []) ++ (if c = '\'' then ['\'', '\''] else [c])
        ++ singleInner indent false cs

/-- The lines of a text, each behind its indentation; `broken` tells whether a line has just
ended. -/
def linesInner (indent : Nat) : (broken : Bool) → List Char → List Char
  | _, [] => []
  | broken, c :: cs =>
    if isBreak c then c :: linesInner indent true cs
    else (if broken then spaces indent else []) ++ c :: linesInner indent false cs

/-- What stands behind the bar of a block: the indentation, if the first line does not show it, and
what happens to the line ends at the end. One line end needs no mark. -/
def linesMark (cs : List Char) : List Char :=
  (if cs.head?.any fun c => isSpace c || isBreak c then ['2'] else [])
    ++ match cs.reverse with
      | [] => ['-']
      | [c] => if isBreak c then ['+'] else ['-']
      | c :: d :: _ => if !isBreak c then ['-'] else if isBreak d then ['+'] else []

/-- A text in its style; lines after the first are indented by `indent`. -/
def write (indent : Nat) (s : String) : List Char :=
  let cs := s.toList
  match Style.of s with
  | .plain => cs
  | .single => '\'' :: (singleInner indent false cs ++ ['\''])
  | .double => '"' :: (cs.flatMap escaped ++ ['"'])
  | .lines => '|' :: (linesMark cs ++ '\n' :: linesInner indent true cs)

end Style

end Specimen.Yaml
