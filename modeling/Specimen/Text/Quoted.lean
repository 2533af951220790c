import Specimen.Text.EscapedTable
import Specimen.Text.Numeral
import Specimen.Text.Word

/-!
# Text literals

The written form of a text in generated source: the text between double quotes, with the tab, the
line ends, the quote and the backslash escaped by a backslash, and every character that would not
show by its number in hexadecimal. An apostrophe is not escaped. The character zero is written `\0`,
but `\x00` where an octal digit follows it.
-/

namespace Specimen.Text

/-- Whether a character is written by its number. -/
def isHidden (c : Char) : Bool :=
  let n := c.toNat
  if n < 0x80 then n < 0x20 || n == 0x7F else inRanges escapedRanges n

/-- Whether a text begins with an octal digit. -/
def startsOctal : List Char → Bool
  | c :: _ => 0x30 ≤ c.toNat && c.toNat ≤ 0x37
  | [] => false

/-- One character as it stands between the quotes of a literal, before the text `rest`. -/
def escapeChar (c : Char) (rest : List Char) : List Char :=
  if c = '\t' then ['\\', 't']
  else if c = '\n' then ['\\', 'n']
  else if c = '\r' then ['\\', 'r']
  else if c = '"' then ['\\', '"']
  else if c = '\\' then ['\\', '\\']
  else if c.toNat = 0 then (if startsOctal rest then ['\\', 'x', '0', '0'] else ['\\', '0'])
  else if isHidden c then ['\\', 'u', '\x7b'] ++ hexadecimal c.toNat ++ ['\x7d']
  else [c]

/-- A text as it stands between the quotes of a literal. -/
def escape : List Char → List Char
  | [] => []
  | c :: cs => escapeChar c cs ++ escape cs

/-- The literal of a text. -/
def quoted (s : String) : String := String.ofList ('"' :: (escape s.toList ++ ['"']))

/-- A text as messages show it: a literal in which apostrophes are escaped as well, and in which the
character zero is always written `\0`. -/
def shown (s : String) : String :=
  let inner := s.toList.flatMap fun c => if c = '\'' then ['\\', '\''] else escapeChar c []
  String.ofList ('"' :: (inner ++ ['"']))

end Specimen.Text
