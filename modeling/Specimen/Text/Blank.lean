/-!
# Blank characters

Names, paths and category tokens are read without the blanks around them. A character is blank when
the Unicode property `White_Space` holds of it: six ASCII characters and nineteen others, so more
than `Char.isWhitespace` knows. Everything here works on lists of characters, and `trimmed` is the
same operation on a `String`.

Main statements: an end that is not blank stays as it is (`trimFront_cons`, `trimBack_append`).
-/

namespace Specimen.Text

/-- Unicode `White_Space`. -/
def isBlank (c : Char) : Bool :=
  let n := c.toNat
  (0x09 ≤ n && n ≤ 0x0D) || n == 0x20 || n == 0x85 || n == 0xA0 || n == 0x1680
    || (0x2000 ≤ n && n ≤ 0x200A) || n == 0x2028 || n == 0x2029 || n == 0x202F || n == 0x205F
    || n == 0x3000

/-- Drops the blanks at the front. -/
def trimFront (cs : List Char) : List Char := cs.dropWhile isBlank

/-- Drops the blanks at the back. -/
def trimBack (cs : List Char) : List Char := (cs.reverse.dropWhile isBlank).reverse

/-- Drops the blanks at both ends. -/
def trim (cs : List Char) : List Char := trimBack (trimFront cs)

/-- The text without the blanks at its ends. -/
def trimmed (s : String) : String := String.ofList (trim s.toList)

/-- A list whose first character is not blank loses nothing at the front. -/
theorem trimFront_cons {c : Char} (h : isBlank c = false) (cs : List Char) :
    trimFront (c :: cs) = c :: cs := by
  simp [trimFront, h]

/-- A list whose last character is not blank loses nothing at the back. -/
theorem trimBack_append {c : Char} (h : isBlank c = false) (cs : List Char) :
    trimBack (cs ++ [c]) = cs ++ [c] := by
  simp [trimBack, h]

end Specimen.Text
