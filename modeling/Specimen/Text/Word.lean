import Specimen.Text.WordTable

/-!
# Words

The letters that words of source text are made of: `_` and the characters with the Unicode property
`XID_Start` may begin a word, those with `XID_Continue` may continue one. ASCII is decided by
arithmetic, everything else by the range tables of `Specimen.Text.WordTable`.

Main statement: what may begin a word may continue one (`isWordPart_of_isWordStart`).
-/

namespace Specimen.Text

/-- Whether a code point lies in one of the closed ranges. -/
def inRanges (ranges : Array (Nat × Nat)) (n : Nat) : Bool :=
  ranges.any fun (first, last) => first ≤ n && n ≤ last

/-- Whether a character may begin a word. -/
def isWordStart (c : Char) : Bool :=
  let n := c.toNat
  if n < 0x80 then (0x61 ≤ n && n ≤ 0x7A) || (0x41 ≤ n && n ≤ 0x5A) || n == 0x5F
  else inRanges wordStartRanges n

/-- Whether a character may continue a word. -/
def isWordPart (c : Char) : Bool :=
  let n := c.toNat
  isWordStart c || (if n < 0x80 then 0x30 ≤ n && n ≤ 0x39 else inRanges wordOnlyRanges n)

/-- Cuts the longest word off the front of a text that begins with one. -/
def takeWord? : List Char → Option (List Char × List Char)
  | [] => none
  | c :: cs =>
    if isWordStart c then some (c :: cs.takeWhile isWordPart, cs.dropWhile isWordPart) else none

/-- What begins a word may also be part of one. -/
theorem isWordPart_of_isWordStart {c : Char} (h : isWordStart c = true) : isWordPart c = true := by
  simp [isWordPart, h]

/-- A word and the rest after it are the text they were cut from. -/
theorem takeWord?_eq_some {cs word rest : List Char} (h : takeWord? cs = some (word, rest)) :
    cs = word ++ rest := by
  cases cs with
  | nil => simp [takeWord?] at h
  | cons c cs =>
    simp only [takeWord?] at h
    split at h
    · simp only [Option.some.injEq, Prod.mk.injEq] at h
      obtain ⟨rfl, rfl⟩ := h
      simp
    · simp at h

end Specimen.Text
