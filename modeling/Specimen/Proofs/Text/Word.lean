import Specimen.Text.Blank
import Specimen.Text.Word

/-!
# What is no letter

Words are cut off where a character comes that cannot continue them. For the characters of ASCII it is
plain which these are. Beyond ASCII the tables of letters have to be looked at: they leave out every
blank and the marks of direction and of byte order (`isWordPart_eq_false_of_isBlank`,
`isWordPart_eq_false_of_mem_gap`).

`takeWord?_append` is the law of `takeWord?`: it cuts off a word that has something else behind it.
-/

namespace Specimen.Text

variable {c d : Char}

theorem ne_of_isWordStart (hc : isWordStart c = true) (hd : isWordStart d = false) : c ≠ d := by
  rintro rfl
  exact Bool.noConfusion (hc.symm.trans hd)

theorem ne_of_isWordPart (hc : isWordPart c = true) (hd : isWordPart d = false) : c ≠ d := by
  rintro rfl
  exact Bool.noConfusion (hc.symm.trans hd)

/-- What passes a test is none of those that do not, as the first character of a word is none that
begins no word. -/
theorem not_mem_of_all_not {α : Type} {p : α → Bool} {a : α} {l : List α} (ha : p a = true)
    (hl : (l.all fun b => !p b) = true) : a ∉ l := by
  intro hmem
  have hno := List.all_eq_true.mp hl a hmem
  rw [ha] at hno
  exact Bool.noConfusion hno

/-- The search in halves finds a number if and only if it lies in one of the ranges. -/
theorem inRanges_iff {ranges : Array (Nat × Nat)} {n : Nat} :
    inRanges ranges n = true ↔ ∃ range ∈ ranges.toList, range.1 ≤ n ∧ n ≤ range.2 := by
  rw [inRanges, ← Array.any_toList, List.any_eq_true]
  simp

/-- Ranges of characters beyond ASCII that are blank, or tell the direction or the byte order. -/
def gapRanges : List (Nat × Nat) :=
  [(0x85, 0x85), (0xA0, 0xA0), (0x1680, 0x1680), (0x2000, 0x200A), (0x200E, 0x200F),
    (0x2028, 0x2029), (0x202F, 0x202F), (0x205F, 0x205F), (0x3000, 0x3000), (0xFEFF, 0xFEFF)]

/-- The beginnings of words lie apart from all gaps. -/
theorem wordStartRanges_apart : ∀ range ∈ wordStartRanges.toList, ∀ gap ∈ gapRanges,
    range.2 < gap.1 ∨ gap.2 < range.1 := by
  decide +kernel

theorem wordOnlyRanges_apart : ∀ range ∈ wordOnlyRanges.toList, ∀ gap ∈ gapRanges,
    range.2 < gap.1 ∨ gap.2 < range.1 := by
  decide +kernel

/-- A character in a range apart from the tables of letters is no letter. -/
theorem inRanges_eq_false {ranges : Array (Nat × Nat)} {gap : Nat × Nat} {n : Nat}
    (apart : ∀ range ∈ ranges.toList, range.2 < gap.1 ∨ gap.2 < range.1)
    (h : gap.1 ≤ n ∧ n ≤ gap.2) : inRanges ranges n = false := by
  rw [Bool.eq_false_iff]
  intro hin
  obtain ⟨range, hrange, hle⟩ := inRanges_iff.mp hin
  have := apart range hrange
  omega

/-- The characters of gaps are no parts of words. -/
theorem isWordPart_eq_false_of_mem_gap {gap : Nat × Nat} (hgap : gap ∈ gapRanges)
    (h : gap.1 ≤ c.toNat ∧ c.toNat ≤ gap.2) : isWordPart c = false := by
  have hascii : ¬ c.toNat < 0x80 := by
    have hfirst : ∀ gap ∈ gapRanges, 0x80 ≤ gap.1 := by decide
    have := hfirst gap hgap
    omega
  have hstart := inRanges_eq_false (fun range hr => wordStartRanges_apart range hr gap hgap) h
  have honly := inRanges_eq_false (fun range hr => wordOnlyRanges_apart range hr gap hgap) h
  simp only [isWordPart, isWordStart, if_neg hascii, hstart, honly, Bool.or_false]

/-- Below the letters of ASCII, but for the digits, no character continues a word. -/
theorem isWordPart_eq_false_of_lt (h : c.toNat < 0x30) : isWordPart c = false := by
  have hascii : c.toNat < 0x80 := by omega
  simp only [isWordPart, isWordStart, if_pos hascii]
  simp
  omega

/-- No blank continues a word. -/
theorem isWordPart_eq_false_of_isBlank (h : isBlank c = true) : isWordPart c = false := by
  simp only [isBlank, Bool.or_eq_true, Bool.and_eq_true, decide_eq_true_eq, beq_iff_eq] at h
  by_cases hlow : c.toNat < 0x30
  · exact isWordPart_eq_false_of_lt hlow
  · have hgap : ∃ gap ∈ gapRanges, gap.1 ≤ c.toNat ∧ c.toNat ≤ gap.2 := by
      simp only [gapRanges, List.mem_cons, List.not_mem_nil, or_false, exists_eq_or_imp,
        exists_eq_left]
      omega
    obtain ⟨gap, hmem, hle⟩ := hgap
    exact isWordPart_eq_false_of_mem_gap hmem hle

/-- What begins a word is no blank. -/
theorem isBlank_eq_false_of_isWordStart (h : isWordStart c = true) : isBlank c = false := by
  rw [Bool.eq_false_iff]
  intro hblank
  have hpart := isWordPart_of_isWordStart h
  exact Bool.noConfusion (hpart.symm.trans (isWordPart_eq_false_of_isBlank hblank))

/-- A word with something else behind it is cut off as it is. -/
theorem takeWord?_append {cs rest : List Char} (start : isWordStart c = true)
    (parts : ∀ d ∈ cs, isWordPart d = true) (stop : ∀ d ∈ rest.head?, isWordPart d = false) :
    takeWord? (c :: cs ++ rest) = some (c :: cs, rest) := by
  have hrest : rest.takeWhile isWordPart = [] ∧ rest.dropWhile isWordPart = rest := by
    cases rest with
    | nil => exact ⟨rfl, rfl⟩
    | cons d rest =>
      have hd := stop d rfl
      simp [hd]
  simp only [List.cons_append, takeWord?, start, if_true,
    List.takeWhile_append_of_pos parts, List.dropWhile_append_of_pos parts, hrest, List.append_nil]

end Specimen.Text
