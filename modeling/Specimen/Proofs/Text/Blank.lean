import Mathlib.Data.List.DropRight
import Mathlib.Data.List.Infix
import Specimen.Text.Blank

/-!
# Texts without the blanks at their ends

Trimming a text takes a part of it away at each end (`trimFront_isSuffix`, `trimBack_isPrefix`). It takes
nothing away exactly when there is no blank at an end (`trim_eq_self_iff`), and not everything where
something else comes first (`trim_ne_nil`). What it leaves is the text that has the original as itself
with blanks around it, and loses nothing when it is trimmed (`trim_eq_iff`).
-/

namespace Specimen.Text

variable {cs : List Char}

theorem trimBack_eq_rdropWhile (cs : List Char) : trimBack cs = cs.rdropWhile isBlank := rfl

theorem trimBack_isPrefix (cs : List Char) : trimBack cs <+: cs := List.rdropWhile_prefix isBlank cs

theorem trimFront_isSuffix (cs : List Char) : trimFront cs <:+ cs := List.dropWhile_suffix isBlank

theorem length_trim_le (cs : List Char) : (trim cs).length ≤ cs.length :=
  (trimBack_isPrefix _).length_le.trans (trimFront_isSuffix cs).length_le

/-- A text without blanks at its ends is left as it is. -/
theorem trim_eq_self_iff : trim cs = cs ↔
    (∀ c ∈ cs.head?, isBlank c = false) ∧ ∀ c ∈ cs.getLast?, isBlank c = false := by
  have hfront : trimFront cs = cs ↔ ∀ c ∈ cs.head?, isBlank c = false := by
    cases cs with
    | nil => simp [trimFront]
    | cons c cs => simp [trimFront]
  have hback : trimBack cs = cs ↔ ∀ c ∈ cs.getLast?, isBlank c = false := by
    rcases cs.eq_nil_or_concat with rfl | ⟨front, last, rfl⟩
    · simp [trimBack]
    · simp [trimBack_eq_rdropWhile, List.rdropWhile_eq_self_iff]
  rw [← hfront, ← hback]
  constructor
  · intro h
    have hlength : cs.length ≤ (trimFront cs).length := by
      have hle := (trimBack_isPrefix (trimFront cs)).length_le
      rwa [← trim, h] at hle
    have heq : trimFront cs = cs :=
      (trimFront_isSuffix cs).eq_of_length (Nat.le_antisymm (trimFront_isSuffix cs).length_le hlength)
    exact ⟨heq, by rwa [trim, heq] at h⟩
  · rintro ⟨h, h'⟩
    rw [trim, h, h']

/-- Something is left of a text that begins with no blank. -/
theorem trim_ne_nil {c : Char} (h : isBlank c = false) : trim (c :: cs) ≠ [] := by
  rw [trim, trimFront_cons h, trimBack_eq_rdropWhile, Ne, List.rdropWhile_eq_nil_iff]
  intro hblank
  exact Bool.noConfusion (h.symm.trans (hblank c List.mem_cons_self))

/-! ## Blanks around a text -/

/-- A text is `core` with blanks around it. -/
def Padded (core cs : List Char) : Prop :=
  ∃ front back, (∀ c ∈ front, isBlank c = true) ∧ (∀ c ∈ back, isBlank c = true) ∧
    cs = front ++ core ++ back

/-- Every text is a core with blanks around it. -/
theorem padded_trim (cs : List Char) : Padded (trim cs) cs := by
  refine ⟨cs.takeWhile isBlank, (trimFront cs).rtakeWhile isBlank,
    fun _ hc => List.mem_takeWhile_imp hc, fun _ hc => List.mem_rtakeWhile_imp hc, ?_⟩
  have hback : trimBack (trimFront cs) ++ (trimFront cs).rtakeWhile isBlank = trimFront cs := by
    rw [trimBack, List.rtakeWhile, ← List.reverse_append, List.takeWhile_append_dropWhile,
      List.reverse_reverse]
  rw [trim, List.append_assoc, hback, trimFront, List.takeWhile_append_dropWhile]

/-- Blanks before a text are dropped. -/
theorem trimFront_append {front : List Char} (blank : ∀ c ∈ front, isBlank c = true)
    (cs : List Char) : trimFront (front ++ cs) = trimFront cs :=
  List.dropWhile_append_of_pos blank

/-- Blanks behind a text are dropped. -/
theorem trimBack_append_blank {back : List Char} (blank : ∀ c ∈ back, isBlank c = true)
    (cs : List Char) : trimBack (cs ++ back) = trimBack cs := by
  rw [trimBack, List.reverse_append, List.dropWhile_append_of_pos fun c hc =>
    blank c (List.mem_reverse.mp hc), trimBack]

theorem trim_of_blank (blank : ∀ c ∈ cs, isBlank c = true) : trim cs = [] := by
  rw [trim, trimFront, List.dropWhile_eq_nil_iff.mpr blank]
  rfl

/-- Blanks around a text are taken away with its own. -/
theorem trim_of_padded {core : List Char} (h : Padded core cs) : trim cs = trim core := by
  obtain ⟨front, back, hfront, hback, rfl⟩ := h
  rw [List.append_assoc, trim, trimFront_append hfront]
  by_cases hcore : ∀ c ∈ core, isBlank c = true
  · rw [trimFront_append hcore, ← trim, trim_of_blank hback, trim_of_blank hcore]
  · have hne : (core.dropWhile isBlank).isEmpty = false := by
      rw [List.isEmpty_eq_false_iff, Ne, List.dropWhile_eq_nil_iff]
      exact hcore
    rw [trimFront, List.dropWhile_append, hne]
    exact trimBack_append_blank hback _

theorem trim_trim (cs : List Char) : trim (trim cs) = trim cs := (trim_of_padded (padded_trim cs)).symm

/-- A text has a core if blanks stand around it and none at its own ends. -/
theorem trim_eq_iff {core : List Char} : trim cs = core ↔ Padded core cs ∧ trim core = core := by
  constructor
  · rintro rfl
    exact ⟨padded_trim cs, trim_trim cs⟩
  · rintro ⟨hpadded, hcore⟩
    rw [trim_of_padded hpadded, hcore]

end Specimen.Text
