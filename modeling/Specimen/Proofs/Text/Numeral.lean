import Specimen.Text.Numeral

/-!
# Numerals

A number is written in digits only, and different numbers in different digits (`decimal_injective`). A
number with an upper limit is read from ASCII digits, at least one, with an optional plus sign in front
of them; leading zeros do not count (`readBounded?_eq_some_iff`).
-/

namespace Specimen.Text

variable {cs : List Char} {n limit : Nat}

/-! ## Numerals that are written -/

/-- Different numbers are written with different digits. -/
theorem decimal_injective : Function.Injective decimal := by
  intro m n h
  apply Option.some.inj
  rw [← readDecimal?_decimal m, ← readDecimal?_decimal n, h]

theorem isDigit_of_mem_decimal {c : Char} (h : c ∈ decimal n) : c.isDigit = true :=
  Nat.isDigit_of_mem_toDigits (by omega) (by omega) h

/-- What is no digit does not occur in a numeral. -/
theorem not_mem_decimal {c : Char} (h : c.isDigit = false) (n : Nat) : c ∉ decimal n := by
  intro hmem
  exact Bool.noConfusion (h.symm.trans (isDigit_of_mem_decimal hmem))

/-! ## Numerals that are read -/

/-- A text of ASCII digits, at least one, behind an optional plus sign; `n` is their value. -/
def IsNumeral (cs : List Char) (n : Nat) : Prop :=
  ∃ digits, (cs = digits ∨ cs = '+' :: digits) ∧ digits ≠ [] ∧
    (∀ c ∈ digits, c.isDigit = true) ∧ n = Nat.ofDigitChars 10 digits 0

/-- Only digits have a value to the base ten. -/
theorem isDigit_of_digitValue? {c : Char} {d : Nat} (h : digitValue? 10 c = some d) :
    c.isDigit = true := by
  obtain ⟨hvalue, hlt⟩ := Option.filter_eq_some_iff.mp h
  have hten : d < 10 := of_decide_eq_true hlt
  have hrange : 0x30 ≤ c.toNat ∧ c.toNat ≤ 0x39 := by
    split at hvalue
    · assumption
    · -- letters stand for ten and more
      exfalso
      split at hvalue
      · cases hvalue
        omega
      · split at hvalue
        · cases hvalue
          omega
        · cases hvalue
  rw [Char.isDigit, Bool.and_eq_true, decide_eq_true_eq, decide_eq_true_eq]
  exact hrange

/-- Digits are read on from a number as the number that they lead to. -/
theorem readDigits?_eq_some_iff {acc : Nat} : readDigits? 10 acc cs = some n ↔
    (∀ c ∈ cs, c.isDigit = true) ∧ n = Nat.ofDigitChars 10 cs acc := by
  constructor
  · intro h
    have hdigits : ∀ c ∈ cs, c.isDigit = true := by
      induction cs generalizing acc with
      | nil => exact fun c hc => absurd hc List.not_mem_nil
      | cons c cs ih =>
        rw [readDigits?] at h
        split at h
        · rename_i d hd
          exact List.forall_mem_cons.mpr ⟨isDigit_of_digitValue? hd, ih h⟩
        · cases h
    rw [readDigits?_of_isDigit hdigits] at h
    exact ⟨hdigits, (Option.some.inj h).symm⟩
  · rintro ⟨hdigits, rfl⟩
    exact readDigits?_of_isDigit hdigits acc

/-- A numeral is read from digits, one at least, as the number that they stand for. -/
theorem readDecimal?_eq_some_iff : readDecimal? cs = some n ↔
    cs ≠ [] ∧ (∀ c ∈ cs, c.isDigit = true) ∧ n = Nat.ofDigitChars 10 cs 0 := by
  cases cs with
  | nil => simp [readDecimal?, readBase?]
  | cons c cs =>
    rw [readDecimal?, readBase?, readDigits?_eq_some_iff]
    simp

/-- Digits have no sign in front. -/
theorem dropPlus_of_isDigit (h : ∀ c ∈ cs, c.isDigit = true) : readBounded?.dropPlus cs = cs := by
  cases cs with
  | nil => rfl
  | cons c cs =>
    have hne : c ≠ '+' := by
      rintro rfl
      exact absurd (h '+' List.mem_cons_self) (by decide)
    rw [readBounded?.dropPlus]
    simpa using hne

/-- A sign in front is dropped, and nothing else. -/
theorem dropPlus_eq (cs : List Char) :
    cs = readBounded?.dropPlus cs ∨ cs = '+' :: readBounded?.dropPlus cs := by
  rw [readBounded?.dropPlus.eq_def]
  split
  · exact .inr rfl
  · exact .inl rfl

/-- A bounded number is read exactly from a numeral whose value is within the limit. -/
theorem readBounded?_eq_some_iff :
    readBounded? limit cs = some n ↔ IsNumeral cs n ∧ n ≤ limit := by
  rw [readBounded?, Option.filter_eq_some_iff, readDecimal?_eq_some_iff, decide_eq_true_eq]
  refine and_congr_left fun _ => ⟨fun h => ⟨_, dropPlus_eq cs, h⟩, ?_⟩
  rintro ⟨digits, rfl | rfl, hdigits⟩
  · rwa [dropPlus_of_isDigit hdigits.2.1]
  · exact hdigits

/-- A number within a limit is read back from its numeral. -/
theorem readBounded?_decimal (h : n ≤ limit) : readBounded? limit (decimal n) = some n := by
  have hplus : readBounded?.dropPlus (decimal n) = decimal n :=
    dropPlus_of_isDigit fun _ => isDigit_of_mem_decimal
  rw [readBounded?, hplus, readDecimal?_decimal, Option.filter, if_pos (by simpa using h)]

end Specimen.Text
