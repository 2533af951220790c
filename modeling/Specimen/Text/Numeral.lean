/-!
# Numerals

Whole numbers as text: reading digits in a base from two to sixteen, reading a bounded number, and
writing one in decimal or hexadecimal. Only ASCII digits are digits.

Main statement: a decimal numeral reads back (`readDecimal?_decimal`).
-/

namespace Specimen.Text

/-- The value of a digit, letters of either case standing for ten to fifteen. -/
def digitValue? (base : Nat) (c : Char) : Option Nat :=
  let n := c.toNat
  let value? :=
    if 0x30 ≤ n ∧ n ≤ 0x39 then some (n - 0x30)
    else if 0x61 ≤ n ∧ n ≤ 0x66 then some (n - 0x61 + 10)
    else if 0x41 ≤ n ∧ n ≤ 0x46 then some (n - 0x41 + 10)
    else none
  value?.filter (· < base)

/-- Reads digits on from the value `acc` of the digits before them. -/
def readDigits? (base : Nat) : (acc : Nat) → List Char → Option Nat
  | acc, [] => some acc
  | acc, c :: cs =>
    match digitValue? base c with
    | some d => readDigits? base (acc * base + d) cs
    | none => none

/-- Reads a numeral of one digit or more. -/
def readBase? (base : Nat) : List Char → Option Nat
  | [] => none
  | c :: cs => readDigits? base 0 (c :: cs)

/-- Reads a decimal numeral. -/
def readDecimal? (cs : List Char) : Option Nat := readBase? 10 cs

/-- Reads an unsigned decimal number of at most `limit`, with an optional plus sign. -/
def readBounded? (limit : Nat) (cs : List Char) : Option Nat :=
  (readDecimal? ((dropPlus cs))).filter (· ≤ limit)
where
  /-- The text without a plus sign at its front. -/
  dropPlus : List Char → List Char
    | '+' :: cs => cs
    | cs => cs

/-- The decimal numeral of a number. -/
def decimal (n : Nat) : List Char := Nat.toDigits 10 n

/-- The decimal numeral of a number. -/
def decimalText (n : Nat) : String := String.ofList (decimal n)

/-- The hexadecimal numeral of a number, in small letters and without leading zeros. -/
def hexadecimal (n : Nat) : List Char := Nat.toDigits 16 n

/-- The hexadecimal numeral of a number, filled with zeros up to `width` digits. -/
def hexadecimalOf (width n : Nat) : List Char :=
  let ds := hexadecimal n
  List.replicate (width - ds.length) '0' ++ ds

theorem digitValue?_of_isDigit {c : Char} (h : c.isDigit = true) :
    digitValue? 10 c = some (c.toNat - '0'.toNat) := by
  simp only [Char.isDigit, Bool.and_eq_true, decide_eq_true_eq, ge_iff_le,
    UInt32.le_iff_toNat_le] at h
  have h₁ : 48 ≤ c.toNat := h.1
  have h₂ : c.toNat ≤ 57 := h.2
  have hz : '0'.toNat = 48 := rfl
  have hlt : c.toNat - 48 < 10 := by omega
  simp only [digitValue?, hz, h₁, h₂, and_self, if_true, Option.filter, hlt, decide_true]

/-- Digits are read on from a number, digit by digit. -/
theorem readDigits?_of_isDigit {cs : List Char} (h : ∀ c ∈ cs, c.isDigit = true) (acc : Nat) :
    readDigits? 10 acc cs = some (Nat.ofDigitChars 10 cs acc) := by
  induction cs generalizing acc with
  | nil => simp [readDigits?]
  | cons c cs ih =>
    have hc := digitValue?_of_isDigit (h c (by simp))
    simp only [readDigits?, hc]
    rw [ih (fun d hd => h d (by simp [hd])), Nat.ofDigitChars_cons, Nat.mul_comm]

/-- A decimal numeral reads back as the number it was written for. -/
theorem readDecimal?_decimal (n : Nat) : readDecimal? (decimal n) = some n := by
  have hd : ∀ c ∈ decimal n, c.isDigit = true :=
    fun c hc => Nat.isDigit_of_mem_toDigits (by omega) (by omega) hc
  have hv : readDigits? 10 0 (decimal n) = some n := by
    rw [readDigits?_of_isDigit hd]
    exact congrArg some (Nat.ofDigitChars_toDigits (by omega) (by omega))
  unfold readDecimal? readBase?
  cases hcs : decimal n with
  | nil => exact absurd hcs (by simp [decimal])
  | cons c cs => rwa [hcs] at hv

end Specimen.Text
