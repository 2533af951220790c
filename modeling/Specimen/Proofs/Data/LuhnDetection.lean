import Specimen.Proofs.Data.Luhn

/-!
# Mistakes that a check digit shows

Two mistakes are common when a number is copied: one digit is wrong, or two neighbours change places.
What a digit counts for depends on its place alone, so the sum falls apart into the digits before a
place and those behind it (`Luhn.wholeSum_append`). At each place different digits
count for different numbers below ten, so one wrong digit always shows. An exchange shows unless the
digits are 0 and 9: these are the only ones that doubling changes by the same amount modulo ten
(`Luhn.exchange_iff`).

Main statement: `Luhn.detection`.
-/

namespace Specimen.Data.Luhn

/-! ## What a digit counts for -/

variable {d e : Nat}

/-- What a digit adds to the sum is a digit again. -/
theorem weight_lt (place : Nat) (hd : d < 10) : weight place d < 10 := by
  unfold weight
  split
  · split <;> omega
  · exact hd

/-- At a place, different digits count for different numbers. -/
theorem weight_inj (place : Nat) (hd : d < 10) (he : e < 10) (h : weight place d = weight place e) :
    d = e := by
  unfold weight at h
  split at h
  · split at h <;> split at h <;> omega
  · exact h

/-- Two neighbours count for the same in either order, modulo ten, if they are equal or 0 and 9. -/
theorem exchange_iff (place : Nat) (hd : d < 10) (he : e < 10) :
    (weight (place + 1) d + weight place e) % 10 = (weight (place + 1) e + weight place d) % 10 ↔
      d = e ∨ d = 0 ∧ e = 9 ∨ d = 9 ∧ e = 0 := by
  -- of two neighbouring places one is odd, and it doubles
  rcases Nat.mod_two_eq_zero_or_one place with heven | hodd
  · have hnext : (place + 1) % 2 = 1 := by omega
    simp only [weight, heven, hnext, if_true, Nat.zero_ne_one, if_false]
    split <;> split <;> omega
  · have hnext : (place + 1) % 2 = 0 := by omega
    simp only [weight, hodd, hnext, if_true, Nat.zero_ne_one, if_false]
    split <;> split <;> omega

/-! ## The parts of a sum -/

/-- What digits count for whose last is at a place. -/
def sumFrom (place : Nat) (ds : List Nat) : Nat :=
  (ds.reverse.mapIdx fun i => weight (i + place)).sum

/-- The sum goes on from right to left, so digits in front count from where those behind them stop. -/
theorem wholeSum_append (before after : List Nat) :
    wholeSum (before ++ after) = sumFrom after.length before + wholeSum after := by
  rw [wholeSum, List.reverse_append, List.mapIdx_append, List.sum_append, List.length_reverse,
    Nat.add_comm, wholeSum, sumFrom]

/-- The first digit counts by the number of digits behind it. -/
theorem wholeSum_cons (d : Nat) (ds : List Nat) :
    wholeSum (d :: ds) = weight ds.length d + wholeSum ds := by
  have hsingle : sumFrom ds.length [d] = weight ds.length d := by simp [sumFrom]
  rw [← hsingle]
  exact wholeSum_append [d] ds

/-- Only one digit at a place makes the sum a multiple of ten. -/
theorem eq_of_dvd_wholeSum {before after : List Nat} (hd : d < 10) (he : e < 10)
    (h : 10 ∣ wholeSum (before ++ d :: after)) (h' : 10 ∣ wholeSum (before ++ e :: after)) : d = e := by
  have hltd := weight_lt after.length hd
  have hlte := weight_lt after.length he
  simp only [wholeSum_append, wholeSum_cons, List.length_cons] at h h'
  exact weight_inj after.length hd he (by omega)

/-- Two neighbours may change places if they are equal or 0 and 9. -/
theorem dvd_wholeSum_exchange_iff {before after : List Nat} (hd : d < 10) (he : e < 10)
    (h : 10 ∣ wholeSum (before ++ d :: e :: after)) :
    10 ∣ wholeSum (before ++ e :: d :: after) ↔ d = e ∨ d = 0 ∧ e = 9 ∨ d = 9 ∧ e = 0 := by
  simp only [wholeSum_append, wholeSum_cons, List.length_cons] at h ⊢
  rw [← exchange_iff after.length hd he]
  omega

/-! ## Digits of texts -/

variable {c c' : Char}

/-- Different digits have different values. -/
theorem value_inj (hc : c.isDigit = true) (hc' : c'.isDigit = true) : value c = value c' ↔ c = c' := by
  refine ⟨fun h => ?_, congrArg value⟩
  rw [Char.isDigit, Bool.and_eq_true, decide_eq_true_eq, decide_eq_true_eq] at hc hc'
  have hle : 48 ≤ c.toNat := hc.1
  have hle' : 48 ≤ c'.toNat := hc'.1
  have hzero : '0'.toNat = 48 := rfl
  rw [value, value, hzero] at h
  exact Char.toNat_inj.mp (by omega)

/-- In a valid number every other digit at any one place makes it invalid. Two neighbours that are
different make it invalid when they change places, except for 0 and 9, which leave it valid. -/
theorem detection {number : String} (valid : isValid number = true) :
    (∀ before c after, number.toList = before ++ c :: after → ∀ d : Char, d.isDigit = true → d ≠ c →
      isValid (String.ofList (before ++ d :: after)) = false) ∧
    (∀ before c d after, number.toList = before ++ c :: d :: after → c ≠ d →
      (isValid (String.ofList (before ++ d :: c :: after)) = true ↔
        c = '0' ∧ d = '9' ∨ c = '9' ∧ d = '0')) := by
  obtain ⟨hlength, hdigits, hsum⟩ := isValid_iff.mp valid
  refine ⟨fun before c after heq d hd hne => ?_, fun before c d after heq hne => ?_⟩
  · rw [heq, List.forall_mem_append, List.forall_mem_cons] at hdigits
    obtain ⟨_, hc, _⟩ := hdigits
    rw [heq, List.map_append, List.map_cons] at hsum
    refine Bool.eq_false_iff.mpr fun hvalid => hne ?_
    have hother := (isValid_iff.mp hvalid).2.2
    rw [String.toList_ofList, List.map_append, List.map_cons] at hother
    exact (value_inj hd hc).mp (eq_of_dvd_wholeSum (value_lt hd) (value_lt hc) hother hsum)
  · rw [heq] at hlength
    rw [heq, List.forall_mem_append, List.forall_mem_cons, List.forall_mem_cons] at hdigits
    obtain ⟨hbefore, hc, hd, hafter⟩ := hdigits
    rw [heq, List.map_append, List.map_cons, List.map_cons] at hsum
    have hexchanged : ∀ x ∈ before ++ d :: c :: after, x.isDigit = true :=
      List.forall_mem_append.mpr
        ⟨hbefore, List.forall_mem_cons.mpr ⟨hd, List.forall_mem_cons.mpr ⟨hc, hafter⟩⟩⟩
    have hlength' : 2 ≤ (before ++ d :: c :: after).length := by simpa using hlength
    rw [isValid_iff, String.toList_ofList, and_iff_right hlength', and_iff_right hexchanged,
      List.map_append, List.map_cons, List.map_cons,
      dvd_wholeSum_exchange_iff (value_lt hc) (value_lt hd) hsum, value_inj hc hd]
    have hzero : ∀ x : Char, x.isDigit = true → (value x = 0 ↔ x = '0') := fun x hx =>
      @value_inj x '0' hx (by decide)
    have hnine : ∀ x : Char, x.isDigit = true → (value x = 9 ↔ x = '9') := fun x hx =>
      @value_inj x '9' hx (by decide)
    rw [hzero c hc, hzero d hd, hnine c hc, hnine d hd, or_iff_right hne]

/-- A wrong check digit, a wrong first digit, and an exchange of the check digit and the digit before it
make a number invalid; an exchange of 0 and 9 does not. -/
theorem detection_card : isValid "45093012750" = true ∧ isValid "45093012757" = false ∧
    isValid "75093012750" = false ∧ isValid "45093012705" = false ∧ isValid "45903012750" = true :=
  have valid : isValid "45093012750" = true := by decide
  ⟨valid,
    (detection valid).1 "4509301275".toList '0' [] (by decide) '7' (by decide) (by decide),
    (detection valid).1 [] '4' "5093012750".toList (by decide) '7' (by decide) (by decide),
    Bool.eq_false_iff.mpr fun h => absurd
      (((detection valid).2 "450930127".toList '5' '0' [] (by decide) (by decide)).mp h) (by decide),
    ((detection valid).2 "45".toList '0' '9' "3012750".toList (by decide) (by decide)).mpr (by decide)⟩

end Specimen.Data.Luhn
