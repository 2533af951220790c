import Specimen.Data.Phrase
import Specimen.Proofs.Data.Draw

/-!
# Card numbers

A number is valid exactly when it has two digits or more, nothing else, and its whole Luhn sum is a
multiple of ten: here every digit is counted, and those at odd places from the right are the ones
that are doubled (`Luhn.wholeSum`). So a payload is made valid by one digit only, its check digit, and
every card number that is drawn is valid (`Luhn.validity`).
-/

namespace Specimen.Data

namespace Luhn

/-! ## The sum of a whole number -/

/-- What a digit counts for at a place; the last digit of a number is at place 0. -/
def weight (place digit : Nat) : Nat :=
  if place % 2 = 1 then (if 2 * digit > 9 then 2 * digit - 9 else 2 * digit) else digit

/-- The Luhn sum of a number, its last digit included. -/
def wholeSum (ds : List Nat) : Nat := (ds.reverse.mapIdx weight).sum

/-- The weights go on alternating from the parity they begin with. -/
theorem weightedSum_eq (ds : List Nat) :
    weightedSum false ds = (ds.mapIdx weight).sum ∧
      weightedSum true ds = (ds.mapIdx fun place => weight (place + 1)).sum := by
  induction ds with
  | nil => exact ⟨rfl, rfl⟩
  | cons d ds ih =>
    have heven : ∀ place, weight (place + 1 + 1) = weight place := by
      intro place
      funext digit
      simp only [weight, Nat.add_assoc, Nat.reduceAdd, Nat.add_mod_right]
    simp only [weightedSum, List.mapIdx_cons, List.sum_cons, ih.1, ih.2, heven]
    exact ⟨rfl, rfl⟩

/-- The sum of a number is that of its payload with its last digit added. -/
theorem wholeSum_append_singleton (payload : List Nat) (check : Nat) :
    wholeSum (payload ++ [check]) = check + weightedSum true payload.reverse := by
  rw [wholeSum, ← (weightedSum_eq _).1, List.reverse_append, List.reverse_singleton,
    List.singleton_append, weightedSum]

/-- A digit is the check digit exactly when it fills the sum up to a multiple of ten. -/
theorem checkDigit_eq_iff {payload : List Nat} {check : Nat} (digit : check < 10) :
    checkDigit payload = check ↔ 10 ∣ wholeSum (payload ++ [check]) := by
  rw [wholeSum_append_singleton, checkDigit]
  omega

/-- A check digit is a digit. -/
theorem checkDigit_lt (payload : List Nat) : checkDigit payload < 10 := Nat.mod_lt _ (by decide)

/-- Digits are valid if there are two of them at least and their sum is a multiple of ten. -/
theorem isValidDigits_iff {ds : List Nat} (digits : ∀ d ∈ ds, d < 10) :
    isValidDigits ds = true ↔ 2 ≤ ds.length ∧ 10 ∣ wholeSum ds := by
  rcases ds.eq_nil_or_concat with rfl | ⟨payload, check, rfl⟩
  · simp [isValidDigits]
  · have hcheck : check < 10 := digits check (by simp)
    have hlength : payload.isEmpty = false ↔ 2 ≤ (payload ++ [check]).length := by
      cases payload <;> simp
    rw [isValidDigits, List.concat_eq_append, List.getLast?_concat, List.dropLast_concat]
    simp only [Bool.and_eq_true, Bool.not_eq_true', beq_iff_eq, hlength, checkDigit_eq_iff hcheck]

/-! ## Digits of texts -/

/-- The value of a character that is an ASCII digit. -/
def value (c : Char) : Nat := c.toNat - '0'.toNat

/-- A digit stands for a number below ten. -/
theorem value_lt {c : Char} (h : c.isDigit = true) : value c < 10 := by
  rw [Char.isDigit, Bool.and_eq_true, decide_eq_true_eq, decide_eq_true_eq] at h
  have hle : c.toNat ≤ 57 := h.2
  have hzero : '0'.toNat = 48 := rfl
  rw [value, hzero]
  omega

/-- The digits of a text are read if it has no other characters, and each stands for its value. -/
theorem digits?_eq_some_iff {cs : List Char} {ds : List Nat} :
    digits? cs = some ds ↔ (∀ c ∈ cs, c.isDigit = true) ∧ ds = cs.map value := by
  induction cs generalizing ds with
  | nil => cases ds <;> simp [digits?]
  | cons c cs ih =>
    rw [digits?, List.forall_mem_cons, List.map_cons]
    by_cases hc : c.isDigit = true
    · have hdigit : digit? c = some (value c) := if_pos hc
      rw [hdigit, and_iff_right hc]
      cases hcs : digits? cs with
      | none =>
        have hnot : ¬ ∀ c ∈ cs, c.isDigit = true := fun h => by
          cases hcs.symm.trans (ih.mpr ⟨h, rfl⟩)
        simp [hnot]
      | some rest =>
        obtain ⟨hdigits, rfl⟩ := ih.mp hcs
        rw [and_iff_right hdigits]
        simp only [Option.some.injEq]
        exact eq_comm
    · have hdigit : digit? c = none := if_neg hc
      simp [hdigit, hc]

/-- A text is a valid number exactly when it consists of digits, two at least, whose sum is a multiple
of ten. -/
theorem isValid_iff {number : String} : isValid number = true ↔
    2 ≤ number.toList.length ∧ (∀ c ∈ number.toList, c.isDigit = true) ∧
      10 ∣ wholeSum (number.toList.map value) := by
  rw [isValid]
  cases hdigits : digits? number.toList with
  | none =>
    have hnot : ¬ ∀ c ∈ number.toList, c.isDigit = true := fun h => by
      cases hdigits.symm.trans (digits?_eq_some_iff.mpr ⟨h, rfl⟩)
    exact iff_of_false Bool.false_ne_true fun h => hnot h.2.1
  | some ds =>
    obtain ⟨hall, rfl⟩ := digits?_eq_some_iff.mp hdigits
    have hvalues : ∀ d ∈ number.toList.map value, d < 10 := by
      intro d hd
      obtain ⟨c, hc, rfl⟩ := List.mem_map.mp hd
      exact value_lt (hall c hc)
    dsimp only
    rw [isValidDigits_iff hvalues, List.length_map, and_iff_right hall]

/-- The character of a digit is a digit and stands for it. -/
theorem digitChar_spec : ∀ d < 10, (Nat.digitChar d).isDigit = true ∧ value (Nat.digitChar d) = d := by
  decide

/-- Digits that are written stand for themselves. -/
theorem isValid_digitText {ds : List Nat} (digits : ∀ d ∈ ds, d < 10) :
    isValid (Phrase.digitText ds) = true ↔ 2 ≤ ds.length ∧ 10 ∣ wholeSum ds := by
  have hvalues : (ds.map Nat.digitChar).map value = ds := by
    rw [List.map_map]
    calc ds.map (value ∘ Nat.digitChar)
      _ = ds.map id := List.map_congr_left fun d hd => (digitChar_spec d (digits d hd)).2
      _ = ds := List.map_id ds
  have hall : ∀ c ∈ ds.map Nat.digitChar, c.isDigit = true := by
    intro c hc
    obtain ⟨d, hd, rfl⟩ := List.mem_map.mp hc
    exact (digitChar_spec d (digits d hd)).1
  rw [isValid_iff, Phrase.digitText, String.toList_ofList, hvalues, List.length_map,
    and_iff_right hall]

/-! ## Sums that fit in a word -/

/-- A digit adds nine at most to the sum, doubled or not. -/
theorem weightedSum_le {ds : List Nat} (digits : ∀ d ∈ ds, d < 10) (double : Bool) :
    weightedSum double ds ≤ 9 * ds.length := by
  induction ds generalizing double with
  | nil => cases double <;> rfl
  | cons d ds ih =>
    obtain ⟨hd, hds⟩ := List.forall_mem_cons.mp digits
    have htail := ih hds (!double)
    have hdoubled : doubled d ≤ 9 := by
      unfold doubled
      split <;> omega
    cases double <;> simp only [weightedSum, List.length_cons, Bool.not_true, Bool.not_false] at * <;>
      omega

end Luhn

/-! ## Card numbers -/

/-- A card number that is drawn has fifteen digits, the first not zero, and their check digit. -/
theorem Phrase.drawCard_ensures : Draw.Ensures drawCard fun phrase => ∃ first others,
    phrase = .card (first :: others ++ [Luhn.checkDigit (first :: others)]) ∧ others.length = 14 ∧
      (∀ d ∈ first :: others, d < 10) ∧ first ≠ 0 := by
  refine (Draw.between_ensures .narrow (by decide) (by decide)).bind fun first hfirst => ?_
  refine (Draw.repeated_ensures (Draw.below_ensures .narrow (by decide) (by decide)) 14).bind
    fun others hothers => Draw.ensures_pure ⟨first, others, rfl, hothers.1, ?_, ?_⟩
  · exact List.forall_mem_cons.mpr ⟨by omega, hothers.2⟩
  · omega

namespace Luhn

/-- A text is valid exactly if it has two digits or more, nothing else, and a whole sum divisible by
ten; the sum fits in 32 bits for 477218588 digits or fewer. Of the ten digits, the check digit of a
payload is the only one that makes it valid. Every card number that is drawn has sixteen digits, does
not begin with zero, and is valid. -/
theorem validity :
    (∀ number : String, isValid number = true ↔
      2 ≤ number.toList.length ∧ (∀ c ∈ number.toList, c.isDigit = true) ∧
        10 ∣ wholeSum (number.toList.map value)) ∧
    (∀ payload : List Nat, payload ≠ [] → (∀ d ∈ payload, d < 10) →
      checkDigit payload < 10 ∧
      (∀ d < 10, isValid (Phrase.digitText (payload ++ [d])) = true ↔ d = checkDigit payload) ∧
      (payload.length ≤ 477218588 → weightedSum true payload.reverse < UInt32.size)) ∧
    ∀ (words : Vocabulary) (source : Source),
      let number := (Phrase.drawCard source).1.text words
      number.toList.length = 16 ∧ (∀ c ∈ number.toList, c.isDigit = true) ∧
        number.toList.head? ≠ some '0' ∧ isValid number = true := by
  refine ⟨fun number => isValid_iff, fun payload hne hdigits => ⟨checkDigit_lt payload, ?_, ?_⟩, ?_⟩
  · intro d hd
    have hlength : 2 ≤ (payload ++ [d]).length := by
      have hpos := List.length_pos_iff.mpr hne
      rw [List.length_append, List.length_singleton]
      omega
    rw [isValid_digitText (List.forall_mem_append.mpr ⟨hdigits, List.forall_mem_singleton.mpr hd⟩),
      and_iff_right hlength, ← checkDigit_eq_iff hd, eq_comm]
  · intro hlength
    have hle := weightedSum_le (fun d hd => hdigits d (List.mem_reverse.mp hd)) true
    rw [List.length_reverse] at hle
    have hsize : UInt32.size = 4294967296 := rfl
    omega
  · intro words source
    obtain ⟨first, others, hcard, hlength, hdigits, hfirst⟩ := Phrase.drawCard_ensures source
    have hcheck := checkDigit_lt (first :: others)
    have hall : ∀ d ∈ first :: others ++ [checkDigit (first :: others)], d < 10 :=
      List.forall_mem_append.mpr ⟨hdigits, List.forall_mem_singleton.mpr hcheck⟩
    have hfirstDigit : first < 10 := hdigits first List.mem_cons_self
    have hvalid := (isValid_digitText hall).mpr
      ⟨by simp, (checkDigit_eq_iff hcheck).mp rfl⟩
    dsimp only
    rw [hcard, Phrase.text]
    refine ⟨?_, (isValid_iff.mp hvalid).2.1, ?_, hvalid⟩
    · simp [Phrase.digitText, hlength]
    · rw [Phrase.digitText, String.toList_ofList, List.cons_append, List.map_cons, List.head?_cons]
      intro hzero
      have hvalue := (digitChar_spec first hfirstDigit).2
      rw [Option.some.inj hzero] at hvalue
      exact hfirst hvalue.symm

example : isValid "79927398713" = true ∧ isValid "79927398710" = false ∧ isValid "7" = false := by
  decide

end Luhn

end Specimen.Data
