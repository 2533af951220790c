import Specimen.Category.Reader
import Specimen.Proofs.Text.Blank
import Specimen.Proofs.Text.Numeral

/-!
# Tokens of categories

The token that is written for a category is read as that category (`Category.read_token`). For the plain
words this is seen by looking at each; the size of an image comes back digit by digit
(`readBounded?_decimal`), since none of its digits is a sign, a separator or a blank.
-/

namespace Specimen

open Text

/-! ## Digits -/

namespace Text

theorem isBlank_eq_false_of_isDigit {c : Char} (h : c.isDigit = true) : isBlank c = false := by
  simp only [Char.isDigit, Bool.and_eq_true, decide_eq_true_eq, ge_iff_le,
    UInt32.le_iff_toNat_le] at h
  have hlow : 48 ≤ c.toNat := h.1
  have hhigh : c.toNat ≤ 57 := h.2
  simp only [isBlank, Bool.or_eq_false_iff, Bool.and_eq_false_iff, decide_eq_false_iff_not,
    beq_eq_false_iff_ne]
  omega

/-- There is no blank in a numeral. -/
theorem trim_decimal (n : Nat) : trim (decimal n) = decimal n := by
  have hblank : ∀ c ∈ decimal n, isBlank c = false := fun c hc =>
    isBlank_eq_false_of_isDigit (isDigit_of_mem_decimal hc)
  exact trim_eq_self_iff.mpr ⟨fun c hc => hblank c (List.mem_of_mem_head? hc),
    fun c hc => hblank c (List.mem_of_getLast? hc)⟩

/-- A text between two characters that are no blanks is left as it is. -/
theorem trim_between {first last : Char} (hfirst : isBlank first = false)
    (hlast : isBlank last = false) (cs : List Char) :
    trim (first :: (cs ++ [last])) = first :: (cs ++ [last]) := by
  rw [trim, trimFront_cons hfirst, ← List.cons_append, trimBack_append hlast]

end Text

namespace Category

/-! ## Images -/

/-- One side of an image as it is written. -/
def sideText (label : String) (n : Nat) : List Char := label.toList ++ ':' :: decimal n

/-- Both sides of an image as they are written. -/
def sidesText (width height : Nat) : List Char :=
  sideText "width" width ++ ',' :: sideText "height" height

/-- The token of an image is its word and the two sides in parentheses. -/
theorem toList_token_image (width height : UInt32) :
    (Category.image width height).token.toList =
      "image".toList ++ '(' :: (sidesText width.toNat height.toNat ++ [')']) := by
  simp [token, sidesText, sideText, decimal, toString, Nat.repr]

/-- A side is read as it is written, if there is neither a colon nor a blank in its label. -/
theorem readSide_sideText (label : String) (n : UInt32)
    (cut : splitFirst? [':'] (sideText label n.toNat) = some (label.toList, decimal n.toNat))
    (plain : trim label.toList = label.toList) :
    readSide label (some (sideText label n.toNat)) = .ok n := by
  have hbound : n.toNat ≤ UInt32.size - 1 := Nat.le_sub_one_of_lt n.toNat_lt_size
  simp only [readSide, cut, plain, trim_decimal, readBounded?_decimal hbound, ne_eq,
    not_true_eq_false, if_false, UInt32.ofNat_toNat]

/-- The comma is what cuts the sides apart. -/
theorem splitOn_sidesText (width height : Nat) : (sidesText width height).splitOn ',' =
    [sideText "width" width, sideText "height" height] := by
  have hside : ∀ label : String, ',' ∉ label.toList → ∀ n, ',' ∉ sideText label n := by
    intro label hlabel n hmem
    rcases List.mem_append.mp hmem with hmem | hmem
    · exact hlabel hmem
    · exact (List.mem_cons.mp hmem).elim (by decide) (not_mem_decimal (by decide) n)
  rw [sidesText, List.splitOn_append_cons_self_of_not_mem (hside "width" (by decide) width),
    List.splitOn_eq_singleton (hside "height" (by decide) height)]

/-- The two sides in parentheses are read back as they were written. -/
theorem readImage_sidesText (width height : UInt32) :
    readImage ('(' :: (sidesText width.toNat height.toNat ++ [')'])) = .ok (.image width height) := by
  have hfront : dropFront? ['('] ('(' :: (sidesText width.toNat height.toNat ++ [')'])) =
      some (sidesText width.toNat height.toNat ++ [')']) := dropFront?_append ['('] _
  have hback : dropBack? [')'] (sidesText width.toNat height.toNat ++ [')']) =
      some (sidesText width.toNat height.toNat) := by simp [dropBack?, dropFront?]
  have hwidth := readSide_sideText "width" width rfl (by decide)
  have hheight := readSide_sideText "height" height rfl (by decide)
  rw [readImage, trim_between (by decide) (by decide), hfront, Option.bind_some, hback]
  simp only [splitOn_sidesText, List.getElem?_cons_zero, List.getElem?_cons_succ, hwidth, hheight,
    List.length_cons, List.length_nil, Nat.reduceAdd, Nat.le_refl, if_true]

/-- No plain word has parentheses. -/
theorem ofWord?_eq_none {word : String} (h : '(' ∈ word.toList) : ofWord? word = none := by
  unfold ofWord?
  split <;> first | rfl | exact absurd h (by decide)

/-- A category is read from the token that is written for it. -/
theorem read_token (category : Category) : read category.token = .ok category := by
  cases category with
  | image width height =>
    have htext := toList_token_image width height
    have htrim : ∀ inner, trim ("image".toList ++ '(' :: (inner ++ [')'])) =
        "image".toList ++ '(' :: (inner ++ [')']) := fun inner =>
      trim_between (by decide) (by decide) ('m' :: 'a' :: 'g' :: 'e' :: '(' :: inner)
    have htrimmed : trimmed (image width height).token = (image width height).token := by
      rw [trimmed, htext, htrim, ← htext, String.ofList_toList]
    have hword : ofWord? (image width height).token = none :=
      ofWord?_eq_none (htext ▸ by simp)
    simp only [read, htrimmed, hword]
    rw [htext, dropFront?_append]
    simp only [readImage_sidesText]
    rfl
  | _ => decide +kernel

end Category

end Specimen
