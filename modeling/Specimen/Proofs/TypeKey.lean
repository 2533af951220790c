import Mathlib.Data.List.Infix
import Specimen.Proofs.Text.Blank
import Specimen.TypeKey

/-!
# Names that are keys

The key of a path is what follows its last `::`, without blanks at its ends. A name is its own key exactly
when there is no `::` in it and no blank at its ends (`typeKey_eq_self_iff`). It is also the key of every
path that ends in it, unless it begins with a colon, which the `::` before it would take in
(`typeKey_qualified_iff`).
-/

namespace Specimen

open Text

/-! ## What follows the last separator -/

namespace Text

variable {sep best cs : List Char}

/-- What is dropped and what is left are as long as the text. -/
theorem length_of_dropFront? {front rest : List Char} (h : dropFront? front cs = some rest) :
    cs.length = front.length + rest.length := by
  rw [dropFront?_eq_some h, List.length_append]

/-- Without a separator nothing is cut off. -/
theorem afterLastOr_of_not_infix (h : ¬ sep <:+: cs) : afterLastOr sep best cs = best := by
  induction cs generalizing best with
  | nil => rfl
  | cons c cs ih =>
    rw [List.infix_cons_iff, not_or] at h
    have hfront : dropFront? sep (c :: cs) = none := by
      refine Option.eq_none_iff_forall_ne_some.mpr fun rest hrest => ?_
      exact h.1 ⟨rest, (dropFront?_eq_some hrest).symm⟩
    rw [afterLastOr, hfront, Option.getD_none, ih h.2]

/-- What has been cut off so far does not come back. -/
theorem length_afterLastOr_lt {n : Nat} (ne : sep ≠ []) (hbest : best.length < n)
    (hcs : cs.length ≤ n) : (afterLastOr sep best cs).length < n := by
  induction cs generalizing best with
  | nil => exact hbest
  | cons c cs ih =>
    have hle : cs.length ≤ n := by
      rw [List.length_cons] at hcs
      omega
    refine ih ?_ hle
    cases hfront : dropFront? sep (c :: cs) with
    | none => exact hbest
    | some rest =>
      have hlength := length_of_dropFront? hfront
      have hsep := List.length_pos_iff.mpr ne
      rw [Option.getD_some]
      omega

/-- Where there is a separator, something is cut off. -/
theorem length_afterLastOr_of_infix {n : Nat} (ne : sep ≠ []) (h : sep <:+: cs)
    (hcs : cs.length ≤ n) : (afterLastOr sep best cs).length < n := by
  induction cs generalizing best with
  | nil => exact absurd (List.infix_nil.mp h) ne
  | cons c cs ih =>
    have hle : cs.length ≤ n := by
      rw [List.length_cons] at hcs
      omega
    rcases List.infix_cons_iff.mp h with ⟨rest, hrest⟩ | h
    · have hlength := congrArg List.length hrest
      have hsep := List.length_pos_iff.mpr ne
      rw [afterLastOr, ← hrest, dropFront?_append, Option.getD_some]
      refine length_afterLastOr_lt ne ?_ hle
      rw [List.length_append] at hlength
      omega
    · exact ih h hle

/-- Behind two colons, the next thing that can be a separator begins with the second of them. -/
theorem afterLastOr_colons (best before cs : List Char) :
    afterLastOr [':', ':'] best (before ++ ':' :: ':' :: cs) =
      afterLastOr [':', ':'] cs (':' :: cs) := by
  induction before generalizing best with
  | nil => rfl
  | cons c before ih =>
    rw [List.cons_append, afterLastOr]
    exact ih _

end Text

/-! ## Names that are keys -/

/-- A name is the key of itself as a path: there is no `::` in it and no blank at its ends. -/
structure IsKey (name : String) : Prop where
  plain : ¬ [':', ':'] <:+: name.toList
  front : ∀ c ∈ name.toList.head?, isBlank c = false
  back : ∀ c ∈ name.toList.getLast?, isBlank c = false

/-- A key is what stands behind the last `::`, without blanks at its ends. -/
theorem toList_typeKey (path : String) :
    (typeKey path).toList = trim (afterLast [':', ':'] path.toList) := String.toList_ofList

/-- A name is its own key if and only if nothing in it is taken for a qualification or a blank around it. -/
theorem typeKey_eq_self_iff {name : String} : typeKey name = name ↔ IsKey name := by
  rw [← String.toList_inj, toList_typeKey]
  constructor
  · intro h
    have hplain : ¬ [':', ':'] <:+: name.toList := by
      intro hinfix
      have hlt : (afterLast [':', ':'] name.toList).length < name.toList.length :=
        length_afterLastOr_of_infix (by simp) hinfix (Nat.le_refl _)
      have hle := length_trim_le (afterLast [':', ':'] name.toList)
      rw [h] at hle
      omega
    rw [afterLast, afterLastOr_of_not_infix hplain] at h
    obtain ⟨hfront, hback⟩ := trim_eq_self_iff.mp h
    exact ⟨hplain, hfront, hback⟩
  · rintro ⟨hplain, hfront, hback⟩
    rw [afterLast, afterLastOr_of_not_infix hplain]
    exact trim_eq_self_iff.mpr ⟨hfront, hback⟩

/-- Behind a path prefix, a name is the key unless it is none by itself, or begins with a colon. -/
theorem typeKey_qualified_iff {before name : String} :
    typeKey (before ++ "::" ++ name) = name ↔ IsKey name ∧ name.toList.head? ≠ some ':' := by
  have hkey : (typeKey (before ++ "::" ++ name)).toList =
      trim (afterLastOr [':', ':'] name.toList (':' :: name.toList)) := by
    have hchars : (before ++ "::" ++ name).toList =
        before.toList ++ ':' :: ':' :: name.toList := by simp
    rw [toList_typeKey, hchars, afterLast, afterLastOr_colons]
  by_cases hcolon : name.toList.head? = some ':'
  · -- the first colon of the name is taken for the end of the separator
    refine iff_of_false (fun h => ?_) fun h => h.2 hcolon
    obtain ⟨rest, hrest⟩ := List.head?_eq_some_iff.mp hcolon
    have hlt : (afterLastOr [':', ':'] rest (':' :: rest)).length < name.toList.length :=
      length_afterLastOr_lt (by simp) (by simp [hrest]) (by simp [hrest])
    have hle := length_trim_le (afterLastOr [':', ':'] rest (':' :: rest))
    have hfirst : afterLastOr [':', ':'] name.toList (':' :: name.toList) =
        afterLastOr [':', ':'] rest (':' :: rest) := by rw [hrest]; rfl
    rw [← hfirst, ← hkey, h] at hle
    rw [hfirst] at hle
    omega
  · have hfront : dropFront? [':', ':'] (':' :: name.toList) = none := by
      rcases hname : name.toList with _ | ⟨c, rest⟩
      · rfl
      · have hne : ':' ≠ c := by
          rintro rfl
          exact hcolon (by rw [hname]; rfl)
        simp [dropFront?, hne]
    have hfirst : afterLastOr [':', ':'] name.toList (':' :: name.toList) =
        afterLast [':', ':'] name.toList := by
      rw [afterLastOr, hfront]
      rfl
    rw [← typeKey_eq_self_iff, ← String.toList_inj, hkey, hfirst, ← toList_typeKey,
      String.toList_inj, and_iff_left hcolon]

end Specimen
