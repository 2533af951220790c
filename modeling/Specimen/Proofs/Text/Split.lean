import Mathlib.Data.List.Infix
import Specimen.Text.Split

/-!
# Cuts at the first separator

A text that begins or ends with another is that text with a rest (`dropFront?_eq_some_iff`,
`dropBack?_eq_some_iff`). It is cut where a separator begins for the first time
(`splitFirst?_eq_some_iff`), and not at all exactly if the separator does not occur in it
(`splitFirst?_eq_none_iff`).
-/

namespace Specimen.Text

variable {front back sep cs before after rest : List Char}

/-- What is left is what stands behind the beginning. -/
theorem dropFront?_eq_some_iff : dropFront? front cs = some rest ↔ cs = front ++ rest := by
  refine ⟨dropFront?_eq_some, ?_⟩
  rintro rfl
  exact dropFront?_append front rest

/-- Nothing can be dropped where the text begins with something else. -/
theorem dropFront?_eq_none_iff : dropFront? front cs = none ↔ ¬ front <+: cs := by
  rw [Option.eq_none_iff_forall_ne_some]
  simp only [ne_eq, dropFront?_eq_some_iff, ← not_exists]
  exact not_congr (exists_congr fun rest => eq_comm)

theorem dropBack?_eq_some_iff : dropBack? back cs = some rest ↔ cs = rest ++ back := by
  rw [dropBack?, Option.map_eq_some_iff]
  simp only [dropFront?_eq_some_iff]
  constructor
  · rintro ⟨rest, hrest, rfl⟩
    rw [← List.reverse_inj, hrest, List.reverse_append, List.reverse_reverse]
  · rintro rfl
    exact ⟨rest.reverse, List.reverse_append, List.reverse_reverse rest⟩

/-- A text is not cut if the separator is nowhere in it. -/
theorem splitFirst?_eq_none_iff : splitFirst? sep cs = none ↔ ¬ sep <:+: cs := by
  induction cs with
  | nil =>
    rw [splitFirst?, Option.map_eq_none_iff, dropFront?_eq_none_iff, List.prefix_nil, List.infix_nil]
  | cons c cs ih =>
    rw [splitFirst?, List.infix_cons_iff, not_or, ← dropFront?_eq_none_iff]
    cases dropFront? sep (c :: cs) with
    | some rest => simp
    | none => simp [ih]

/-- No occurrence of the separator begins before the cut. -/
theorem length_le_of_splitFirst? (h : splitFirst? sep cs = some (before, after))
    {before' after' : List Char} (heq : cs = before' ++ sep ++ after') :
    before.length ≤ before'.length := by
  induction cs generalizing before before' with
  | nil =>
    obtain ⟨_, _, hcut⟩ := Option.map_eq_some_iff.mp h
    rw [← (Prod.mk.inj hcut).1]
    exact Nat.zero_le _
  | cons c cs ih =>
    rw [splitFirst?] at h
    split at h
    · rw [← (Prod.mk.inj (Option.some.inj h)).1]
      exact Nat.zero_le _
    · rename_i hfront
      obtain ⟨⟨first, last⟩, hcut, hpair⟩ := Option.map_eq_some_iff.mp h
      obtain ⟨rfl, rfl⟩ := Prod.mk.inj hpair
      cases before' with
      | nil => exact absurd ⟨after', heq.symm⟩ (dropFront?_eq_none_iff.mp hfront)
      | cons d before' =>
        exact Nat.succ_le_succ (ih hcut (List.cons.inj heq).2)

/-- A text is cut where the separator begins for the first time. -/
theorem splitFirst?_eq_some_iff : splitFirst? sep cs = some (before, after) ↔
    cs = before ++ sep ++ after ∧
      ∀ before' after', cs = before' ++ sep ++ after' → before.length ≤ before'.length := by
  constructor
  · intro h
    exact ⟨splitFirst?_eq_some h, fun _ _ => length_le_of_splitFirst? h⟩
  · rintro ⟨heq, first⟩
    cases hcut : splitFirst? sep cs with
    | none => exact absurd ⟨before, after, heq.symm⟩ (splitFirst?_eq_none_iff.mp hcut)
    | some cut =>
      obtain ⟨before', after'⟩ := cut
      have heq' := splitFirst?_eq_some hcut
      have hlength : before'.length = before.length :=
        Nat.le_antisymm (length_le_of_splitFirst? hcut heq) (first _ _ heq')
      rw [heq', List.append_assoc, List.append_assoc] at heq
      obtain ⟨rfl, hrest⟩ := List.append_inj heq hlength
      rw [List.append_cancel_left hrest]

/-- A separator that begins with `c` is found behind a text in which there is no `c`. -/
theorem splitFirst?_of_not_mem {c : Char} (h : c ∉ before) :
    splitFirst? (c :: sep) (before ++ (c :: sep) ++ after) = some (before, after) := by
  induction before with
  | nil => rw [List.nil_append, List.cons_append, splitFirst?, ← List.cons_append, dropFront?_append]
  | cons d before ih =>
    obtain ⟨hne, hmem⟩ := not_or.mp (fun hc => h (List.mem_cons.mpr hc))
    rw [List.cons_append, List.cons_append, splitFirst?, dropFront?, if_neg hne]
    dsimp only
    rw [ih hmem]
    rfl

/-- The part in front of the first of some characters is free of them. -/
theorem splitFirst?_singleton_eq_some_iff {c : Char} : splitFirst? [c] cs = some (before, after) ↔
    cs = before ++ c :: after ∧ c ∉ before := by
  constructor
  · intro h
    have heq : cs = before ++ c :: after := by simpa using splitFirst?_eq_some h
    refine ⟨heq, fun hmem => ?_⟩
    obtain ⟨front, between, rfl⟩ := List.append_of_mem hmem
    have hle := (splitFirst?_eq_some_iff.mp h).2 front (between ++ c :: after) (by simp [heq])
    simp only [List.length_append, List.length_cons] at hle
    omega
  · rintro ⟨rfl, h⟩
    have hcut : splitFirst? [c] (before ++ [c] ++ after) = some (before, after) :=
      splitFirst?_of_not_mem h
    rwa [List.append_assoc, List.singleton_append] at hcut

end Specimen.Text
