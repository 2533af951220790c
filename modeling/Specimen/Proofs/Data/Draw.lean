import Mathlib.Algebra.Order.Ring.Nat
import Specimen.Data.Draw

/-!
# What is drawn

A draw ensures a property if every source of words makes it give a value with the property
(`Draw.Ensures`). A number below a bound is below it, whatever the words are: a second word may only
raise it when the first has left room (`Draw.below_ensures`).
-/

namespace Specimen.Data.Draw

variable {α β : Type} {P : α → Prop} {Q : β → Prop}

/-- Whatever words the source has, the value that is drawn has the property. -/
def Ensures (draw : Draw α) (P : α → Prop) : Prop := ∀ source, P (draw source).1

theorem ensures_pure {a : α} (h : P a) : Ensures (pure a) P := fun _ => h

theorem ensures_true (draw : Draw α) : draw.Ensures fun _ => True := fun _ => trivial

theorem Ensures.mono {P' : α → Prop} {draw : Draw α} (h : draw.Ensures P) (imp : ∀ a, P a → P' a) :
    draw.Ensures P' := fun source => imp _ (h source)

/-- What one draw ensures may be used by the draw after it. -/
theorem Ensures.bind {draw : Draw α} (h : draw.Ensures P) {next : α → Draw β}
    (rest : ∀ a, P a → (next a).Ensures Q) : (draw >>= next).Ensures Q := fun source =>
  rest _ (h source) (draw source).2

/-- Of draws one after the other there are as many as asked for, each with the property. -/
theorem repeated_ensures {draw : Draw α} (h : draw.Ensures P) (n : Nat) :
    (repeated draw n).Ensures fun xs => xs.length = n ∧ ∀ x ∈ xs, P x := by
  induction n with
  | zero => exact ensures_pure ⟨rfl, fun _ hx => absurd hx List.not_mem_nil⟩
  | succ n ih =>
    refine h.bind fun x hx => ih.bind fun xs hxs => ensures_pure ⟨?_, ?_⟩
    · rw [List.length_cons, hxs.1]
    · exact List.forall_mem_cons.mpr ⟨hx, hxs.2⟩

/-- Draws for the elements of a list, one after the other, each have the property that is asked for. -/
theorem mapM_ensures {draw : α → Draw β} {R : α → β → Prop} (h : ∀ a, (draw a).Ensures (R a))
    (as : List α) : (as.mapM draw).Ensures (List.Forall₂ R as) := by
  induction as with
  | nil => exact ensures_pure .nil
  | cons a as ih =>
    rw [List.mapM_cons]
    exact (h a).bind fun b hb => ih.bind fun bs hbs => ensures_pure (.cons hb hbs)

/-- A word that is drawn fits its width. -/
theorem word_ensures (width : Width) : (word width).Ensures (· < width.size) := by
  intro source
  cases width with
  | narrow => exact UInt32.toNat_lt_size _
  | wide => exact UInt64.toNat_lt_size _

/-- The high half of the product of a word and a bound is below the bound. -/
theorem high_lt {x bound size : Nat} (word : x < size) (pos : 0 < bound) :
    x * bound / size < bound :=
  Nat.div_lt_of_lt_mul (Nat.mul_lt_mul_of_pos_right word pos)

/-- If the low half leaves room for a carry, the high half is not the greatest number below the bound. -/
theorem high_succ_lt {x bound size : Nat} (word : x < size) (le : bound ≤ size)
    (room : size - bound < x * bound % size) : x * bound / size + 1 < bound := by
  by_contra hnot
  have hproduct : size * (x * bound / size) + x * bound % size = x * bound := Nat.div_add_mod _ _
  have hword : (x + 1) * bound ≤ size * bound := Nat.mul_le_mul_right bound word
  have hhigh : size * bound ≤ size * (x * bound / size + 1) := Nat.mul_le_mul_left size (by omega)
  rw [Nat.add_mul, Nat.one_mul] at hword
  rw [Nat.mul_add, Nat.mul_one] at hhigh
  omega

/-- A number below a bound is below it, if the bound fits in a word. -/
theorem below_ensures (width : Width) {bound : Nat} (pos : 0 < bound) (le : bound ≤ width.size) :
    (below width bound).Ensures (· < bound) := by
  refine (word_ensures width).bind fun x hx => ?_
  dsimp only
  split
  · rename_i room
    refine (word_ensures width).bind fun y _ => ?_
    split
    · exact ensures_pure (high_succ_lt hx le room)
    · exact ensures_pure (high_lt hx pos)
  · exact ensures_pure (high_lt hx pos)

/-- A number between two others is between them, if so many numbers fit in a word. -/
theorem between_ensures (width : Width) {first last : Nat} (ordered : first ≤ last)
    (le : last - first + 1 ≤ width.size) :
    (between width first last).Ensures fun n => first ≤ n ∧ n ≤ last := by
  refine (below_ensures width (by omega) le).bind fun n hn => ensures_pure ?_
  omega

/-- An element of a list is chosen from it, if there is one and their number fits in a word. -/
theorem choose_ensures {fallback : α} {items : List α} (ne : items ≠ [])
    (le : items.length ≤ Width.narrow.size) : (choose fallback items).Ensures (· ∈ items) := by
  refine (below_ensures .narrow (List.length_pos_iff.mpr ne) le).bind fun i hi => ensures_pure ?_
  rw [List.getD_eq_getElem?_getD, List.getElem?_eq_getElem hi, Option.getD_some]
  exact List.getElem_mem hi

end Specimen.Data.Draw
