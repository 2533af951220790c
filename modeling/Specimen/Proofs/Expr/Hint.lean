import Mathlib.Data.List.Nodup
import Specimen.Proofs.Expr.Occurrence
import Specimen.Synthesis

/-!
# Categories in expressions

The data provider is asked for a value by a method, and where it has been given a category before that
the call carries this category (`Expr.hint?`). The hints of an expression are all such calls in it,
with the places where they stand (`Expr.hints`).

Different categories are written differently (`categoryExpr_injective`), so the hint tells which one it
is.
-/

namespace Specimen

open Source (Path)

/-- A category that goes along with a call of a method of the data provider, as it is written. -/
structure Hint where
  method : String
  category : Expr

namespace Expr

/-- The category that a call of the data provider carries. -/
def hint? : Expr → Option Hint
  | .method (.call callee [.call wrapper [category]]) name _ =>
    if callee.endsWith ["DataGenerator", "random"] && wrapper.endsWith ["Some"] then
      some ⟨name, category⟩
    else none
  | _ => none

/-- The calls of the data provider with categories in an expression, with their places. -/
def hints (e : Expr) : List (Place × Hint) := e.occurrences hint?

/-- The hints of a call are those of its arguments, each under its place. -/
theorem hints_call (callee : Path) (arguments : List Expr) :
    (Expr.call callee arguments).hints = listOccurrences hint? .argument 0 arguments := by
  rw [hints, occurrences]
  rfl

theorem hints_list_singleton (item : Expr) :
    (Expr.list [item]).hints = item.hints.map (under (.item 0)) := by
  simp [hints, occurrences, listOccurrences, here, hint?]

/-- The hints of a map of one entry are those of the key and those of the value. -/
theorem hints_map_singleton (key value : Expr) :
    (Expr.map [(key, value)]).hints =
      key.hints.map (under (.key 0)) ++ value.hints.map (under (.value 0)) := by
  simp [hints, occurrences, pairsOccurrences, here, hint?]

theorem hints_braces (p : Path) (fields : List (FieldName × Expr)) :
    (Expr.braces p fields).hints = listOccurrences hint? .field 0 (fields.map Prod.snd) := by
  rw [hints, occurrences, fieldsOccurrences_eq]
  rfl

end Expr

/-! ## How categories are written -/

/-- What a category is written as holds no hint itself. -/
theorem hints_categoryExpr (category : Category) (targets : Targets) :
    (categoryExpr category targets).hints = [] := by
  cases category with
  | image width height => exact Expr.hints_braces _ _
  | _ => rfl

namespace Category

/-- A category is one of the list, or that of an image with its two sides. -/
theorem mem_simple_or_image (category : Category) :
    category ∈ simple ∨ ∃ width height, category = .image width height := by
  cases category with
  | image width height => exact .inr ⟨width, height, rfl⟩
  | _ => exact .inl (by decide)

/-- Only the sizes of images are written in braces. -/
theorem categoryExpr_of_mem_simple {category : Category} (h : category ∈ simple)
    (targets : Targets) :
    categoryExpr category targets = .path (targets.item ["Category", category.variantName]) := by
  cases category with
  | image width height => simp [simple] at h
  | _ => rfl

/-- Different categories are written differently. -/
theorem categoryExpr_injective {category category' : Category} {targets : Targets}
    (h : categoryExpr category targets = categoryExpr category' targets) :
    category = category' := by
  rcases mem_simple_or_image category with hsimple | ⟨width, height, rfl⟩ <;>
    rcases mem_simple_or_image category' with hsimple' | ⟨width', height', rfl⟩
  · rw [categoryExpr_of_mem_simple hsimple, categoryExpr_of_mem_simple hsimple'] at h
    have hnames := congrArg Path.names (Expr.path.inj h)
    rw [Targets.item, Targets.item, Path.names_join, Path.names_join] at hnames
    have hname : category.variantName = category'.variantName := by
      simpa using List.append_cancel_left hnames
    have hdistinct : (simple.map variantName).Nodup := by decide
    exact List.inj_on_of_nodup_map hdistinct hsimple hsimple' hname
  · rw [categoryExpr_of_mem_simple hsimple] at h
    cases h
  · rw [categoryExpr_of_mem_simple hsimple'] at h
    cases h
  · obtain ⟨_, hfields⟩ := Expr.braces.inj h
    have hsizes : width.toNat = width'.toNat ∧ height.toNat = height'.toNat := by
      simpa using hfields
    rw [UInt32.toNat_inj.mp hsizes.1, UInt32.toNat_inj.mp hsizes.2]

end Category

/-! ## Calls of the data provider -/

/-- A call for a value carries a category if there is one and the kind takes categories. -/
theorem hints_providerCall (kind : ScalarKind) (category : Option Category) (targets : Targets) :
    (providerCall kind category targets).hints =
      ((category.filter fun _ => kind.domain?.isSome).map fun category =>
        ([], ⟨kind.methodName, categoryExpr category targets⟩)).toList := by
  have hrandom : (targets.item ["DataGenerator", "random"]).endsWith ["DataGenerator", "random"]
      = true := (Path.endsWith_join _ rfl).mpr rfl
  have hsome : (Path.ofName "Some").endsWith ["Some"] = true := by decide
  rw [providerCall, Expr.hints]
  cases category.filter fun _ => kind.domain?.isSome with
  | none => rfl
  | some category =>
    have hnone : (categoryExpr category targets).occurrences Expr.hint? = [] :=
      hints_categoryExpr category targets
    simp [Expr.occurrences, Expr.listOccurrences, Expr.here, Expr.hint?, hnone, hrandom, hsome]

end Specimen
