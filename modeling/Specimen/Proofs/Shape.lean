import Specimen.Proofs.Traversal
import Specimen.Shape

/-!
# Shapes that are related

Two shapes that differ in nothing but their parameters, which are related one by one
(`Shape.Related`). What is made of them is compared through their parameters.
-/

namespace Specimen

/-- Two cases have the same name and payloads that are related part by part. -/
structure CaseShape.Related (W : Parameter → Parameter → Prop) (c c' : CaseShape) : Prop where
  name_eq : c'.name = c.name
  payload : List.Forall₂ W c.payload c'.payload

/-- Two shapes differ in nothing but their parameters, which are related one by one. -/
inductive Shape.Related (W : Parameter → Parameter → Prop) : Shape → Shape → Prop
  | struct {name : String} {source : Construction} {parameters parameters' : List Parameter}
      (h : List.Forall₂ W parameters parameters') :
      Related W (.struct name source parameters) (.struct name source parameters')
  | enum {name : String} {cases cases' : List CaseShape}
      (h : List.Forall₂ (CaseShape.Related W) cases cases') :
      Related W (.enum name cases) (.enum name cases')

namespace Shape

variable {V W : Parameter → Parameter → Prop} {shape shape' : Shape}

theorem Related.name_eq (h : shape.Related W shape') : shape'.name = shape.name := by
  cases h <;> rfl

/-- All parameters of related shapes are related. -/
theorem Related.parameters (h : shape.Related W shape') :
    List.Forall₂ W shape.parameters shape'.parameters := by
  cases h with
  | struct h => exact h
  | enum h => exact forall₂_flatMap (h.imp fun _ _ hcase => hcase.payload)

/-- A shape is related to itself if each of its parameters is. -/
theorem related_self (h : ∀ q ∈ shape.parameters, W q q) : shape.Related W shape := by
  cases shape with
  | struct name source parameters => exact .struct (List.forall₂_same.mpr h)
  | enum name cases =>
    refine .enum (List.forall₂_same.mpr fun c hc => ⟨rfl, List.forall₂_same.mpr fun q hq => ?_⟩)
    exact h q (List.mem_flatMap.mpr ⟨c, hc, hq⟩)

/-- Of two related shapes, only their own parameters have to be considered. -/
theorem Related.mono_mem (h : shape.Related W shape')
    (sub : ∀ q ∈ shape.parameters, ∀ q' ∈ shape'.parameters, W q q' → V q q') :
    shape.Related V shape' := by
  cases h with
  | struct h => exact .struct (forall₂_mono_mem h sub)
  | enum h =>
    refine .enum (forall₂_mono_mem h fun c hc c' hc' hcase => ⟨hcase.name_eq, ?_⟩)
    refine forall₂_mono_mem hcase.payload fun q hq q' hq' => sub q ?_ q' ?_
    · exact List.mem_flatMap.mpr ⟨c, hc, hq⟩
    · exact List.mem_flatMap.mpr ⟨c', hc', hq'⟩

end Shape

end Specimen
