import Specimen.Proofs.Expr.Numbering
import Specimen.Proofs.Generation.Checking
import Specimen.Proofs.SampleSet.Construction

/-!
# Samples that differ in their numbers only

What is made of a type depends on the mode, on the names to be used, and on whether there are samples
of the types that it refers to. All else that is known when samples are made shows in the numbers of
identifiers, and nowhere else (`synthesize_agree`, `SampleSet.build_alike`).
-/

namespace Specimen

open Synthesis

/-! ## Values -/

/-- Two expressions differ in nothing but the numbers of identifiers. -/
def Expr.Alike (e e' : Expr) : Prop := e.unnumbered = e'.unnumbered

/-- Constructions of values that are alike are alike. -/
theorem Expr.compatible_alike : Expr.Compatible Expr.Alike :=
  compatible_of_map (fun self => unnumbered_call (makesIdentifier_eq_false self)) fun p fields => by
    rw [unnumbered, fieldsUnnumbered_eq_map]

theorem Synthesis.nests_alike : Nests Expr.Alike where
  list h := by
    rw [Expr.Alike, Expr.unnumbered, Expr.unnumbered, Expr.listUnnumbered_eq_map,
      Expr.listUnnumbered_eq_map, List.map_singleton, List.map_singleton, h]
  map hk hv := by
    rw [Expr.Alike] at hk hv ⊢
    simp only [Expr.unnumbered, Expr.pairsUnnumbered, hk, hv]

/-- Fixed values of one kind are alike, wherever the counters stand. -/
theorem Synthesis.placeholder_agree (kind : ScalarKind) (targets : Targets) :
    Agree Expr.Alike (placeholder kind targets) (placeholder kind targets) := by
  cases kind with
  | uuid =>
    refine agree_identifier.bind fun n m _ => agree_pure ?_
    rw [Expr.Alike, Expr.unnumbered_identifier targets.makesIdentifier_identifier,
      Expr.unnumbered_identifier targets.makesIdentifier_identifier]
  | _ => exact agree_pure rfl

/-- Values for which the same references have samples are alike. -/
theorem Synthesis.synthesize_agree (S S' : Surroundings) (mode_eq : S'.mode = S.mode)
    (targets_eq : S'.targets = S.targets) {type : TypeRef}
    (status_eq : ∀ path ∈ type.references, S'.status path = S.status path)
    (category : Option Category) :
    Agree Expr.Alike (synthesize S type category) (synthesize S' type category) := by
  refine agree_iff_parallel.mpr (synthesize_parallel nests_alike (fun kind category => ?_)
    (fun path hpath => ?_) category)
  · rw [← agree_iff_parallel, synthesize, synthesize, mode_eq, targets_eq]
    cases S.mode with
    | fixed => exact placeholder_agree kind _
    | randomized => exact agree_pure rfl
  · have hreference : referenceExpr path S' = referenceExpr path S := by
      rw [referenceExpr, referenceExpr, status_eq path hpath, targets_eq]
    rw [hreference]
    exact parallel_ofExcept fun _ _ => rfl

/-! ## Sample sets -/

namespace SampleSet

/-- A sample set without the numbers of its identifiers. -/
def unnumbered (set : SampleSet) : SampleSet :=
  { set with samples := set.samples.map Expr.unnumbered }

/-- Two sample sets differ in nothing but the numbers of identifiers. -/
def Alike (set set' : SampleSet) : Prop := set.unnumbered = set'.unnumbered

/-- Sets that are alike are for the same name. -/
theorem Alike.typeName_eq {set set' : SampleSet} (h : set.Alike set') :
    set.typeName = set'.typeName := by
  have hname : set.unnumbered.typeName = set'.unnumbered.typeName := congrArg typeName h
  exact hname

/-- If the references of a shape are in the same state, its sample sets are alike. -/
theorem build_alike (S S' : Surroundings) (mode_eq : S'.mode = S.mode)
    (targets_eq : S'.targets = S.targets) {shape : Shape}
    (status_eq : ∀ path ∈ shape.references, S'.status path = S.status path) (count : Int) :
    Agree Alike (build S shape count) (build S' shape count) := by
  have hvalues : ∀ q ∈ shape.parameters, Agree Expr.Alike (q.synthesize S) (q.synthesize S') := by
    intro q hq
    refine synthesize_agree S S' mode_eq targets_eq (fun path hpath => status_eq path ?_) q.category
    exact Schema.mem_references_iff.mpr ⟨q, hq, hpath⟩
  refine (build_agree Expr.compatible_alike shape count hvalues).mono ?_
  rintro ⟨name, p, member, samples⟩ ⟨name', p', member', samples'⟩ ⟨rfl, rfl, ⟨rfl, rfl⟩, hsamples⟩
  rw [Alike, unnumbered, unnumbered, map_eq_map_of_forall₂ hsamples, targets_eq]

end SampleSet

end Specimen
