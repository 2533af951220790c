import Specimen.Proofs.Expr.Hint
import Specimen.Proofs.Generation.Run
import Specimen.Proofs.SampleSet.Construction

/-!
# Where categories end up

A category on a member is checked against the innermost kind of its type before there are any samples,
and goes down to the innermost value on a way of its own when these are made. Both come to the same
place: a randomized value carries its category there and nowhere else (`synthesize_hints`), and only
if the kind there is the one that the category is for.

Main statement: `hinting`.
-/

namespace Specimen

open Synthesis
open Specimen.Expr (Place Step under listOccurrences hint?)

/-! ## Values -/

/-- Where the innermost value stands in a value of a type. -/
def TypeRef.leafPlace : TypeRef → Place
  | .scalar _ | .reference _ => []
  | .array element => .item 0 :: element.leafPlace
  | .mapping _ _ value => .value 0 :: value.leafPlace

/-- The way to the leaf of a type never goes through a key. -/
theorem TypeRef.key_not_mem_leafPlace (type : TypeRef) (i : Nat) : Step.key i ∉ type.leafPlace := by
  induction type with
  | scalar | reference => exact List.not_mem_nil
  | array element ih => simpa [leafPlace] using ih
  | mapping kind key value _ ih => simpa [leafPlace] using ih

/-- The hints in a randomized value of a type: the category, at the innermost value, if this is of a
kind that takes categories. -/
def TypeRef.hints (targets : Targets) (type : TypeRef) (category : Option Category) :
    List (Place × Hint) :=
  match type.leaf with
  | .scalar kind =>
    ((category.filter fun _ => kind.domain?.isSome).map fun category =>
      (type.leafPlace, ⟨kind.methodName, categoryExpr category targets⟩)).toList
  | _ => []

/-- Without a category a type gives no hint. -/
theorem TypeRef.hints_none (targets : Targets) (type : TypeRef) : type.hints targets none = [] := by
  unfold hints
  split <;> rfl

/-- One step further out, the hints are the same, one step further in. -/
theorem TypeRef.hints_under (targets : Targets) {type inner : TypeRef} {step : Step}
    (place_eq : type.leafPlace = step :: inner.leafPlace) (leaf_eq : type.leaf = inner.leaf)
    (category : Option Category) :
    type.hints targets category = (inner.hints targets category).map (under step) := by
  unfold hints
  rw [leaf_eq, place_eq]
  split
  · rename_i kind _
    cases category.filter fun _ => kind.domain?.isSome <;> rfl
  · rfl

/-- In the randomized mode the value of a type has the hints of the type. -/
theorem Synthesis.synthesize_hints {surroundings : Surroundings}
    (randomized : surroundings.mode = .randomized) (type : TypeRef) (category : Option Category) :
    (synthesize surroundings type category).Yields True fun e _ =>
      e.hints = type.hints surroundings.targets category := by
  induction type generalizing category with
  | scalar kind =>
    rw [synthesize, randomized]
    exact yields_pure (hints_providerCall kind category _)
  | array element ih =>
    rw [synthesize]
    refine (ih category).bind fun item _ hitem => yields_pure ?_
    have hplace : (TypeRef.array element).leafPlace = .item 0 :: element.leafPlace := rfl
    rw [Expr.hints_list_singleton, hitem, TypeRef.hints_under _ hplace rfl]
  | mapping kind key value ihKey ihValue =>
    rw [synthesize]
    refine (ihKey none).bind fun k _ hkey => (ihValue category).bind fun v _ hvalue =>
      yields_pure ?_
    have hplace : (TypeRef.mapping kind key value).leafPlace = .value 0 :: value.leafPlace := rfl
    rw [Expr.hints_map_singleton, hkey, hvalue, TypeRef.hints_none,
      TypeRef.hints_under _ hplace rfl]
    rfl
  | reference path =>
    rw [synthesize]
    refine yields_ofExcept fun e he => ?_
    obtain ⟨_, type, _, rfl⟩ := referenceExpr_eq_ok_iff.mp he
    rfl

/-! ## Parameters -/

/-- A category is on a parameter whose type comes down to the kind that the category is for. -/
def Parameter.Fitting (parameter : Parameter) : Prop :=
  ∀ category, parameter.category = some category →
    parameter.type.leaf = .scalar category.domain.expectedKind

/-- The hint that a parameter adds to a sample in which its value is found by a step. -/
def Parameter.hint? (targets : Targets) (step : Step) (parameter : Parameter) :
    Option (Place × Hint) :=
  parameter.category.map fun category =>
    (step :: parameter.type.leafPlace,
      ⟨category.domain.expectedKind.methodName, categoryExpr category targets⟩)

/-- A parameter that fits its category gives the one hint of its place, or none without a category. -/
theorem Parameter.hints_of_fitting (targets : Targets) (step : Step) {parameter : Parameter}
    (h : parameter.Fitting) :
    (parameter.type.hints targets parameter.category).map (under step) =
      (parameter.hint? targets step).toList := by
  cases hcategory : parameter.category with
  | none => rw [TypeRef.hints_none, hint?, hcategory]; rfl
  | some category =>
    have hdomain : category.domain.expectedKind.domain? = some category.domain :=
      ScalarKind.domain?_eq_some_iff.mpr rfl
    rw [TypeRef.hints, h category hcategory, hint?, hcategory]
    simp [hdomain, under]

/-- Values that have the hints of their parameters have them one after the other. -/
theorem hints_of_forall₂ {targets : Targets} {parameters : List Parameter} {values : List Expr}
    (h : List.Forall₂ (fun p e => e.hints = p.type.hints targets p.category) parameters values)
    (fitting : ∀ p ∈ parameters, p.Fitting) (step : Nat → Step) (n : Nat) :
    listOccurrences hint? step n values =
      (parameters.zipIdx n).filterMap fun entry => entry.1.hint? targets (step entry.2) := by
  induction h generalizing n with
  | nil => simp [listOccurrences]
  | @cons p e parameters values head _ ih =>
    obtain ⟨hp, hrest⟩ := List.forall_mem_cons.mp fitting
    have hvalue : (e.occurrences hint?).map (under (step n)) = (p.hint? targets (step n)).toList := by
      rw [← Parameter.hints_of_fitting targets (step n) hp, ← head]
      rfl
    rw [listOccurrences, hvalue, ih hrest, List.zipIdx_cons, List.filterMap_cons]
    cases p.hint? targets (step n) <;> rfl

/-! ## Samples -/

/-- The step from a sample of a struct to the value at a position. -/
def Construction.step : Construction → Nat → Step
  | .fields false => .field
  | _ => .argument

/-- The hints of a sample are those of its values, each under the step of its place. -/
theorem Construction.Writes.hints_eq {source : Construction} {parameters : List Parameter}
    {values : List Expr} {e : Expr} (h : source.Writes parameters values e) :
    e.hints = listOccurrences hint? source.step 0 values := by
  cases h with
  | constructor _ => exact Expr.hints_call _ _
  | tuple => exact Expr.hints_call _ _
  | named _ => exact Expr.hints_braces _ _

/-- Hints are in the values of parameters only. -/
theorem Expr.Constructs.hints_eq_nil {p : Source.Path} {values : List Expr} {e : Expr}
    (h : Expr.Constructs p values e) (unhinted : ∀ v ∈ values, v.hints = []) : e.hints = [] := by
  have hvalues : ∀ step, listOccurrences hint? step 0 values = [] := by
    intro step
    rw [Expr.listOccurrences_eq_flatMap, List.flatMap_eq_nil_iff]
    intro entry hentry
    rw [List.map_eq_nil_iff]
    exact unhinted _ (List.fst_mem_of_mem_zipIdx hentry)
  cases h with
  | path => rfl
  | call => rw [Expr.hints_call, hvalues]
  | braces => rw [Expr.hints_braces, hvalues]

namespace SampleSet

/-- The values in samples have the hints of their parameters. -/
theorem build_hints {surroundings : Surroundings} (randomized : surroundings.mode = .randomized)
    (shape : Shape) (count : Int) :
    (build surroundings shape count).Yields True fun set _ => ∀ sample ∈ set.samples,
      ∃ i parameters values, shape.WritesAt i parameters values sample ∧
        List.Forall₂ (fun p e => e.hints = p.type.hints surroundings.targets p.category)
          parameters values := by
  have hvalues : ∀ q ∈ shape.parameters, (q.synthesize surroundings).Yields True fun e _ =>
      e.hints = q.type.hints surroundings.targets q.category :=
    fun q _ => synthesize_hints randomized q.type q.category
  refine (build_yields (P := fun q e _ => e.hints = q.type.hints surroundings.targets q.category)
    shape count hvalues).mono fun set taken hset sample hsample => ?_
  obtain ⟨i, _, share, parameters, values, hwrites, hthreaded⟩ := hset.2.exists_of_mem hsample
  exact ⟨i, parameters, values, hwrites, hthreaded.forall₂ fun _ _ _ h => h⟩

end SampleSet

variable {targets : Targets} {i : Nat} {parameters : List Parameter} {values : List Expr} {e : Expr}

/-- The parameters that are members of a sample add their hints to it. -/
theorem hints_of_fields {name : String} {tuple : Bool} {members : List Parameter}
    (h : (Shape.struct name (.fields tuple) members).WritesAt i parameters values e)
    (values_hints : List.Forall₂ (fun p e => e.hints = p.type.hints targets p.category)
      parameters values) (fitting : ∀ p ∈ members, p.Fitting) :
    e.hints = members.zipIdx.filterMap fun entry =>
      entry.1.hint? targets (Construction.step (.fields tuple) entry.2) := by
  cases h with
  | struct hwrites =>
    rw [hwrites.hints_eq]
    exact hints_of_forall₂ values_hints fitting _ 0

/-- Parameters without categories add no hints to a sample. -/
theorem hints_eq_nil {shape : Shape} (h : shape.WritesAt i parameters values e)
    (values_hints : List.Forall₂ (fun p e => e.hints = p.type.hints targets p.category)
      parameters values) (unhinted : ∀ p ∈ shape.parameters, p.category = none) : e.hints = [] := by
  obtain ⟨p, _, hconstructs⟩ := h.constructs
  refine hconstructs.hints_eq_nil fun v hv => ?_
  obtain ⟨q, hq, hhints⟩ := exists_of_mem_forall₂ values_hints hv
  rw [hhints, unhinted q (h.subset hq), TypeRef.hints_none]

/-- A hint of a parameter is one for a kind that takes the category, and is not in a key. -/
theorem Parameter.of_hint?_eq_some {parameter : Parameter} {step : Step} {found : Place × Hint}
    (outer : ∀ i, step ≠ .key i) (h : parameter.hint? targets step = some found) :
    (∃ kind category, Category.isCompatible category kind = true ∧
      found.2 = ⟨kind.methodName, categoryExpr category targets⟩) ∧ ∀ i, Step.key i ∉ found.1 := by
  obtain ⟨category, _, rfl⟩ := Option.map_eq_some_iff.mp h
  refine ⟨⟨_, category, Category.isCompatible_iff.mpr rfl, rfl⟩, fun i hi => ?_⟩
  rcases List.mem_cons.mp hi with hi | hi
  · exact outer i hi.symm
  · exact parameter.type.key_not_mem_leafPlace i hi

/-! ## Runs -/

namespace Generation

variable {schema : Schema} {d : Declaration}

/-- Every sample of a randomized set is written from values that have the hints of their parameters. -/
theorem buildSet_hints (schema : Schema) (targets : Targets) (failed : List String)
    {entry : Prepared} (randomized : entry.mode = .randomized) :
    (buildSet schema targets failed entry).Yields True fun set _ => ∀ sample ∈ set.samples,
      ∃ i parameters values, entry.shape.WritesAt i parameters values sample ∧
        List.Forall₂ (fun p e => e.hints = p.type.hints targets p.category) parameters values :=
  SampleSet.build_hints randomized _ _

/-- The categories on the members of a declaration that passes are on the right types. -/
theorem fitting_of_passes (h : schema.Passes d) {name : String} {tuple : Bool}
    {parameters : List Parameter} (hshape : d.shape = .ok (.struct name (.fields tuple) parameters))
    {p : Parameter} (hp : p ∈ parameters) : p.Fitting := by
  intro category hcategory
  obtain ⟨struct, hmembers⟩ := Declaration.exists_member_of_fields hshape
  obtain ⟨member, hmember, index, hparameter⟩ := hmembers p hp
  have hread := Member.parameter_eq_ok_iff.mp hparameter
  obtain ⟨token, htoken, hcategory⟩ := hread.exists_token hcategory
  exact Schema.leaf_of_passes h struct hmember htoken hcategory hread.type_eq

/-- In the samples of randomized declarations, categories are passed on for the kinds that take them
and never in keys; each member with a category passes on this one, once, at its innermost value, and
nothing else passes on any. A struct with a category on a member of another kind has no samples. -/
theorem hinting (schema : Schema) (targets : Targets) (identifiers : Identifiers) :
    (∀ d ∈ schema.types, schema.modeOf d = .randomized →
      ∀ set ∈ (run schema targets identifiers).sets, set.typeName = d.name →
      ∀ sample ∈ set.samples,
        (∀ found ∈ sample.hints,
          (∃ kind category, Category.isCompatible category kind = true ∧
            found.2 = ⟨kind.methodName, categoryExpr category targets⟩) ∧
          ∀ i, Step.key i ∉ found.1) ∧
        (∀ name tuple parameters, d.shape = .ok (.struct name (.fields tuple) parameters) →
          (∀ p ∈ parameters, p.Fitting) ∧
          sample.hints = parameters.zipIdx.filterMap fun entry =>
            entry.1.hint? targets (Construction.step (.fields tuple) entry.2)) ∧
        ((∀ name tuple parameters, d.shape ≠ .ok (.struct name (.fields tuple) parameters)) →
          sample.hints = [])) ∧
    ∀ d ∈ schema.types, d.kind = .struct → ∀ member ∈ d.storedMembers, ∀ token category type,
      member.category = some token → Category.read token = .ok category →
      TypeRef.read member.type = .ok type →
      (∀ kind, type.leaf = .scalar kind → category.isCompatible kind = false) →
      ¬ (run schema targets identifiers).Emits d := by
  constructor
  · intro d hd hmode set hset hname sample hsample
    obtain ⟨d', hd', entry, hentry, hready, hname', before, hrun⟩ := exists_run_of_mem_run hset
    obtain rfl := Schema.eq_of_name_eq hd' hd (hname'.symm.trans hname)
    have hpasses : schema.Passes d' := (survives_of_mem_left hentry hready).1
    have hrandomized : entry.mode = .randomized := hready.mode_eq.trans hmode
    obtain ⟨_, hhints⟩ := (buildSet_hints schema targets _ hrandomized).of_ok hrun
    obtain ⟨i, parameters, values, hwrites, hvalues⟩ := hhints sample hsample
    have hfields : ∀ name tuple members, d'.shape = .ok (.struct name (.fields tuple) members) →
        (∀ p ∈ members, p.Fitting) ∧
        sample.hints = members.zipIdx.filterMap fun entry =>
          entry.1.hint? targets (Construction.step (.fields tuple) entry.2) := by
      intro name tuple members hshape
      have hfitting : ∀ p ∈ members, p.Fitting := fun p => fitting_of_passes hpasses hshape
      rw [← hready.eq_shape hshape] at hwrites
      exact ⟨hfitting, hints_of_fields hwrites hvalues hfitting⟩
    have hother : (∀ name tuple members,
        d'.shape ≠ .ok (.struct name (.fields tuple) members)) → sample.hints = [] := by
      intro hother
      refine hints_eq_nil hwrites hvalues fun p => Declaration.category_eq_none hready.shape_eq ?_
      intro name tuple members heq
      exact hother name tuple members (heq ▸ hready.shape_eq)
    refine ⟨fun found hfound => ?_, hfields, hother⟩
    by_cases hshape : ∃ name tuple members, d'.shape = .ok (.struct name (.fields tuple) members)
    · obtain ⟨name, tuple, members, hshape⟩ := hshape
      rw [(hfields name tuple members hshape).2] at hfound
      obtain ⟨entry, _, hhint⟩ := List.mem_filterMap.mp hfound
      refine Parameter.of_hint?_eq_some (fun i => ?_) hhint
      cases tuple <;> simp [Construction.step]
    · rw [hother fun name tuple members h => hshape ⟨name, tuple, members, h⟩] at hfound
      cases hfound
  · intro d hd struct member hmember token category type htoken hcategory htype hmisfit hemits
    have hleaf := Schema.leaf_of_passes (hemits.survives hd).1 struct hmember htoken hcategory htype
    have hcompatible : category.isCompatible category.domain.expectedKind = true :=
      Category.isCompatible_iff.mpr rfl
    rw [hmisfit _ hleaf] at hcompatible
    cases hcompatible

def phoneBook : Declaration where
  kind := .struct
  name := "PhoneBook"
  members := [
    { name := "age", type := "u8" },
    { name := "emails", type := "BTreeMap<String, String>", category := "email" }]
  sample := { count := 1 }

def ticket : Declaration where
  kind := .struct
  name := "Ticket"
  members := [{ name := "price", type := "f32", category := "price" }]
  sample := { count := 1 }

/-- A category on the texts of a map, and one on a number of a kind that takes none. -/
def directory : Schema where
  types := [phoneBook, ticket]
  distinct := by decide

/-- The phone book has its hint at the values of its map, and the ticket, whose category does not fit, gets
no samples. -/
theorem hinting_directory :
    (run directory .standard {}).sets.map SampleSet.typeName = ["PhoneBook"] ∧
    (∀ set ∈ (run directory .standard {}).sets, set.typeName = "PhoneBook" →
      ∀ sample ∈ set.samples, sample.hints =
        [([.field 1, .value 0], ⟨"string", categoryExpr .email .standard⟩)]) ∧
    ¬ (run directory .standard {}).Emits ticket := by
  obtain ⟨hhints, hmisfit⟩ := hinting directory .standard {}
  refine ⟨by decide +kernel, fun set hset hname sample hsample => ?_, ?_⟩
  · have hshape : phoneBook.shape = .ok (.struct "PhoneBook" (.fields false)
        [{ name := "age", type := .scalar .uint8 },
          { name := "emails"
            type := .mapping .ordered (.scalar .text) (.scalar .text)
            category := some .email }]) := by decide +kernel
    obtain ⟨_, hfields, _⟩ := hhints phoneBook (by decide) (by decide) set hset hname sample hsample
    exact (hfields _ _ _ hshape).2
  · have hprice : Category.read "price" = .ok .price := by decide +kernel
    have hfloat : TypeRef.read "f32" = .ok (.scalar .float32) := by decide +kernel
    refine hmisfit ticket (by decide) rfl _ List.mem_cons_self _ _ _ rfl hprice hfloat ?_
    rintro kind hkind
    obtain rfl := TypeRef.scalar.inj hkind
    rfl

end Generation

end Specimen
