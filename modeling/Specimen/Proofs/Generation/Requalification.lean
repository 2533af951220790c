import Specimen.Proofs.Expr.Retyping
import Specimen.Proofs.Generation.Matching
import Specimen.Proofs.Generation.Naming
import Specimen.Proofs.Shape.Requalification

/-!
# What paths in front of references do not decide

Whatever looks for a declaration looks for the key of a reference: the checks, the search for ways
back, the spreading of failures and the building of samples. So a run does not depend on the paths in
front of the keys, in the declarations and in the list of types from elsewhere
(`Schema.Requalified`).

The references of a shape are kept without repetitions of their texts. With other paths, two references
with one key may become one, or one may become two; the search for ways back does not mind
(`Prepared.Requalified.corresponds`). Samples are the same but for the paths of the types whose first
samples they take (`Generation.buildSet_requalified`), since a reference that has been read from text
is always a path.

Main statement: `Generation.requalification`.
-/

namespace Specimen

open Source (Path)

/-! ## Values -/

namespace Expr

/-- An expression with nothing but the keys of the types whose first samples it takes. -/
def unqualified (e : Expr) : Expr := e.mapTypes fun type => .ofName type.key

theorem compatible_unqualified : Compatible fun e e' => e.unqualified = e'.unqualified :=
  compatible_of_map (fun _ _ => by rw [unqualified, mapTypes, listMapTypes_eq_map]; rfl)
    fun _ _ => by rw [unqualified, mapTypes, fieldsMapTypes_eq_map]; rfl

end Expr

open Synthesis

/-- The values of types that differ in paths alone differ in paths alone. -/
theorem Synthesis.synthesize_requalified (S S' : Surroundings) (mode_eq : S'.mode = S.mode)
    (targets_eq : S'.targets = S.targets) {type type' : TypeRef} (h : type.Requalified type')
    (leads : ∀ path ∈ type.references, S.Leads path)
    (leads' : ∀ path ∈ type'.references, S'.Leads path) (category : Option Category) :
    Parallel Eq (fun e e' => e.unqualified = e'.unqualified) (synthesize S type category)
      (synthesize S' type' category) := by
  induction h generalizing category with
  | scalar kind =>
    have hsame : synthesize S' (.scalar kind) category = synthesize S (.scalar kind) category := by
      rw [synthesize, synthesize, mode_eq, targets_eq]
    rw [hsame]
    exact (parallel_rfl _).mono fun e e' he => by rw [he]
  | array _ ih =>
    rw [synthesize, synthesize]
    refine (ih leads leads' category).bind fun item item' hitem => parallel_pure ?_
    rw [Expr.unqualified, Expr.unqualified] at hitem ⊢
    simp only [Expr.mapTypes, Expr.listMapTypes, hitem]
  | mapping _ _ ihKey ihValue =>
    have hkeys := ihKey (fun path hpath => leads path (List.mem_append_left _ hpath))
      (fun path hpath => leads' path (List.mem_append_left _ hpath)) none
    have hvalues := ihValue (fun path hpath => leads path (List.mem_append_right _ hpath))
      (fun path hpath => leads' path (List.mem_append_right _ hpath)) category
    rw [synthesize, synthesize]
    refine hkeys.bind fun key key' hkey => hvalues.bind fun value value' hvalue => parallel_pure ?_
    rw [Expr.unqualified, Expr.unqualified] at hkey hvalue ⊢
    simp only [Expr.mapTypes, Expr.pairsMapTypes, hkey, hvalue]
  | @reference path path' h =>
    obtain ⟨type, hkey, heq⟩ := (leads path List.mem_cons_self).exists_referenceExpr
    obtain ⟨type', hkey', heq'⟩ := (leads' path' List.mem_cons_self).exists_referenceExpr
    rw [synthesize, synthesize, heq, heq', targets_eq]
    refine parallel_pure ?_
    rw [Expr.unqualified, Expr.unqualified, Expr.mapTypes, Expr.mapTypes, hkey, hkey', h]

/-- A sample set with nothing but the keys of the types whose first samples it takes. -/
def SampleSet.unqualified (set : SampleSet) : SampleSet :=
  { set with samples := set.samples.map Expr.unqualified }

/-! ## Declarations -/

/-- Two declarations that have passed differ in nothing but paths in front of references. -/
structure Prepared.Requalified (entry entry' : Prepared) : Prop where
  declaration : entry.declaration.Requalified entry'.declaration
  shape : entry.shape.Related Parameter.Requalified entry'.shape
  mode_eq : entry'.mode = entry.mode

/-- All references of a shape, with their repetitions. -/
def Shape.occurrences (shape : Shape) : List String :=
  shape.parameters.flatMap fun p => p.type.references

/-- The references in both shapes lead to the same names, one by one. -/
theorem Shape.Related.occurrences {shape shape' : Shape}
    (h : shape.Related Parameter.Requalified shape') :
    List.Forall₂ SameKey shape.occurrences shape'.occurrences :=
  forall₂_flatMap (h.parameters.imp fun _ _ hp => hp.type.references)

/-- Declarations with other qualifications correspond to each other, reference by reference. -/
theorem Prepared.Requalified.corresponds {entry entry' : Prepared} (h : entry.Requalified entry') :
    entry.Corresponds SameKey entry' := by
  have hoccurrences := h.shape.occurrences
  refine ⟨h.declaration.name_eq, ?_, fun failed => ?_⟩
  · have hkeys : entry.shape.occurrences.map typeKey = entry'.shape.occurrences.map typeKey := by
      rw [← List.forall₂_eq_eq_eq, List.forall₂_map_left_iff, List.forall₂_map_right_iff]
      exact hoccurrences.imp fun _ _ hsame => hsame.symm
    have hfirsts : ∀ entry : Prepared,
        entry.keys.eraseDups = (entry.shape.occurrences.map typeKey).eraseDups :=
      fun entry => eraseDups_map_eraseDups typeKey entry.shape.occurrences
    rw [hfirsts, hfirsts, hkeys]
  · have hfirst : ∀ entry : Prepared, Generation.broken? failed entry =
        entry.shape.occurrences.find? fun path => failed.contains (typeKey path) :=
      fun entry => find?_eraseDups _ _
    rw [hfirst, hfirst]
    exact forall₂_find? hoccurrences fun path path' hsame => by rw [hsame]

namespace Declaration

variable {declaration declaration' : Declaration}

/-- Whether a category fits does not depend on paths. -/
theorem misfit?_requalified (category : Category) {member member' : Member}
    (h : SameType member.type member'.type) :
    Option.Rel (Fault.Related SameKey) (misfit? category member) (misfit? category member') := by
  have hrefl : ∀ fault? : Option Fault, Option.Rel (Fault.Related SameKey) fault? fault? := by
    rintro (_ | fault)
    · exact .none
    · exact .some (.refl fault)
  unfold misfit?
  rcases h with heq | ⟨type, type', htype, htype', hsame⟩
  · rw [heq]
    exact hrefl _
  · simp only [htype, htype', hsame.leaf.scalar?_eq]
    split
    · exact .none
    · exact .some (.categoryMismatch hsame.text_leaf)

/-- The same is said about the category of a member with another qualification. -/
theorem memberDiagnostics_requalified (type : String) (mode : Mode) {member member' : Member}
    (h : member.Requalified member') (index : Nat) :
    List.Forall₂ (Diagnostic.Related SameKey) (memberDiagnostics type mode member index)
      (memberDiagnostics type mode member' index) := by
  unfold memberDiagnostics
  rw [h.category_eq, h.accessor_eq, Member.displayName_eq h]
  split
  · exact .nil
  · dsimp only
    split
    · exact Diagnostic.related_refl _
    · split
      · exact Diagnostic.related_refl _
      · rename_i category _
        have hmisfit := misfit?_requalified category h.type
        refine List.rel_append ?_ (Diagnostic.related_refl _)
        generalize misfit? category member = fault?, misfit? category member' = fault'? at hmisfit
        cases hmisfit with
        | none => exact .nil
        | some hfault => exact .cons (.ofFault hfault) .nil

/-- The same is said about the categories of both declarations. -/
theorem categoryDiagnostics_requalified (h : declaration.Requalified declaration') (mode : Mode) :
    List.Forall₂ (Diagnostic.Related SameKey) (declaration.categoryDiagnostics mode)
      (declaration'.categoryDiagnostics mode) := by
  unfold categoryDiagnostics
  rw [h.kind_eq, h.name_eq]
  split
  · refine forall₂_flatMap ((forall₂_zipIdx h.members 0).imp fun entry entry' hentry => ?_)
    obtain ⟨hmember, hindex⟩ := hentry
    dsimp only
    rw [← hindex]
    exact memberDiagnostics_requalified _ _ hmember _
  · exact .nil

end Declaration

/-! ## Schemas -/

namespace Schema

variable {schema schema' : Schema} {declaration declaration' : Declaration}

/-- Two schemas differ in nothing but paths, in the types of their declarations and in front of the
types that have samples already. -/
structure Requalified (schema schema' : Schema) : Prop where
  defaults_eq : schema'.defaults = schema.defaults
  externalTypes : List.Forall₂ SameKey schema.externalTypes schema'.externalTypes
  types : List.Forall₂ Declaration.Requalified schema.types schema'.types

theorem Requalified.typeNames_eq (h : schema.Requalified schema') :
    schema'.typeNames = schema.typeNames := by
  rw [eq_comm, typeNames, typeNames, ← List.forall₂_eq_eq_eq, List.forall₂_map_left_iff,
    List.forall₂_map_right_iff]
  exact h.types.imp fun _ _ hd => hd.name_eq.symm

/-- Both schemas know the same keys. -/
theorem Requalified.knows_eq (h : schema.Requalified schema') {path path' : String}
    (hpath : SameKey path path') : schema'.knows path' = schema.knows path := by
  have hexternal : schema'.isExternal path' = schema.isExternal path := by
    unfold isExternal
    rw [hpath]
    exact forall₂_any h.externalTypes fun external external' hsame => by rw [hsame]
  rw [knows, knows, isSome_find?_eq, isSome_find?_eq, h.typeNames_eq, hpath, hexternal]

/-- The same references of both shapes are unknown. -/
theorem shapeDiagnostics_requalified (h : schema.Requalified schema') (type : String)
    {shape shape' : Shape} (hshape : shape.Related Parameter.Requalified shape') :
    List.Forall₂ (Diagnostic.Related SameKey) (schema.shapeDiagnostics type shape)
      (schema'.shapeDiagnostics type shape') := by
  refine forall₂_flatMap (hshape.parameters.imp fun p p' hp => ?_)
  unfold unknownReferences
  rw [hp.name_eq, List.forall₂_map_left_iff, List.forall₂_map_right_iff]
  have hunknown := List.rel_filter (p := fun path => !schema.knows path)
    (q := fun path => !schema'.knows path) (fun path path' hpath => by
      simp only [h.knows_eq hpath]) hp.type.references
  exact hunknown.imp fun _ _ hpath => .ofFault (.typeNotSupported hpath)

/-- The checks do not depend on paths. -/
theorem prepare_requalified (h : schema.Requalified schema')
    (hd : declaration.Requalified declaration') :
    List.Forall₂ (Diagnostic.Related SameKey) (schema.prepare declaration).1
      (schema'.prepare declaration').1 ∧
    Option.Rel Prepared.Requalified (schema.prepare declaration).2
      (schema'.prepare declaration').2 := by
  have hmode : schema'.modeOf declaration' = schema.modeOf declaration := by
    rw [modeOf, modeOf, hd.sample_eq, h.defaults_eq]
  have hkind : declaration'.checkKind = declaration.checkKind := by
    rw [Declaration.checkKind, Declaration.checkKind, hd.kind_eq, hd.name_eq]
  have hcategories := Declaration.categoryDiagnostics_requalified hd (schema.modeOf declaration)
  have herrors : (declaration'.categoryDiagnostics (schema.modeOf declaration)).any
      Diagnostic.isError =
      (declaration.categoryDiagnostics (schema.modeOf declaration)).any Diagnostic.isError :=
    forall₂_any hcategories fun _ _ hx => hx.isError_eq
  have hshape := Declaration.shape_requalified hd
  unfold prepare
  simp only [hkind, hmode, hd.sample_eq, hd.name_eq, herrors]
  cases declaration.checkKind with
  | error fault => exact ⟨Diagnostic.related_refl _, .none⟩
  | ok _ =>
    dsimp only
    split
    · exact ⟨Diagnostic.related_refl _, .none⟩
    · split
      · exact ⟨hcategories, .none⟩
      · generalize declaration.shape = result, declaration'.shape = result' at hshape
        cases hshape with
        | error error => exact ⟨List.rel_append hcategories (Diagnostic.related_refl _), .none⟩
        | @ok shape shape' hshape =>
          have hunknown := shapeDiagnostics_requalified h declaration.name hshape
          dsimp only
          generalize schema.shapeDiagnostics declaration.name shape = unknown,
            schema'.shapeDiagnostics declaration.name shape' = unknown' at hunknown
          cases hunknown with
          | nil => exact ⟨hcategories, .some ⟨hd, hshape, rfl⟩⟩
          | cons head rest => exact ⟨List.rel_append hcategories (.cons head rest), .none⟩

end Schema

namespace Generation

variable {schema schema' : Schema}

/-- With other qualifications the same declarations pass and fail, and the reports are related one by one.
-/
theorem check_requalified (h : schema.Requalified schema') {ds ds' : List Declaration}
    (hds : List.Forall₂ Declaration.Requalified ds ds') :
    List.Forall₂ Prepared.Requalified (check schema ds).passed (check schema' ds').passed ∧
    (check schema' ds').failed = (check schema ds).failed ∧
    List.Forall₂ (Diagnostic.Related SameKey) (check schema ds).report (check schema' ds').report := by
  obtain ⟨hpassed, hfailed⟩ := check_related hds fun d d' hd =>
    ⟨hd.name_eq, (Schema.prepare_requalified h hd).2⟩
  refine ⟨hpassed, hfailed, ?_⟩
  rw [check_report, check_report]
  exact forall₂_flatMap (hds.imp fun d d' hd => (Schema.prepare_requalified h hd).1)

/-! ## Runs -/

/-- The sample sets of declarations that are left differ in paths alone. -/
theorem buildSet_requalified (targets : Targets) {entry entry' : Prepared}
    (failed_eq : (spreading schema').failed = (spreading schema).failed)
    (hentry : entry ∈ (spreading schema).left) (hentry' : entry' ∈ (spreading schema').left)
    (h : entry.Requalified entry') :
    Parallel Eq (fun set set' => set'.unqualified = set.unqualified)
      (buildSet schema targets (spreading schema).failed entry)
      (buildSet schema' targets (spreading schema).failed entry') := by
  have hparameters : entry.shape.Related
      (SampleSet.Corresponds Eq (fun e e' => e.unqualified = e'.unqualified)
        (surroundings schema targets (spreading schema).failed entry)
        (surroundings schema' targets (spreading schema).failed entry')) entry'.shape := by
    refine h.shape.mono_mem fun q hq q' hq' hsame => ⟨hsame.name_eq, ?_⟩
    have hleads := fun path (hpath : path ∈ q.type.references) =>
      leads_of_mem_left targets hentry (Schema.mem_references_iff.mpr ⟨q, hq, hpath⟩)
    have hleads' := fun path (hpath : path ∈ q'.type.references) =>
      leads_of_mem_left targets hentry' (Schema.mem_references_iff.mpr ⟨q', hq', hpath⟩)
    rw [failed_eq] at hleads'
    rw [Parameter.synthesize, Parameter.synthesize, hsame.category_eq]
    exact synthesize_requalified (surroundings schema targets (spreading schema).failed entry)
      (surroundings schema' targets (spreading schema).failed entry') h.mode_eq rfl hsame.type
      hleads hleads' q.category
  rw [buildSet, buildSet, h.declaration.sample_eq]
  refine (SampleSet.build_parallel Expr.compatible_unqualified hparameters _).mono ?_
  rintro ⟨name, p, member, samples⟩ ⟨name', p', member', samples'⟩ ⟨rfl, rfl, ⟨rfl, rfl⟩, hsamples⟩
  rw [SampleSet.unqualified, SampleSet.unqualified, map_eq_map_of_forall₂ hsamples]
  rfl

/-- Paths in front of references do not matter: the same declarations fail, the others have the same
samples but for the paths of the types whose first samples are taken, the same is reported at the same
places, the same ways back are told, and the same identifiers are taken. -/
theorem requalification [Reasons] (h : schema.Requalified schema') (targets : Targets)
    (identifiers : Identifiers) :
    (run schema' targets identifiers).failed = (run schema targets identifiers).failed ∧
    List.Forall₂ (fun set set' => set'.unqualified = set.unqualified)
      (run schema targets identifiers).sets (run schema' targets identifiers).sets ∧
    List.Forall₂ (fun x x' => x'.id = x.id ∧ x'.location = x.location ∧
        (x.id = "cyclic_reference" → x'.message = x.message))
      (run schema targets identifiers).report (run schema' targets identifiers).report ∧
    (run schema' targets identifiers).identifiers = (run schema targets identifiers).identifiers := by
  obtain ⟨hpassed, hchecked, hreport⟩ := check_requalified h h.types
  have hspreading := spreading_related (fun _ _ => Prepared.Requalified.corresponds) hpassed hchecked
  obtain ⟨hsets, hfailed, hidentifiers, rest, rest', hrest, heq, heq'⟩ :=
    run_related (fun _ _ => Prepared.Requalified.corresponds) hpassed hchecked
      (fun entry hentry entry' hentry' =>
        buildSet_requalified targets hspreading.failed_eq hentry hentry') (Eq.refl identifiers)
  refine ⟨hfailed, hsets, ?_, hidentifiers.symm⟩
  rw [heq, heq']
  exact (List.rel_append hreport hrest).imp fun _ _ hx => ⟨hx.id_eq, hx.location_eq, hx.message_eq⟩

/-- A wiki: its pages have tags and a cover, its nodes and links come to nothing. -/
def wiki (tag tags cover node : String) (external : String) : Schema where
  defaults := { mode := .fixed }
  externalTypes := [external]
  types := [
    { kind := .struct, name := "Tag", members := [{ name := "id", type := "Uuid" }]
      sample := { count := 2 } },
    { kind := .struct, name := "Page"
      members := [{ name := "tag", type := tag }, { name := "tags", type := tags },
        { name := "cover", type := cover }]
      sample := { count := 1 } },
    { kind := .struct, name := "Node", members := [{ name := "next", type := node }]
      sample := { count := 1 } },
    { kind := .struct, name := "Link", members := [{ name := "node", type := "Vec<Node>" }]
      sample := { count := 1 } }]
  distinct := by simp

/-- Without paths, the tags of a page are one reference and not two. -/
theorem requalification_wiki :
    (wiki "model::Tag" "Vec<::wiki::Tag>" "Image" "self::Node" "media::Image").Requalified
      (wiki "Tag" "Vec<Tag>" "crate::Image" "Node" "Image") ∧
    (run (wiki "model::Tag" "Vec<::wiki::Tag>" "Image" "self::Node" "media::Image")
      .standard ⟨7⟩).failed = ["Node", "Link"] ∧
    (run (wiki "Tag" "Vec<Tag>" "crate::Image" "Node" "Image") .standard ⟨7⟩).failed =
      ["Node", "Link"] ∧
    (run (wiki "Tag" "Vec<Tag>" "crate::Image" "Node" "Image") .standard ⟨7⟩).report.map
      Diagnostic.id = ["cyclic_reference", "dependency_failed"] ∧
    (run (wiki "Tag" "Vec<Tag>" "crate::Image" "Node" "Image") .standard ⟨7⟩).identifiers = ⟨9⟩ := by
  have htag : SameType "model::Tag" "Tag" :=
    .inr ⟨.reference "model::Tag", .reference "Tag", by decide +kernel, by decide +kernel,
      .reference (by decide +kernel)⟩
  have htags : SameType "Vec<::wiki::Tag>" "Vec<Tag>" :=
    .inr ⟨.array (.reference "::wiki::Tag"), .array (.reference "Tag"), by decide +kernel,
      by decide +kernel, .array (.reference (by decide +kernel))⟩
  have hcover : SameType "Image" "crate::Image" :=
    .inr ⟨.reference "Image", .reference "crate::Image", by decide +kernel, by decide +kernel,
      .reference (by decide +kernel)⟩
  have hnode : SameType "self::Node" "Node" :=
    .inr ⟨.reference "self::Node", .reference "Node", by decide +kernel, by decide +kernel,
      .reference (by decide +kernel)⟩
  have hrequalified :
      (wiki "model::Tag" "Vec<::wiki::Tag>" "Image" "self::Node" "media::Image").Requalified
        (wiki "Tag" "Vec<Tag>" "crate::Image" "Node" "Image") := by
    refine ⟨rfl, .cons (by decide +kernel) .nil, .cons (.refl _) (.cons ?_ (.cons ?_ (.cons (.refl _)
      .nil)))⟩
    · exact ⟨rfl, rfl, rfl, .cons ⟨rfl, htag, rfl, rfl⟩ (.cons ⟨rfl, htags, rfl, rfl⟩
        (.cons ⟨rfl, hcover, rfl, rfl⟩ .nil)), .nil, .nil⟩
    · exact ⟨rfl, rfl, rfl, .cons ⟨rfl, hnode, rfl, rfl⟩ .nil, .nil, .nil⟩
  obtain ⟨hfailed, _, _, hidentifiers⟩ := requalification hrequalified .standard ⟨7⟩
  have hwiki : (run (wiki "model::Tag" "Vec<::wiki::Tag>" "Image" "self::Node" "media::Image")
      .standard ⟨7⟩).failed = ["Node", "Link"] := by decide +kernel
  exact ⟨hrequalified, hwiki, hfailed.trans hwiki, by decide +kernel,
    hidentifiers.trans (by decide +kernel)⟩

end Generation

end Specimen
