import Specimen.Proofs.Generation.Closure
import Specimen.Proofs.SampleSet.Construction

/-!
# What can go wrong when samples are built

By the time that samples are built, the checks have seen to the count, the cases and the shape of every
declaration that is left, and whatever it refers to has samples. What is left to be found out is which
texts are names in generated source.

References are no exception: one that has been read from text is the text of a path
(`TypeRef.pathed_of_read`), and all that are looked up have samples
(`Generation.leads_of_mem_left`). So a fault of building is that the name of the declaration is no path,
or that a text which the shape is written with (`Shape.names`) is no name.

Main statement: `Generation.naming`.
-/

namespace Specimen

open Source (Path IsPathText)
open Synthesis

/-! ## Names -/

/-- The texts of a shape that have to be names: that of the constructor, or else the labels of the
members; for an enum those of the cases and the labels of their payloads. -/
def Shape.names : Shape → List String
  | .struct _ (.constructor name) _ => [name]
  | .struct _ (.fields _) parameters => labels parameters
  | .enum _ cases => cases.flatMap fun c => c.name :: labels c.payload

/-- What has to be a name for a sample is a text of the shape. -/
theorem Shape.mem_names_of_recipe {shape : Shape} {count : Nat} {r : Recipe} {name : String}
    (hr : r ∈ shape.recipes count) (hname : name ∈ r.names) : name ∈ shape.names := by
  cases shape with
  | struct type source parameters =>
    obtain rfl := List.eq_of_mem_replicate hr
    rcases source with constructor | (_ | _)
    · exact hname
    · exact hname
    · exact absurd hname List.not_mem_nil
  | enum type cases =>
    obtain ⟨c, hc, rfl⟩ := List.mem_map.mp hr
    exact List.mem_flatMap.mpr ⟨c, CaseShape.mem_of_mem_cycled hc, hname⟩

/-- A name that is refused is blamed itself. -/
theorem eq_invalidName_of_readName {text : String} {fault : Fault}
    (h : readName text = .error fault) : fault = .invalidName (.name text) := by
  unfold readName at h
  split at h
  · cases h
  · exact (Except.error.inj h).symm

theorem eq_invalidName_of_readPath {text : String} {fault : Fault}
    (h : readPath text = .error fault) : fault = .invalidName (.path text) := by
  unfold readPath at h
  split at h
  · cases h
  · exact (Except.error.inj h).symm

/-! ## References -/

/-- A reference is the text of a path, and there are samples of the type. -/
def Surroundings.Leads (surroundings : Surroundings) (path : String) : Prop :=
  surroundings.status path = .available ∧ IsPathText path

/-- A reference that leads to a type with samples is written as the first of them. -/
theorem Surroundings.Leads.exists_referenceExpr {surroundings : Surroundings} {path : String}
    (h : surroundings.Leads path) : ∃ type : Path, type.key = typeKey path ∧
      referenceExpr path surroundings = .ok (.firstSample type surroundings.targets.member) := by
  obtain ⟨type, htype, _⟩ := h.2.exists_readPath
  exact ⟨type, key_eq_of_readPath h.2 htype,
    referenceExpr_eq_ok_iff.mpr ⟨h.1, type, htype, rfl⟩⟩

/-- If all references lead to samples, the fault of a declaration is that its name is no path, or that a
text which its shape is written with is no name. -/
theorem Prepared.Blames.exists_invalidName {surroundings : Surroundings} {entry : Prepared}
    {fault : Fault} (leads : ∀ path ∈ entry.shape.references, surroundings.Leads path)
    (h : entry.Blames surroundings fault) :
    ∃ refused, fault = .invalidName refused ∧
      (refused = .path entry.name ∨ ∃ text ∈ entry.shape.names, refused = .name text) := by
  rcases h with ⟨r, hr, ⟨name, hname, hfault⟩ | ⟨path, hpath, hfault⟩⟩ | hfault
  · exact ⟨.name name, eq_invalidName_of_readName hfault,
      .inr ⟨name, Shape.mem_names_of_recipe hr hname, rfl⟩⟩
  · obtain ⟨type, _, hok⟩ :=
      (leads path (Shape.mem_references_of_recipe hr hpath)).exists_referenceExpr
    rw [hok] at hfault
    cases hfault
  · exact ⟨.path entry.name, eq_invalidName_of_readPath hfault, .inl rfl⟩

/-! ## What is looked up -/

/-- The value of a type depends on what is said about its own references alone. -/
theorem Synthesis.synthesize_congr (S S' : Surroundings) (mode_eq : S'.mode = S.mode)
    (targets_eq : S'.targets = S.targets) {type : TypeRef}
    (status_eq : ∀ path ∈ type.references, S'.status path = S.status path)
    (category : Option Category) : synthesize S' type category = synthesize S type category := by
  induction type generalizing category with
  | scalar kind => rw [synthesize, synthesize, mode_eq, targets_eq]
  | array element ih => rw [synthesize, synthesize, ih status_eq]
  | mapping kind key value ihKey ihValue =>
    have hkey := fun path hpath => status_eq path (List.mem_append_left _ hpath)
    have hvalue := fun path hpath => status_eq path (List.mem_append_right _ hpath)
    rw [synthesize, synthesize, ihKey hkey, ihValue hvalue]
  | reference path =>
    rw [synthesize, synthesize, referenceExpr, referenceExpr, status_eq path List.mem_cons_self,
      targets_eq]

/-- The sample set of a shape depends on what is said about the references of the shape alone. -/
theorem SampleSet.build_congr (S S' : Surroundings) (mode_eq : S'.mode = S.mode)
    (targets_eq : S'.targets = S.targets) {shape : Shape}
    (status_eq : ∀ path ∈ shape.references, S'.status path = S.status path) (count : Int) :
    build S' shape count = build S shape count := by
  have hparameters : shape.Related (Corresponds Eq Eq S' S) shape := by
    refine Shape.related_self fun q hq => ⟨rfl, ?_⟩
    have hvalue : q.synthesize S' = q.synthesize S :=
      synthesize_congr S S' mode_eq targets_eq
        (fun path hpath => status_eq path (Schema.mem_references_iff.mpr ⟨q, hq, hpath⟩)) q.category
    rw [hvalue]
    exact parallel_rfl _
  refine eq_of_parallel ((build_parallel Expr.compatible_eq hparameters count).mono ?_)
  rintro ⟨name, p, member, samples⟩ ⟨name', p', member', samples'⟩ ⟨rfl, rfl, ⟨rfl, rfl⟩, hsamples⟩
  rw [List.forall₂_eq_eq_eq] at hsamples
  obtain rfl : samples = samples' := hsamples
  rw [targets_eq]

namespace Generation

variable {schema : Schema} {entry : Prepared}

/-- What is left refers to types with samples, by texts of paths. -/
theorem leads_of_mem_left (targets : Targets) (h : entry ∈ (spreading schema).left) {path : String}
    (hpath : path ∈ entry.shape.references) :
    (surroundings schema targets (spreading schema).failed entry).Leads path := by
  obtain ⟨d, _, hready, _⟩ := exists_of_mem_left h
  exact ⟨status_eq_available h hpath, isPathText_of_ready hready hpath⟩

/-- When samples are built, nothing but a text that is refused can be at fault: the name of the
declaration as a path, or a text that its shape is written with as a name. Only references that have
samples are looked up, since whatever else would be said about others makes no difference. This is also
what is reported by this phase of a run. And no reference of a type that has been read is refused as a
path. -/
theorem naming (schema : Schema) (targets : Targets) :
    (∀ entry ∈ (spreading schema).left, ∃ d ∈ schema.types, schema.Ready d entry ∧
      (∀ before after fault,
        (buildSet schema targets (spreading schema).failed entry).run before =
          (.error fault, after) →
        ∃ refused, fault = .invalidName refused ∧
          (refused = .path d.name ∨ ∃ text ∈ entry.shape.names, refused = .name text)) ∧
      (∀ path ∈ entry.shape.references,
        status schema (spreading schema).failed path = .available) ∧
      ∀ status', (∀ path, status schema (spreading schema).failed path = .available →
          status' path = .available) →
        SampleSet.build ⟨entry.mode, targets, status'⟩ entry.shape d.sample.count =
          buildSet schema targets (spreading schema).failed entry) ∧
    (∀ identifiers, ∀ x ∈ (built schema targets identifiers).report,
      ∃ d ∈ schema.types, ∃ shape, d.shape = .ok shape ∧ ∃ refused,
        x = .ofFault (.invalidName refused) ⟨d.name, none⟩ ∧
        (refused = .path d.name ∨ ∃ text ∈ shape.names, refused = .name text)) ∧
    ∀ text type, TypeRef.read text = .ok type →
      ∀ path ∈ type.references, ∃ p, readPath path = .ok p := by
  refine ⟨fun entry hentry => ?_, fun identifiers x hx => ?_, fun text type hread path hpath => ?_⟩
  · obtain ⟨d, hd, hready, _⟩ := exists_of_mem_left hentry
    have havailable := fun path (hpath : path ∈ entry.shape.references) =>
      status_eq_available hentry hpath
    refine ⟨d, hd, hready, fun before after fault hrun => ?_, havailable, fun status' hstatus => ?_⟩
    · have hblames := ((buildSet_meets targets _ hready).of_error hrun).2
      rw [← hready.name_eq]
      exact hblames.exists_invalidName fun path hpath => leads_of_mem_left targets hentry hpath
    · have hsame : ∀ path ∈ entry.shape.references,
          status' path = status schema (spreading schema).failed path := fun path hpath =>
        (hstatus path (havailable path hpath)).trans (havailable path hpath).symm
      rw [buildSet, hready.declaration_eq]
      exact SampleSet.build_congr ⟨entry.mode, targets, status schema (spreading schema).failed⟩
        ⟨entry.mode, targets, status'⟩ rfl rfl hsame d.sample.count
  · obtain ⟨entry, hentry, fault, hblames, rfl⟩ :=
      (built_built schema targets identifiers).exists_of_mem_report hx
    obtain ⟨d, hd, hready, _⟩ := exists_of_mem_left hentry
    obtain ⟨refused, rfl, hrefused⟩ :=
      hblames.exists_invalidName fun path hpath => leads_of_mem_left targets hentry hpath
    rw [hready.name_eq] at hrefused ⊢
    exact ⟨d, hd, entry.shape, hready.shape_eq, refused, rfl, hrefused⟩
  · obtain ⟨p, hp, _⟩ := (TypeRef.pathed_of_read hread path hpath).isPathText.exists_readPath
    exact ⟨p, hp⟩

/-- The keyword that is to be the name of a field is a text of the shape. -/
theorem naming_misnamed :
    (built misnamed .standard {}).report = [.ofFault (.invalidName "type") ⟨"A", none⟩] ∧
    ∃ d ∈ misnamed.types, d.name = "A" ∧ ∃ shape, d.shape = .ok shape ∧ "type" ∈ shape.names := by
  have hreport : (built misnamed .standard {}).report =
      [.ofFault (.invalidName "type") ⟨"A", none⟩] := by decide +kernel
  refine ⟨hreport, ?_⟩
  obtain ⟨d, hd, shape, hshape, refused, heq, hrefused⟩ :=
    (naming misnamed .standard).2.1 {} _ (hreport ▸ List.mem_cons_self)
  obtain ⟨rfl, hname⟩ : refused = .name "type" ∧ d.name = "A" := by
    simpa [Diagnostic.ofFault, eq_comm] using heq
  obtain ⟨text, htext, heq⟩ := hrefused.resolve_left (by simp)
  cases heq
  exact ⟨d, hd, hname, shape, hshape, htext⟩

end Generation

end Specimen
