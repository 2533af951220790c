import Specimen.Proofs.Generation.Checking
import Specimen.Proofs.Generation.Search
import Specimen.Proofs.Generation.Spreading

/-!
# Declarations that refer to each other

The run works on names: the keys of references, the nodes of a graph, the names that have failed. The
properties of a run are about declarations. Since no two declarations of a schema have the same name,
the two agree, and this module goes from one to the other once for all.

* `Schema.RefersTo` is what a reference means, without regard to whether anything passes its checks.
* `Schema.OnCycle` is a way back along declarations that pass; the graph of names has the same ways
  (`transGen_edge_iff`).
* `Schema.Bad` fails by itself, and a name is doomed exactly when its declaration reaches one that is
  bad (`doomed_iff`).
-/

namespace Specimen

namespace Schema

variable {schema : Schema} {d e : Declaration}

/-- One declaration of a schema refers to another when a path in its shape has the other's name as its
key. -/
def RefersTo (schema : Schema) (d e : Declaration) : Prop :=
  d ∈ schema.types ∧ e ∈ schema.types ∧
    ∃ shape, d.shape = .ok shape ∧ ∃ path ∈ shape.references, typeKey path = e.name

/-- A reference between declarations that pass their own checks. -/
def Step (schema : Schema) (d e : Declaration) : Prop :=
  schema.RefersTo d e ∧ schema.Passes d ∧ schema.Passes e

/-- References between declarations that pass lead from a declaration back to itself. -/
def OnCycle (schema : Schema) (d : Declaration) : Prop := Relation.TransGen schema.Step d d

/-- A declaration fails by itself: it does not pass its own checks or lies on a cycle. -/
def Bad (schema : Schema) (d : Declaration) : Prop := ¬ schema.Passes d ∨ schema.OnCycle d

/-- A declaration does not fail by itself, but references lead from it to one that does. -/
def Blocked (schema : Schema) (d : Declaration) : Prop :=
  schema.Passes d ∧ ¬ schema.OnCycle d ∧
    ∃ e, Relation.TransGen schema.RefersTo d e ∧ schema.Bad e

/-- The declarations of a schema are told apart by their names. -/
theorem eq_of_name_eq (hd : d ∈ schema.types) (he : e ∈ schema.types) (h : d.name = e.name) :
    d = e :=
  List.inj_on_of_nodup_map schema.distinct hd he h

/-- What lies on a cycle passes its own checks. -/
theorem OnCycle.passes (h : schema.OnCycle d) : schema.Passes d := by
  obtain ⟨_, hstep, _⟩ := Relation.TransGen.head'_iff.mp h
  exact hstep.2.1

/-- Whether a declaration is blocked or fails by itself is all one to those that refer to it. -/
theorem bad_or_blocked_iff :
    schema.Bad d ∨ schema.Blocked d ↔ ∃ e, Relation.ReflTransGen schema.RefersTo d e ∧ schema.Bad e := by
  constructor
  · rintro (h | ⟨_, _, e, hreach, hbad⟩)
    · exact ⟨d, .refl, h⟩
    · exact ⟨e, hreach.to_reflTransGen, hbad⟩
  · rintro ⟨e, hreach, hbad⟩
    by_cases hd : schema.Bad d
    · exact .inl hd
    · have hpasses : schema.Passes d ∧ ¬ schema.OnCycle d := by simpa [Bad] using hd
      rcases Relation.reflTransGen_iff_eq_or_transGen.mp hreach with rfl | hreach
      · exact absurd hbad hd
      · exact .inr ⟨hpasses.1, hpasses.2, e, hreach, hbad⟩

end Schema

namespace Generation

open Relation (TransGen ReflTransGen)

variable {schema : Schema} {d e : Declaration} {entry : Prepared}

/-- All declarations of a schema, checked. -/
def checked (schema : Schema) : Checked := check schema schema.types

/-- A declaration that has passed comes from one of the schema, and is ready. -/
theorem exists_ready (h : entry ∈ (checked schema).passed) :
    ∃ d ∈ schema.types, schema.Passes d ∧ schema.Ready d entry := by
  rw [checked, check_passed] at h
  obtain ⟨d, hd, hentry⟩ := List.mem_filterMap.mp h
  exact ⟨d, hd, Option.isSome_iff_exists.mpr ⟨entry, hentry⟩, Schema.ready_of_prepare hentry⟩

/-- A declaration that passes is among those that have passed. -/
theorem exists_entry (hd : d ∈ schema.types) (h : schema.Passes d) :
    ∃ entry ∈ (checked schema).passed, schema.Ready d entry := by
  obtain ⟨entry, hentry⟩ := Option.isSome_iff_exists.mp h
  refine ⟨entry, ?_, Schema.ready_of_prepare hentry⟩
  rw [checked, check_passed]
  exact List.mem_filterMap.mpr ⟨d, hd, hentry⟩

/-- The names of those that have passed keep the order of the schema. -/
theorem passed_names_sublist (schema : Schema) :
    ((checked schema).passed.map Prepared.name).Sublist schema.typeNames := by
  rw [checked, check_passed, Schema.typeNames]
  induction schema.types with
  | nil => exact .slnil
  | cons d ds ih =>
    cases hd : (schema.prepare d).2 with
    | none =>
      simp only [List.filterMap_cons, hd, List.map_cons]
      exact ih.cons _
    | some entry =>
      have hname : entry.name = d.name := congrArg _ (Schema.ready_of_prepare hd).declaration_eq
      simp only [List.filterMap_cons, hd, List.map_cons, hname]
      exact ih.cons_cons _

/-- No two declarations that pass have the same name. -/
theorem passed_names_nodup (schema : Schema) :
    ((checked schema).passed.map Prepared.name).Nodup :=
  (passed_names_sublist schema).nodup schema.distinct

/-! ## Cycles -/

/-- In the graph of declarations with different names, a name refers to the keys of the declaration
that has it. -/
theorem edge_graph_iff {entries : List Prepared} (distinct : (entries.map Prepared.name).Nodup)
    {a b : String} :
    Cycle.Edge (Cycle.graph entries) a b ↔ ∃ entry ∈ entries, entry.name = a ∧ b ∈ entry.keys := by
  unfold Cycle.Edge Cycle.next Cycle.graph
  induction entries with
  | nil => simp
  | cons entry entries ih =>
    obtain ⟨hnew, hrest⟩ := List.nodup_cons.mp distinct
    rw [List.map_cons, List.lookup_cons]
    by_cases h : a = entry.name
    · subst h
      simp only [beq_self_eq_true, Option.getD_some, List.exists_mem_cons_iff, true_and]
      refine ⟨.inl, ?_⟩
      rintro (hb | ⟨other, hother, heq, _⟩)
      · exact hb
      · exact absurd (heq ▸ List.mem_map_of_mem hother) hnew
    · have hne : (a == entry.name) = false := beq_eq_false_iff_ne.mpr h
      simp only [hne, ih hrest, List.exists_mem_cons_iff, Ne.symm h, false_and, false_or]

/-- A name of the graph is that of a declaration that passes. -/
theorem exists_of_hasNode {a : String}
    (h : Cycle.hasNode (Cycle.graph (checked schema).passed) a = true) :
    ∃ d ∈ schema.types, schema.Passes d ∧ d.name = a := by
  have hmem := Cycle.mem_names_of_hasNode h
  simp only [Cycle.graph, List.map_map, List.mem_map, Function.comp_apply] at hmem
  obtain ⟨entry, hentry, rfl⟩ := hmem
  obtain ⟨d, hd, hpasses, hready⟩ := exists_ready hentry
  exact ⟨d, hd, hpasses, congrArg _ hready.declaration_eq.symm⟩

/-- Between declarations that pass, the graph has the steps that references make. -/
theorem edge_iff_step (hd : d ∈ schema.types) (he : e ∈ schema.types) (hpasses : schema.Passes e) :
    Cycle.Edge (Cycle.graph (checked schema).passed) d.name e.name ↔ schema.Step d e := by
  rw [edge_graph_iff (passed_names_nodup schema)]
  constructor
  · rintro ⟨entry, hentry, hname, hkey⟩
    obtain ⟨d', hd', hpasses', hready⟩ := exists_ready hentry
    obtain rfl : d' = d :=
      Schema.eq_of_name_eq hd' hd ((congrArg _ hready.declaration_eq.symm).trans hname)
    obtain ⟨path, hpath, hkey⟩ := List.mem_map.mp hkey
    exact ⟨⟨hd, he, entry.shape, hready.shape_eq, path, hpath, hkey⟩, hpasses', hpasses⟩
  · rintro ⟨⟨_, _, shape, hshape, path, hpath, hkey⟩, hpasses', _⟩
    obtain ⟨entry, hentry, hready⟩ := exists_entry hd hpasses'
    obtain rfl := hready.eq_shape hshape
    exact ⟨entry, hentry, congrArg _ hready.declaration_eq, List.mem_map.mpr ⟨path, hpath, hkey⟩⟩

/-- The graph has the ways that references make. Every name on a way but the last refers to something,
so it is in the graph. -/
theorem transGen_edge_iff (hd : d ∈ schema.types) (he : e ∈ schema.types)
    (hpasses : schema.Passes e) :
    TransGen (Cycle.Edge (Cycle.graph (checked schema).passed)) d.name e.name ↔
      TransGen schema.Step d e := by
  constructor
  · intro h
    generalize hb : e.name = b at h
    induction h generalizing e with
    | single edge =>
      subst hb
      exact .single ((edge_iff_step hd he hpasses).mp edge)
    | tail _ edge ih =>
      subst hb
      obtain ⟨c, hc, hcpasses, rfl⟩ := exists_of_hasNode (Cycle.hasNode_of_edge edge)
      exact (ih hc hcpasses rfl).tail ((edge_iff_step hc he hpasses).mp edge)
  · intro h
    induction h with
    | single step => exact .single ((edge_iff_step hd he hpasses).mpr step)
    | tail _ step ih =>
      have hc := step.1.1
      exact (ih hc step.2.1).tail ((edge_iff_step hc he hpasses).mpr step)

/-- A declaration that passes has a way back in the graph exactly when it lies on a cycle. -/
theorem wayBack?_isSome_iff_onCycle (hd : d ∈ schema.types) (hpasses : schema.Passes d) :
    (Cycle.wayBack? (Cycle.graph (checked schema).passed) d.name).isSome = true ↔
      schema.OnCycle d := by
  rw [Cycle.wayBack?_isSome_iff, transGen_edge_iff hd hd hpasses, Schema.OnCycle]

/-! ## Failures -/

/-- What is reported on declarations that refer back to themselves. -/
def cyclic (schema : Schema) : List Diagnostic := Cycle.diagnostics (checked schema).passed

/-- No declaration is reported twice to lie on a cycle. -/
theorem cyclic_names_nodup (schema : Schema) :
    ((cyclic schema).map fun d => d.location.type).Nodup := by
  refine List.Sublist.nodup ?_ (passed_names_nodup schema)
  unfold cyclic Cycle.diagnostics
  generalize Cycle.graph (checked schema).passed = g
  induction (checked schema).passed with
  | nil => exact .slnil
  | cons entry entries ih =>
    rw [List.filterMap_cons, List.map_cons]
    unfold Cycle.diagnostic? at ih ⊢
    cases Cycle.wayBack? g entry.name with
    | none => exact ih.cons _
    | some way => exact ih.cons_cons _

/-- The names that have failed before failures spread. -/
def outset (schema : Schema) : List String :=
  (checked schema).failed ++ (cyclic schema).map fun d => d.location.type

/-- What is reported on cycles: for each declaration on one, the way that has been found. -/
theorem mem_cyclic_iff {x : Diagnostic} :
    x ∈ cyclic schema ↔ ∃ d ∈ schema.types, schema.Passes d ∧ ∃ way,
      Cycle.wayBack? (Cycle.graph (checked schema).passed) d.name = some way ∧
      x = .ofFault (.cyclicReference d.name (" -> ".intercalate way)) ⟨d.name, none⟩ := by
  simp only [cyclic, Cycle.diagnostics, List.mem_filterMap, Cycle.diagnostic?, Option.map_eq_some_iff]
  constructor
  · rintro ⟨entry, hentry, way, hway, rfl⟩
    obtain ⟨d, hd, hpasses, hready⟩ := exists_ready hentry
    obtain rfl := hready.declaration_eq
    exact ⟨entry.declaration, hd, hpasses, way, hway, rfl⟩
  · rintro ⟨d, hd, hpasses, way, hway, rfl⟩
    obtain ⟨entry, hentry, hready⟩ := exists_entry hd hpasses
    obtain rfl := hready.declaration_eq
    exact ⟨entry, hentry, way, hway, rfl⟩

/-- Some diagnostic on cycles is about a declaration exactly when it lies on one. -/
theorem mem_cyclic_names_iff (hd : d ∈ schema.types) :
    d.name ∈ (cyclic schema).map (fun x => x.location.type) ↔ schema.OnCycle d := by
  rw [List.mem_map]
  constructor
  · rintro ⟨x, hx, hname⟩
    obtain ⟨d', hd', hpasses, way, hway, rfl⟩ := mem_cyclic_iff.mp hx
    obtain rfl := Schema.eq_of_name_eq hd' hd hname
    exact (wayBack?_isSome_iff_onCycle hd hpasses).mp (by rw [hway]; rfl)
  · intro h
    have hsome := (wayBack?_isSome_iff_onCycle hd h.passes).mpr h
    obtain ⟨way, hway⟩ := Option.isSome_iff_exists.mp hsome
    exact ⟨_, mem_cyclic_iff.mpr ⟨d, hd, h.passes, way, hway, rfl⟩, rfl⟩

/-- The names of the declarations that do not pass. -/
theorem mem_checked_failed_iff (hd : d ∈ schema.types) :
    d.name ∈ (checked schema).failed ↔ ¬ schema.Passes d := by
  rw [checked, check_failed, List.mem_map]
  constructor
  · rintro ⟨d', hd', hname⟩
    obtain ⟨hmem, hnot⟩ := List.mem_filter.mp hd'
    obtain rfl := Schema.eq_of_name_eq hmem hd hname
    simpa using hnot
  · exact fun h => ⟨d, List.mem_filter.mpr ⟨hd, by simpa using h⟩, rfl⟩

/-- A name that has failed at the outset is that of a declaration of the schema. -/
theorem exists_of_mem_outset {name : String} (h : name ∈ outset schema) :
    ∃ d ∈ schema.types, d.name = name := by
  rcases List.mem_append.mp h with h | h
  · rw [checked, check_failed] at h
    obtain ⟨d, hd, rfl⟩ := List.mem_map.mp h
    exact ⟨d, (List.mem_filter.mp hd).1, rfl⟩
  · obtain ⟨x, hx, rfl⟩ := List.mem_map.mp h
    obtain ⟨d, hd, _, way, _, rfl⟩ := mem_cyclic_iff.mp hx
    exact ⟨d, hd, rfl⟩

/-- What has failed at the outset is what fails by itself. -/
theorem mem_outset_iff (hd : d ∈ schema.types) : d.name ∈ outset schema ↔ schema.Bad d := by
  rw [outset, List.mem_append, mem_checked_failed_iff hd, mem_cyclic_names_iff hd, Schema.Bad]

/-- What is doomed is declared, and references lead from it to something bad. -/
theorem exists_of_doomed {name : String}
    (h : Doomed (outset schema) (checked schema).passed name) :
    ∃ d ∈ schema.types, d.name = name ∧ ∃ e, ReflTransGen schema.RefersTo d e ∧ schema.Bad e := by
  induction h with
  | failed h =>
    obtain ⟨d, hd, rfl⟩ := exists_of_mem_outset h
    exact ⟨d, hd, rfl, d, .refl, (mem_outset_iff hd).mp h⟩
  | @refers entry path mem ref _ ih =>
    obtain ⟨c, hc, hkey, e, hreach, hbad⟩ := ih
    obtain ⟨d, hd, _, hready⟩ := exists_ready mem
    refine ⟨d, hd, congrArg _ hready.declaration_eq.symm, e, .head ?_ hreach, hbad⟩
    exact ⟨hd, hc, entry.shape, hready.shape_eq, path, ref, hkey.symm⟩

/-- What reaches something bad is doomed. -/
theorem doomed_of_reaches (hreach : ReflTransGen schema.RefersTo d e) (he : e ∈ schema.types)
    (hbad : schema.Bad e) : Doomed (outset schema) (checked schema).passed d.name := by
  induction hreach using ReflTransGen.head_induction_on with
  | refl => exact .failed ((mem_outset_iff he).mpr hbad)
  | @head a c step _ ih =>
    obtain ⟨ha, _, shape, hshape, path, hpath, hkey⟩ := step
    by_cases hpasses : schema.Passes a
    · obtain ⟨entry, hentry, hready⟩ := exists_entry ha hpasses
      obtain rfl := hready.eq_shape hshape
      obtain rfl := hready.declaration_eq
      exact .refers hentry hpath (hkey ▸ ih)
    · exact .failed ((mem_outset_iff ha).mpr (.inl hpasses))

/-- A declaration is doomed exactly when it fails by itself or is blocked. -/
theorem doomed_iff (hd : d ∈ schema.types) :
    Doomed (outset schema) (checked schema).passed d.name ↔ schema.Bad d ∨ schema.Blocked d := by
  rw [Schema.bad_or_blocked_iff]
  constructor
  · intro h
    obtain ⟨d', hd', hname, hreach⟩ := exists_of_doomed h
    exact Schema.eq_of_name_eq hd' hd hname ▸ hreach
  · rintro ⟨e, hreach, hbad⟩
    refine doomed_of_reaches hreach ?_ hbad
    rcases Relation.ReflTransGen.cases_tail hreach with rfl | ⟨_, _, hstep⟩
    · exact hd
    · exact hstep.2.1

end Generation

end Specimen
