import Specimen.Proofs.Generation.Checking
import Specimen.Proofs.SampleSet

/-!
# What is built of declarations

The last phase makes the samples of the declarations that are left, one after the other. Each either
gets its sample set or goes to those without samples, with one error reported at it. Which of the two
it is does not depend on the declarations before it (`Built`, `build_built`).

Nothing but names can be wrong at this time, as long as the references are to types with samples
(`phase_of_blames`).
-/

namespace Specimen

namespace Prepared

variable {entry : Prepared}

/-- The recipes of the samples that a declaration asks for. -/
def recipes (entry : Prepared) : List Recipe :=
  entry.shape.recipes entry.declaration.sample.count.toNat

/-- The samples of a declaration can be made. -/
def Constructible (surroundings : Surroundings) (entry : Prepared) : Prop :=
  (∀ r ∈ entry.recipes, r.Possible surroundings) ∧ Pathlike entry.name

/-- A fault comes from a recipe of a declaration or from its name. -/
def Blames (surroundings : Surroundings) (entry : Prepared) (fault : Fault) : Prop :=
  (∃ r ∈ entry.recipes, r.Blames surroundings fault) ∨ readPath entry.name = .error fault

/-- A sample set is that of a declaration: one sample for each recipe. -/
structure Makes (entry : Prepared) (set : SampleSet) : Prop where
  typeName_eq : set.typeName = entry.name
  typePath_eq : readPath entry.name = .ok set.typePath
  samples : List.Forall₂ Recipe.Makes entry.recipes set.samples

end Prepared

/-! ## Names that are none -/

theorem phase_of_readName {text : String} {fault : Fault} (h : readName text = .error fault) :
    fault.phase = .building := by
  unfold readName at h
  split at h
  · cases h
  · cases h
    rfl

theorem phase_of_readPath {text : String} {fault : Fault} (h : readPath text = .error fault) :
    fault.phase = .building := by
  unfold readPath at h
  split at h
  · cases h
  · cases h
    rfl

/-- If all references are to types with samples, a recipe can only be at fault for a name. -/
theorem Recipe.phase_of_blames {surroundings : Surroundings} {r : Recipe} {fault : Fault}
    (available : ∀ path ∈ r.references, surroundings.status path = .available)
    (h : r.Blames surroundings fault) : fault.phase = .building := by
  rcases h with ⟨name, _, hname⟩ | ⟨path, hpath, hfault⟩
  · exact phase_of_readName hname
  · unfold referenceExpr at hfault
    rw [available path hpath] at hfault
    exact phase_of_readPath (map_eq_error_iff.mp hfault)

/-- With all references available, what building blames is a fault of building. -/
theorem Prepared.phase_of_blames {surroundings : Surroundings} {entry : Prepared} {fault : Fault}
    (available : ∀ path ∈ entry.shape.references, surroundings.status path = .available)
    (h : entry.Blames surroundings fault) : fault.phase = .building := by
  rcases h with ⟨r, hr, hfault⟩ | hfault
  · refine Recipe.phase_of_blames (fun path hpath => available path ?_) hfault
    exact Shape.mem_references_of_recipe hr hpath
  · exact phase_of_readPath hfault

namespace Schema.Ready

variable {schema : Schema} {d : Declaration} {entry : Prepared}

theorem name_eq (h : schema.Ready d entry) : entry.name = d.name := congrArg _ h.declaration_eq

theorem shape_name (h : schema.Ready d entry) : entry.shape.name = entry.name :=
  (Declaration.shaped_of_shape h.shape_eq).name_eq.trans h.name_eq.symm

/-- There is a recipe for each sample that is asked for. -/
theorem length_recipes (h : schema.Ready d entry) :
    entry.recipes.length = d.sample.count.toNat := by
  rw [Prepared.recipes, h.declaration_eq]
  exact Shape.length_recipes (Declaration.shaped_of_shape h.shape_eq).cases_ne_nil _

end Schema.Ready

namespace Generation

open Synthesis

variable {schema : Schema} {targets : Targets} {failed : List String}

/-- The state of a type depends on what the schema knows and on whether the type has failed. -/
theorem status_congr {schema' : Schema} {failed' : List String}
    (knows_eq : schema'.knows = schema.knows) {path : String}
    (same : typeKey path ∈ failed' ↔ typeKey path ∈ failed) :
    status schema' failed' path = status schema failed path := by
  unfold status
  simp only [List.contains_iff_mem, same, knows_eq]

/-- What the samples of a declaration are made with, once failures have spread. -/
def surroundings (schema : Schema) (targets : Targets) (failed : List String) (entry : Prepared) :
    Surroundings :=
  ⟨entry.mode, targets, status schema failed⟩

/-- The sample set of a declaration that has passed its checks. -/
theorem buildSet_meets (targets : Targets) (failed : List String) {d : Declaration}
    {entry : Prepared} (ready : schema.Ready d entry) :
    (buildSet schema targets failed entry).Meets
      (entry.Constructible (surroundings schema targets failed entry)) entry.Makes
      (entry.Blames (surroundings schema targets failed entry)) := by
  have hcount : 0 < entry.declaration.sample.count := ready.declaration_eq ▸ ready.count_pos
  have hshaped := Declaration.shaped_of_shape ready.shape_eq
  have hname := ready.shape_name
  refine (SampleSet.build_meets entry.shape hcount hshaped.cases_ne_nil).mono ?_ ?_ ?_
  · rw [hname]
    rfl
  · rintro set ⟨htype, hpath, hsamples⟩
    exact ⟨htype.trans hname, hname ▸ hpath, hsamples⟩
  · rw [hname]
    exact fun _ => id

/-- What building leads to, from one declaration to the next: the sample sets, the names of the
declarations without one, and the report. -/
inductive Built (schema : Schema) (targets : Targets) (failed : List String) :
    List Prepared → List SampleSet → List String → List Diagnostic → Prop
  | nil : Built schema targets failed [] [] [] []
  | made {entry : Prepared} {set : SampleSet} {entries : List Prepared} {sets : List SampleSet}
      {missed : List String} {report : List Diagnostic}
      (constructible : entry.Constructible (surroundings schema targets failed entry))
      (makes : entry.Makes set) (rest : Built schema targets failed entries sets missed report) :
      Built schema targets failed (entry :: entries) (set :: sets) missed report
  | missed {entry : Prepared} {fault : Fault} {entries : List Prepared} {sets : List SampleSet}
      {missed : List String} {report : List Diagnostic}
      (not_constructible : ¬ entry.Constructible (surroundings schema targets failed entry))
      (blames : entry.Blames (surroundings schema targets failed entry) fault)
      (rest : Built schema targets failed entries sets missed report) :
      Built schema targets failed (entry :: entries) sets (entry.name :: missed)
        (.ofFault fault ⟨entry.name, none⟩ :: report)

/-- Building leads to a sample set or an error for each declaration that has passed its checks. -/
theorem build_built (targets : Targets) (failed : List String) {entries : List Prepared}
    (ready : ∀ entry ∈ entries, ∃ d, schema.Ready d entry) (identifiers : Identifiers) :
    Built schema targets failed entries (build schema targets failed entries identifiers).sets
      (build schema targets failed entries identifiers).failed
      (build schema targets failed entries identifiers).report := by
  induction entries generalizing identifiers with
  | nil => exact .nil
  | cons entry entries ih =>
    obtain ⟨⟨d, hd⟩, hrest⟩ := List.forall_mem_cons.mp ready
    have hmeets := buildSet_meets targets failed hd
    unfold build
    split
    · rename_i set after hrun
      obtain ⟨hconstructible, hmakes⟩ := hmeets.of_ok hrun
      exact .made hconstructible hmakes (ih hrest after)
    · rename_i fault after hrun
      obtain ⟨hnot, hblames⟩ := hmeets.of_error hrun
      exact .missed hnot hblames (ih hrest after)

/-- Every sample set has been made of a declaration, with the counter as it stood then. -/
theorem exists_run_of_mem_sets {entries : List Prepared} {identifiers : Identifiers}
    {set : SampleSet} (h : set ∈ (build schema targets failed entries identifiers).sets) :
    ∃ entry ∈ entries, ∃ before, ((buildSet schema targets failed entry).run before).1 = .ok set := by
  induction entries generalizing identifiers with
  | nil => exact absurd h List.not_mem_nil
  | cons entry entries ih =>
    unfold build at h
    split at h
    · rename_i made after hrun
      rcases List.mem_cons.mp h with rfl | h
      · exact ⟨entry, List.mem_cons_self, identifiers, congrArg Prod.fst hrun⟩
      · obtain ⟨other, hother, rest⟩ := ih h
        exact ⟨other, List.mem_cons_of_mem _ hother, rest⟩
    · obtain ⟨other, hother, rest⟩ := ih h
      exact ⟨other, List.mem_cons_of_mem _ hother, rest⟩

namespace Built

variable {entries : List Prepared} {sets : List SampleSet} {missed : List String}
  {report : List Diagnostic}

/-- The sample sets keep the order of the declarations. -/
theorem sets_sublist (h : Built schema targets failed entries sets missed report) :
    (sets.map SampleSet.typeName).Sublist (entries.map Prepared.name) := by
  induction h with
  | nil => exact .slnil
  | made _ makes _ ih =>
    rw [List.map_cons, List.map_cons, makes.typeName_eq]
    exact ih.cons_cons _
  | missed _ _ _ ih => exact ih.cons _

/-- Every declaration has a sample set or is among those without. -/
theorem accounted (h : Built schema targets failed entries sets missed report) :
    (sets.map SampleSet.typeName ++ missed).Perm (entries.map Prepared.name) := by
  induction h with
  | nil => exact .nil
  | made _ makes _ ih =>
    rw [List.map_cons, List.map_cons, makes.typeName_eq]
    exact ih.cons _
  | missed _ _ _ ih => exact List.perm_middle.trans (ih.cons _)

/-- For each declaration without a sample set there is one error, at the declaration. -/
theorem missed_eq (h : Built schema targets failed entries sets missed report) :
    missed = report.map fun d => d.location.type := by
  induction h with
  | nil => rfl
  | made _ _ _ ih => exact ih
  | missed _ _ _ ih => rw [List.map_cons, ih, Diagnostic.location_ofFault]

/-- Every sample set is that of a declaration whose samples can be made. -/
theorem exists_of_mem_sets (h : Built schema targets failed entries sets missed report)
    {set : SampleSet} (hset : set ∈ sets) : ∃ entry ∈ entries,
      entry.Constructible (surroundings schema targets failed entry) ∧ entry.Makes set := by
  induction h with
  | nil => exact absurd hset List.not_mem_nil
  | @made entry _ _ _ _ _ constructible makes _ ih =>
    rcases List.mem_cons.mp hset with rfl | hset
    · exact ⟨entry, List.mem_cons_self, constructible, makes⟩
    · obtain ⟨other, hother, rest⟩ := ih hset
      exact ⟨other, List.mem_cons_of_mem _ hother, rest⟩
  | missed _ _ _ ih =>
    obtain ⟨other, hother, rest⟩ := ih hset
    exact ⟨other, List.mem_cons_of_mem _ hother, rest⟩

/-- A declaration whose samples can be made gets its sample set. -/
theorem exists_set (h : Built schema targets failed entries sets missed report) {entry : Prepared}
    (hentry : entry ∈ entries)
    (constructible : entry.Constructible (surroundings schema targets failed entry)) :
    ∃ set ∈ sets, entry.Makes set := by
  induction h with
  | nil => exact absurd hentry List.not_mem_nil
  | made _ makes _ ih =>
    rcases List.mem_cons.mp hentry with rfl | hentry
    · exact ⟨_, List.mem_cons_self, makes⟩
    · obtain ⟨set, hset, rest⟩ := ih hentry
      exact ⟨set, List.mem_cons_of_mem _ hset, rest⟩
  | missed not_constructible _ _ ih =>
    rcases List.mem_cons.mp hentry with rfl | hentry
    · exact absurd constructible not_constructible
    · exact ih hentry

/-- Every error is one that a declaration is to blame for. -/
theorem exists_of_mem_report (h : Built schema targets failed entries sets missed report)
    {x : Diagnostic} (hx : x ∈ report) : ∃ entry ∈ entries, ∃ fault,
      entry.Blames (surroundings schema targets failed entry) fault ∧
      x = .ofFault fault ⟨entry.name, none⟩ := by
  induction h with
  | nil => exact absurd hx List.not_mem_nil
  | made _ _ _ ih =>
    obtain ⟨other, hother, rest⟩ := ih hx
    exact ⟨other, List.mem_cons_of_mem _ hother, rest⟩
  | @missed entry fault _ _ _ _ _ blames _ ih =>
    rcases List.mem_cons.mp hx with rfl | hx
    · exact ⟨entry, List.mem_cons_self, fault, blames, rfl⟩
    · obtain ⟨other, hother, rest⟩ := ih hx
      exact ⟨other, List.mem_cons_of_mem _ hother, rest⟩

end Built

end Generation

end Specimen
