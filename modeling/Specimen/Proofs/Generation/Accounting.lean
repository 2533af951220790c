import Specimen.Proofs.Generation.Run

/-!
# What becomes of each declaration

Declarations drop out in four places: when they are checked, when cycles are found, when failures
spread, and when samples are built. Each phase splits the declarations that it gets, and what it takes
out it puts among those without samples; so the splits add up to that of the whole run. Where a
declaration is taken out, an error is reported at it, and nowhere else.

Main statement: `accounting`.
-/

namespace Specimen.Generation

variable {schema : Schema} {targets : Targets} {identifiers : Identifiers} {d : Declaration}

/-- The checks split the declarations of a schema. -/
theorem checked_accounted (schema : Schema) :
    ((checked schema).passed.map Prepared.name ++ (checked schema).failed).Perm schema.typeNames := by
  unfold checked Schema.typeNames
  induction schema.types with
  | nil => exact .nil
  | cons d ds ih =>
    unfold check
    split
    · rename_i report entry hprepare
      have hentry : (schema.prepare d).2 = some entry := by rw [hprepare]
      have hname : entry.name = d.name := (Schema.ready_of_prepare hentry).name_eq
      simp only [List.map_cons, List.cons_append, hname]
      exact ih.cons _
    · exact List.perm_middle.trans (ih.cons _)

/-- A run splits the declarations of a schema. -/
theorem run_accounted (schema : Schema) (targets : Targets) (identifiers : Identifiers) :
    ((run schema targets identifiers).sets.map SampleSet.typeName ++
      (run schema targets identifiers).failed).Perm schema.typeNames := by
  have hbuilt := (built_built schema targets identifiers).accounted
  have hspread := (spreading_sound schema).accounted
  rw [run_eq]
  generalize (built schema targets identifiers).sets.map SampleSet.typeName = sets at hbuilt ⊢
  generalize (built schema targets identifiers).failed = missed at hbuilt ⊢
  generalize (spreading schema).dropped = dropped at hspread ⊢
  -- what each phase takes out is put back, the last phase first
  calc (sets ++ ((checked schema).failed ++ dropped ++ missed)).Perm
        (sets ++ (missed ++ (dropped ++ (checked schema).failed))) :=
        (List.perm_append_comm.trans (List.perm_append_comm.append_left _)).append_left _
    _ = (sets ++ missed) ++ (dropped ++ (checked schema).failed) := (List.append_assoc _ _ _).symm
    List.Perm _ ((spreading schema).left.map Prepared.name ++
        (dropped ++ (checked schema).failed)) := hbuilt.append_right _
    _ = ((spreading schema).left.map Prepared.name ++ dropped) ++ (checked schema).failed :=
        (List.append_assoc _ _ _).symm
    List.Perm _ ((checked schema).passed.map Prepared.name ++ (checked schema).failed) :=
        hspread.append_right _
    List.Perm _ schema.typeNames := checked_accounted schema

/-- A declaration of a schema is among those without samples if and only if it has no sample set. -/
theorem mem_failed_iff_not_emits (hd : d ∈ schema.types) :
    d.name ∈ (run schema targets identifiers).failed ↔ ¬ (run schema targets identifiers).Emits d := by
  have hperm := run_accounted schema targets identifiers
  have hnames : d.name ∈ (run schema targets identifiers).sets.map SampleSet.typeName ↔
      (run schema targets identifiers).Emits d := List.mem_map
  rw [← hnames]
  constructor
  · intro hfailed hset
    exact List.disjoint_of_nodup_append (hperm.nodup_iff.mpr schema.distinct) hset hfailed
  · intro hnot
    have hmem := hperm.mem_iff.mpr (List.mem_map_of_mem hd)
    exact (List.mem_append.mp hmem).resolve_left hnot

/-- The sample sets keep the order of the schema. -/
theorem run_sets_sublist (schema : Schema) (targets : Targets) (identifiers : Identifiers) :
    ((run schema targets identifiers).sets.map SampleSet.typeName).Sublist schema.typeNames := by
  have hbuilt := (built_built schema targets identifiers).sets_sublist
  have hleft := (spreading_sound schema).left_sublist.map Prepared.name
  exact (hbuilt.trans hleft).trans (passed_names_sublist schema)

/-- Where a declaration is taken out, an error is reported at it. -/
theorem exists_error_of_mem_failed (hd : d ∈ schema.types)
    (h : d.name ∈ (run schema targets identifiers).failed) :
    ∃ x ∈ (run schema targets identifiers).report, x.isError = true ∧ x.location.type = d.name := by
  simp only [mem_report_iff]
  rw [mem_failed_iff hd, (spreading_sound schema).failed_eq, List.mem_append, List.mem_reverse,
    outset, List.mem_append, mem_checked_failed_iff hd, Schema.not_passes_iff] at h
  rcases h with (h | ⟨x, hx, herror⟩ | h) | h
  · obtain ⟨x, hx, hname⟩ := List.mem_map.mp h
    obtain ⟨_, _, _, _, _, rfl⟩ := (spreading_sound schema).reported x hx
    exact ⟨_, .inr (.inr (.inl hx)), rfl, hname⟩
  · refine ⟨x, .inl (mem_checked_report_iff.mpr ⟨d, hd, hx⟩), herror, ?_⟩
    exact (Schema.own_of_mem_prepare hx).1
  · obtain ⟨x, hx, hname⟩ := List.mem_map.mp h
    obtain ⟨_, _, _, _, _, rfl⟩ := mem_cyclic_iff.mp hx
    exact ⟨_, .inr (.inl hx), rfl, hname⟩
  · rw [(built_built schema targets identifiers).missed_eq] at h
    obtain ⟨x, hx, hname⟩ := List.mem_map.mp h
    obtain ⟨_, _, _, _, rfl⟩ := (built_built schema targets identifiers).exists_of_mem_report hx
    exact ⟨_, .inr (.inr (.inr hx)), rfl, hname⟩

/-- Where an error is reported at a declaration, it is taken out. -/
theorem mem_failed_of_error (hd : d ∈ schema.types) {x : Diagnostic}
    (hx : x ∈ (run schema targets identifiers).report) (herror : x.isError = true)
    (hname : x.location.type = d.name) : d.name ∈ (run schema targets identifiers).failed := by
  have hsound := spreading_sound schema
  rw [mem_failed_iff hd, hsound.failed_eq, List.mem_append, List.mem_reverse, outset,
    List.mem_append, mem_checked_failed_iff hd, Schema.not_passes_iff,
    (built_built schema targets identifiers).missed_eq]
  rcases mem_report_iff.mp hx with hx | hx | hx | hx
  · obtain ⟨d', hd', hx⟩ := mem_checked_report_iff.mp hx
    obtain rfl := Schema.eq_of_name_eq hd' hd ((Schema.own_of_mem_prepare hx).1.symm.trans hname)
    exact .inl (.inr (.inl ⟨x, hx, herror⟩))
  · exact .inl (.inr (.inr (hname ▸ List.mem_map_of_mem hx)))
  · exact .inl (.inl (hname ▸ List.mem_map_of_mem hx))
  · exact .inr (hname ▸ List.mem_map_of_mem hx)

/-- Nothing is reported but at declarations of the schema. -/
theorem exists_of_mem_report {x : Diagnostic}
    (hx : x ∈ (run schema targets identifiers).report) :
    ∃ d ∈ schema.types, x.location.type = d.name := by
  rcases mem_report_iff.mp hx with hx | hx | hx | hx
  · obtain ⟨d, hd, hx⟩ := mem_checked_report_iff.mp hx
    exact ⟨d, hd, (Schema.own_of_mem_prepare hx).1⟩
  · obtain ⟨d, hd, _, _, _, rfl⟩ := mem_cyclic_iff.mp hx
    exact ⟨d, hd, rfl⟩
  · obtain ⟨entry, hentry, _, _, _, rfl⟩ := (spreading_sound schema).reported x hx
    obtain ⟨d, hd, _, hready⟩ := exists_ready hentry
    exact ⟨d, hd, hready.name_eq⟩
  · obtain ⟨entry, hentry, _, _, rfl⟩ :=
      (built_built schema targets identifiers).exists_of_mem_report hx
    obtain ⟨d, hd, hready, _⟩ := exists_of_mem_left hentry
    exact ⟨d, hd, hready.name_eq⟩

/-- Every declaration of a schema is accounted for once, by its sample set or among those without; the
sample sets come in the order of the schema, with as many samples as are asked for; and the
declarations without are those at which an error is reported. -/
theorem accounting (schema : Schema) (targets : Targets) (identifiers : Identifiers) :
    (∀ name ∈ schema.typeNames, ((run schema targets identifiers).sets.map SampleSet.typeName ++
      (run schema targets identifiers).failed).count name = 1) ∧
    ((run schema targets identifiers).sets.map SampleSet.typeName ++
      (run schema targets identifiers).failed).Perm schema.typeNames ∧
    ((run schema targets identifiers).sets.map SampleSet.typeName).Sublist schema.typeNames ∧
    (∀ set ∈ (run schema targets identifiers).sets, ∃ d ∈ schema.types, set.typeName = d.name ∧
      0 < d.sample.count ∧ (set.samples.length : Int) = d.sample.count) ∧
    ∀ d ∈ schema.types, d.name ∈ (run schema targets identifiers).failed ↔
      ∃ x ∈ (run schema targets identifiers).report,
        x.isError = true ∧ x.location.type = d.name := by
  have hperm := run_accounted schema targets identifiers
  refine ⟨fun name hname => ?_, hperm, run_sets_sublist schema targets identifiers,
    fun set => length_samples, fun d hd => ⟨exists_error_of_mem_failed hd, ?_⟩⟩
  · rw [hperm.count_eq]
    exact List.count_eq_one_of_mem schema.distinct hname
  · rintro ⟨x, hx, herror, hname⟩
    exact mem_failed_of_error hd hx herror hname

end Specimen.Generation
