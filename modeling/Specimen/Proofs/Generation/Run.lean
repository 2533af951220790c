import Specimen.Proofs.Generation.Building
import Specimen.Proofs.Generation.Reference

/-!
# The phases of a run

A run is its four phases, one after the other (`run_eq`): declarations are checked, those that refer
back to themselves are found, failures spread, and the samples of what is left are built. Each phase
reports its own kind of problem, so the phase of a diagnostic tells where it comes from
(`mem_report_iff` and the lemmas `phase_of_mem_*`).

What is left when failures have spread are the declarations that pass their checks, lie on no cycle
and are not blocked (`exists_of_mem_left`, `exists_mem_left`). They refer to nothing that has failed
by then (`status_eq_available`), so building can only fail on names.
-/

namespace Specimen.Generation

open Relation (TransGen ReflTransGen)

variable {schema : Schema} {targets : Targets} {identifiers : Identifiers} {d e : Declaration}
  {entry : Prepared}

/-! ## The phases -/

/-- What the spreading of failures leaves behind. -/
def spreading (schema : Schema) : Spread :=
  spread ((checked schema).passed.length + 1) (outset schema) (checked schema).passed

/-- What is built of the declarations that are left. -/
def built (schema : Schema) (targets : Targets) (identifiers : Identifiers) : Generation :=
  build schema targets (spreading schema).failed (spreading schema).left identifiers

/-- A run is its phases. -/
theorem run_eq (schema : Schema) (targets : Targets) (identifiers : Identifiers) :
    run schema targets identifiers =
      { sets := (built schema targets identifiers).sets
        failed := (checked schema).failed ++ (spreading schema).dropped ++
          (built schema targets identifiers).failed
        report := (checked schema).report ++ cyclic schema ++ (spreading schema).report ++
          (built schema targets identifiers).report
        identifiers := (built schema targets identifiers).identifiers } := rfl

/-- The rounds that a run gives to the spreading of failures are enough: it comes to rest by itself. -/
theorem spreading_settles (schema : Schema) :
    ∃ n ≤ (checked schema).passed.length + 1,
      Settles (outset schema) (checked schema).passed n (spreading schema) := by
  obtain ⟨n, hn, s, hs⟩ := exists_settles (outset schema) (checked schema).passed
  have heq : spreading schema = s := hs.spread_eq hn
  exact ⟨n, hn, heq ▸ hs⟩

/-- Failures spread to what refers to them, and to nothing else. -/
theorem spreading_sound (schema : Schema) :
    (spreading schema).Sound (outset schema) (checked schema).passed := by
  obtain ⟨_, _, hs⟩ := spreading_settles schema
  exact hs.sound

/-- As many passages as there are declarations suffice for failures to stop spreading. -/
theorem spreading_stable (schema : Schema) : (spreading schema).Stable := by
  obtain ⟨_, _, hs⟩ := spreading_settles schema
  exact hs.stable

/-- What has failed before the samples are built: what fails by itself and what is blocked. -/
theorem mem_spreading_failed_iff (hd : d ∈ schema.types) :
    d.name ∈ (spreading schema).failed ↔ schema.Bad d ∨ schema.Blocked d := by
  rw [Spread.mem_failed_iff (spreading_sound schema) (spreading_stable schema)
    (passed_names_nodup schema), doomed_iff hd]

/-- What is left is ready, and what is left of a schema has not failed. -/
theorem mem_left_iff :
    entry ∈ (spreading schema).left ↔
      entry ∈ (checked schema).passed ∧ entry.name ∉ (spreading schema).failed :=
  Spread.mem_left_iff (spreading_sound schema) (spreading_stable schema) (passed_names_nodup schema)

/-- The declarations that are left come from the schema, pass their checks, lie on no cycle and are
not blocked. -/
theorem exists_of_mem_left (h : entry ∈ (spreading schema).left) :
    ∃ d ∈ schema.types, schema.Ready d entry ∧
      schema.Passes d ∧ ¬ schema.OnCycle d ∧ ¬ schema.Blocked d := by
  obtain ⟨hpassed, hname⟩ := mem_left_iff.mp h
  obtain ⟨d, hd, hpasses, hready⟩ := exists_ready hpassed
  rw [hready.name_eq, mem_spreading_failed_iff hd, not_or, Schema.Bad, not_or, not_not] at hname
  exact ⟨d, hd, hready, hpasses, hname.1.2, hname.2⟩

/-- What is left to be built has passed its own checks. -/
theorem exists_ready_of_mem_left :
    ∀ entry ∈ (spreading schema).left, ∃ d, schema.Ready d entry := by
  intro entry h
  obtain ⟨d, _, hready, _⟩ := exists_of_mem_left h
  exact ⟨d, hready⟩

/-- What is left to be built passes, lies on no cycle and leads to no failure. -/
theorem survives_of_mem_left (h : entry ∈ (spreading schema).left) (ready : schema.Ready d entry) :
    schema.Passes d ∧ ¬ schema.OnCycle d ∧ ¬ schema.Blocked d := by
  obtain ⟨_, _, hready, hsurvives⟩ := exists_of_mem_left h
  obtain rfl := hready.declaration_eq.symm.trans ready.declaration_eq
  exact hsurvives

/-- A declaration that passes its checks, lies on no cycle and is not blocked is left. -/
theorem exists_mem_left (hd : d ∈ schema.types) (hpasses : schema.Passes d)
    (hcycle : ¬ schema.OnCycle d) (hblocked : ¬ schema.Blocked d) :
    ∃ entry ∈ (spreading schema).left, schema.Ready d entry := by
  obtain ⟨entry, hentry, hready⟩ := exists_entry hd hpasses
  refine ⟨entry, mem_left_iff.mpr ⟨hentry, ?_⟩, hready⟩
  rw [hready.name_eq, mem_spreading_failed_iff hd]
  rintro ((hbad | hbad) | hbad)
  · exact hbad hpasses
  · exact hcycle hbad
  · exact hblocked hbad

/-- What is left refers to types with samples only. -/
theorem status_eq_available (h : entry ∈ (spreading schema).left) {path : String}
    (hpath : path ∈ entry.shape.references) :
    status schema (spreading schema).failed path = .available := by
  obtain ⟨d, _, hready, _⟩ := exists_of_mem_left h
  have hnot : ¬ (spreading schema).failed.contains (typeKey path) = true := fun hc =>
    (spreading_stable schema entry h).2 path hpath (List.contains_iff_mem.mp hc)
  rw [status, if_neg hnot, if_pos (hready.known path hpath)]

/-- Building what is left leads to a sample set or an error for each declaration. -/
theorem built_built (schema : Schema) (targets : Targets) (identifiers : Identifiers) :
    Built schema targets (spreading schema).failed (spreading schema).left
      (built schema targets identifiers).sets (built schema targets identifiers).failed
      (built schema targets identifiers).report :=
  build_built targets _ exists_ready_of_mem_left identifiers

/-- A declaration fails before its samples are built, or when they are. -/
theorem mem_failed_iff (hd : d ∈ schema.types) :
    d.name ∈ (run schema targets identifiers).failed ↔
      d.name ∈ (spreading schema).failed ∨ d.name ∈ (built schema targets identifiers).failed := by
  have hsound := spreading_sound schema
  rw [run_eq, List.mem_append]
  refine or_congr_left ?_
  rw [List.mem_append]
  constructor
  · rintro (h | h)
    · exact hsound.failed_subset (List.mem_append_left _ h)
    · exact hsound.dropped_failed _ h
  · intro h
    by_cases hpasses : schema.Passes d
    · obtain ⟨entry, hentry, hready⟩ := exists_entry hd hpasses
      rw [← hready.name_eq] at h ⊢
      exact .inr ((Spread.mem_dropped_iff hsound (spreading_stable schema) hentry).mpr h)
    · exact .inl ((mem_checked_failed_iff hd).mpr hpasses)

/-! ## The report -/

/-- The problems of the checks are about a declaration of the schema. -/
theorem mem_checked_report_iff {x : Diagnostic} :
    x ∈ (checked schema).report ↔ ∃ d ∈ schema.types, x ∈ (schema.prepare d).1 := by
  rw [checked, check_report, List.mem_flatMap]

/-- What checking reports belongs to its phase. -/
theorem phase_of_mem_checked {x : Diagnostic} (h : x ∈ (checked schema).report) :
    x.phase = .checking := by
  obtain ⟨d, _, hx⟩ := mem_checked_report_iff.mp h
  exact (Schema.own_of_mem_prepare hx).2

theorem phase_of_mem_cyclic {x : Diagnostic} (h : x ∈ cyclic schema) : x.phase = .cycles := by
  obtain ⟨d, _, _, way, _, rfl⟩ := mem_cyclic_iff.mp h
  rfl

theorem phase_of_mem_spreading {x : Diagnostic} (h : x ∈ (spreading schema).report) :
    x.phase = .spreading := by
  obtain ⟨_, _, _, _, _, rfl⟩ := (spreading_sound schema).reported x h
  rfl

theorem phase_of_mem_built {x : Diagnostic} (h : x ∈ (built schema targets identifiers).report) :
    x.phase = .building := by
  obtain ⟨entry, hentry, fault, hblames, rfl⟩ :=
    (built_built schema targets identifiers).exists_of_mem_report h
  exact Prepared.phase_of_blames (fun _ hpath => status_eq_available hentry hpath) hblames

/-- A run reports what its four phases report. -/
theorem mem_report_iff {x : Diagnostic} :
    x ∈ (run schema targets identifiers).report ↔ x ∈ (checked schema).report ∨ x ∈ cyclic schema ∨
      x ∈ (spreading schema).report ∨ x ∈ (built schema targets identifiers).report := by
  rw [run_eq, List.mem_append, List.mem_append, List.mem_append, or_assoc, or_assoc]

/-- The part of a report that belongs to the spreading of failures. -/
theorem filter_spreading (schema : Schema) (targets : Targets) (identifiers : Identifiers) :
    ((run schema targets identifiers).report.filter fun x => x.phase == .spreading) =
      (spreading schema).report := by
  have hother : ∀ {phase : Phase} {report : List Diagnostic}, phase ≠ .spreading →
      (∀ x ∈ report, x.phase = phase) → (report.filter fun x => x.phase == .spreading) = [] := by
    intro phase report hne h
    rw [List.filter_eq_nil_iff]
    intro x hx
    simpa [h x hx] using hne
  rw [run_eq, List.filter_append, List.filter_append, List.filter_append,
    hother (by decide) fun _ => phase_of_mem_checked, hother (by decide) fun _ => phase_of_mem_cyclic,
    hother (by decide) fun _ => phase_of_mem_built, List.filter_eq_self.mpr]
  · simp
  · intro x hx
    simp [phase_of_mem_spreading hx]

/-! ## Sample sets -/

/-- A run has made the sample set of a declaration. -/
def Emits (g : Generation) (d : Declaration) : Prop := ∃ set ∈ g.sets, set.typeName = d.name

/-- The sample set of a run is that of a declaration that is left. -/
theorem exists_of_mem_sets {set : SampleSet} (h : set ∈ (run schema targets identifiers).sets) :
    ∃ entry ∈ (spreading schema).left,
      entry.Constructible (surroundings schema targets (spreading schema).failed entry) ∧
      entry.Makes set :=
  (built_built schema targets identifiers).exists_of_mem_sets h

/-- The sample set of a run has been made of a declaration that is left. -/
theorem exists_run_of_mem_run {set : SampleSet} (h : set ∈ (run schema targets identifiers).sets) :
    ∃ d ∈ schema.types, ∃ entry ∈ (spreading schema).left, schema.Ready d entry ∧
      set.typeName = d.name ∧ ∃ before,
        ((buildSet schema targets (spreading schema).failed entry).run before).1 = .ok set := by
  obtain ⟨entry, hentry, before, hrun⟩ := exists_run_of_mem_sets h
  obtain ⟨d, hd, hready, _⟩ := exists_of_mem_left hentry
  have hmakes := ((buildSet_meets targets _ hready).of_ok (Prod.ext hrun rfl)).2
  exact ⟨d, hd, entry, hentry, hready, hmakes.typeName_eq.trans hready.name_eq, before, hrun⟩

/-- A declaration with a sample set is left, and its samples can be made. -/
theorem Emits.exists_left (h : (run schema targets identifiers).Emits d) (hd : d ∈ schema.types) :
    ∃ entry ∈ (spreading schema).left, schema.Ready d entry ∧
      entry.Constructible (surroundings schema targets (spreading schema).failed entry) := by
  obtain ⟨set, hset, hname⟩ := h
  obtain ⟨entry, hentry, hconstructible, hmakes⟩ := exists_of_mem_sets hset
  obtain ⟨d', hd', hready, _⟩ := exists_of_mem_left hentry
  have hnames : d'.name = d.name := by rw [← hready.name_eq, ← hmakes.typeName_eq, hname]
  obtain rfl := Schema.eq_of_name_eq hd' hd hnames
  exact ⟨entry, hentry, hready, hconstructible⟩

/-- A declaration with a sample set passes its checks, lies on no cycle and is not blocked. -/
theorem Emits.survives (h : (run schema targets identifiers).Emits d) (hd : d ∈ schema.types) :
    schema.Passes d ∧ ¬ schema.OnCycle d ∧ ¬ schema.Blocked d := by
  obtain ⟨entry, hentry, hready, _⟩ := h.exists_left hd
  exact survives_of_mem_left hentry hready

/-- A sample set has as many samples as its declaration asks for, and it asks for some. -/
theorem length_samples {set : SampleSet} (h : set ∈ (run schema targets identifiers).sets) :
    ∃ d ∈ schema.types, set.typeName = d.name ∧ 0 < d.sample.count ∧
      (set.samples.length : Int) = d.sample.count := by
  obtain ⟨entry, hentry, _, hmakes⟩ := exists_of_mem_sets h
  obtain ⟨d, hd, hready, _⟩ := exists_of_mem_left hentry
  refine ⟨d, hd, hmakes.typeName_eq.trans hready.name_eq, hready.count_pos, ?_⟩
  rw [← hmakes.samples.length_eq, hready.length_recipes]
  exact Int.toNat_of_nonneg (Int.le_of_lt hready.count_pos)

end Specimen.Generation
