import Specimen.Proofs.Generation.Accounting
import Specimen.Proofs.Generation.Locality

/-!
# Declarations that have nothing to do with each other

If one declaration of a schema is replaced by another, this may change what becomes of the
declarations that refer to it, and of those that refer to them. All others stay as they are
(`isolation`): they get the same samples, up to the numbers of identifiers, or none as before, and the
same is reported on them.

The declarations from which no references lead to the one that is replaced are a part that refers to
nothing outside (`Schema.Away`), the same part in both schemas. So every phase of the one run does to
it what the same phase of the other run does.
-/

namespace Specimen

open Relation (TransGen ReflTransGen)

variable {schema schema' : Schema} {d d' e : Declaration} {P : String → Bool}

namespace Schema

/-! ## Replacing a declaration -/

/-- Two schemas are the same except for one declaration, in the place of which there is another of the
same name. -/
structure Replaced (schema schema' : Schema) (d d' : Declaration) : Prop where
  defaults_eq : schema'.defaults = schema.defaults
  externalTypes_eq : schema'.externalTypes = schema.externalTypes
  exists_types : ∃ before after,
    schema.types = before ++ d :: after ∧ schema'.types = before ++ d' :: after
  name_eq : d'.name = d.name

namespace Replaced

variable (h : schema.Replaced schema' d d')

include h

theorem symm : schema'.Replaced schema d' d := by
  obtain ⟨before, after, htypes, htypes'⟩ := h.exists_types
  exact ⟨h.defaults_eq.symm, h.externalTypes_eq.symm, ⟨before, after, htypes', htypes⟩,
    h.name_eq.symm⟩

theorem mem : d ∈ schema.types := by
  obtain ⟨before, after, htypes, _⟩ := h.exists_types
  rw [htypes]
  exact List.mem_append_right _ List.mem_cons_self

theorem typeNames_eq : schema'.typeNames = schema.typeNames := by
  obtain ⟨before, after, htypes, htypes'⟩ := h.exists_types
  rw [typeNames, typeNames, htypes, htypes', List.map_append, List.map_append, List.map_cons,
    List.map_cons, h.name_eq]

theorem knows_eq : schema'.knows = schema.knows :=
  knows_congr (fun _ => by rw [h.typeNames_eq]) h.externalTypes_eq

theorem prepare_eq (c : Declaration) : schema'.prepare c = schema.prepare c :=
  prepare_congr h.knows_eq (by rw [h.defaults_eq]) c

/-- A part without the declaration that is replaced is the same in both schemas. -/
theorem filter_types_eq (outside : P d.name = false) :
    (schema'.types.filter fun c => P c.name) = schema.types.filter fun c => P c.name := by
  obtain ⟨before, after, htypes, htypes'⟩ := h.exists_types
  have outside' : P d'.name = false := h.name_eq ▸ outside
  simp [htypes, htypes', outside, outside']

/-- Outside the replaced declaration both schemas have the same declarations. -/
theorem mem_types_iff (outside : P d.name = false) {c : Declaration} (hc : P c.name = true) :
    c ∈ schema'.types ↔ c ∈ schema.types := by
  have hmem : ∀ types : List Declaration, c ∈ types ↔ c ∈ types.filter fun c => P c.name :=
    fun types => by simp [hc]
  rw [hmem schema'.types, h.filter_types_eq outside, ← hmem]

end Replaced

/-! ## Parts of a schema -/

/-- What the declarations of a part refer to is in the part. -/
def SelfContained (P : String → Bool) (schema : Schema) : Prop :=
  ∀ c ∈ schema.types, P c.name = true → ∀ shape, c.shape = .ok shape →
    ∀ path ∈ shape.references, P (typeKey path) = true

/-- No references lead from a declaration of a name to another declaration. -/
def Away (schema : Schema) (d : Declaration) (name : String) : Prop :=
  ∀ c ∈ schema.types, c.name = name → ¬ ReflTransGen schema.RefersTo c d

/-- The replaced declaration is not away from itself. -/
theorem not_away_self (hd : d ∈ schema.types) : ¬ schema.Away d d.name :=
  fun h => h d hd rfl .refl

/-- What is referred to from where nothing leads to a declaration is away from it as well. -/
theorem Away.of_reference {c : Declaration} (hc : c ∈ schema.types) (h : schema.Away d c.name)
    {shape : Shape} (hshape : c.shape = .ok shape) {path : String} (hpath : path ∈ shape.references) :
    schema.Away d (typeKey path) := by
  intro other hother hname hreach
  have hstep : schema.RefersTo c other := ⟨hc, hother, shape, hshape, path, hpath, hname.symm⟩
  exact h c hc rfl (.head hstep hreach)

/-- What does not reach the replaced declaration is away from it. -/
theorem away_of_not_reaches (he : e ∈ schema.types) (hne : e ≠ d)
    (unreachable : ¬ TransGen schema.RefersTo e d) : schema.Away d e.name := by
  intro c hc hname hreach
  obtain rfl := eq_of_name_eq hc he hname
  rcases Relation.reflTransGen_iff_eq_or_transGen.mp hreach with heq | hreach
  · exact hne heq.symm
  · exact unreachable hreach

end Schema

namespace Generation

/-! ## Checks -/

/-- The names that fail while checking are those of the declarations that do not pass. -/
theorem mem_checked_failed {n : String} :
    n ∈ (checked schema).failed ↔ ∃ c ∈ schema.types, ¬ schema.Passes c ∧ c.name = n := by
  rw [checked, check_failed, List.mem_map]
  simp [and_assoc]

/-- The declarations of a part that pass refer to nothing outside. -/
theorem selfContained_passed (closed : schema.SelfContained P) :
    SelfContained P (checked schema).passed := by
  intro entry hentry hP path hpath
  obtain ⟨c, hc, _, hready⟩ := exists_ready hentry
  exact closed c hc (hready.name_eq ▸ hP) entry.shape hready.shape_eq path hpath

/-- Reports that say the same about a part are about the same names of it. -/
theorem sameOn_reportNames {report report' : List Diagnostic}
    (same : reportOn P report' = reportOn P report) :
    SameOn P (report.map fun x => x.location.type) (report'.map fun x => x.location.type) := by
  intro n hn
  have hmem : ∀ r : List Diagnostic, n ∈ r.map (fun x => x.location.type) ↔
      n ∈ (reportOn P r).map fun x => x.location.type := by
    intro r
    simp only [List.mem_map, reportOn, List.mem_filter]
    constructor
    · rintro ⟨x, hx, rfl⟩
      exact ⟨x, ⟨hx, hn⟩, rfl⟩
    · rintro ⟨x, ⟨hx, _⟩, rfl⟩
      exact ⟨x, hx, rfl⟩
  rw [hmem report', same, ← hmem]

/-! ## Phases of both runs -/

section Part

variable (h : schema.Replaced schema' d d') (outside : P d.name = false)
  (closed : schema.SelfContained P)

include h outside

theorem within_passed_eq :
    within P (checked schema').passed = within P (checked schema).passed := by
  rw [within_passed, within_passed, h.filter_types_eq outside]
  simp only [h.prepare_eq]

/-- Checking says the same about the names away from the replaced one. -/
theorem reportOn_checked_eq :
    reportOn P (checked schema').report = reportOn P (checked schema).report := by
  rw [reportOn_checked, reportOn_checked, h.filter_types_eq outside]
  simp only [h.prepare_eq]

theorem sameOn_checked : SameOn P (checked schema).failed (checked schema').failed := by
  intro n hn
  rw [mem_checked_failed, mem_checked_failed]
  refine exists_congr fun c => ?_
  simp only [Schema.Passes, h.prepare_eq]
  constructor
  · rintro ⟨hc, hpasses, rfl⟩
    exact ⟨(h.mem_types_iff outside hn).mp hc, hpasses, rfl⟩
  · rintro ⟨hc, hpasses, rfl⟩
    exact ⟨(h.mem_types_iff outside hn).mpr hc, hpasses, rfl⟩

include closed

/-- The part refers to nothing outside in the other schema either. -/
theorem selfContained_replaced : schema'.SelfContained P :=
  fun c hc hP => closed c ((h.mem_types_iff outside hP).mp hc) hP

/-- The search for cycles says the same about the names away from the replaced one. -/
theorem reportOn_cyclic_eq : reportOn P (cyclic schema') = reportOn P (cyclic schema) := by
  have hclosed := selfContained_passed closed
  have hclosed' := selfContained_passed (selfContained_replaced h outside closed)
  rw [cyclic, cyclic, ← Cycle.diagnostics_within hclosed (passed_names_nodup schema),
    ← Cycle.diagnostics_within hclosed' (passed_names_nodup schema'), within_passed_eq h outside]

theorem sameOn_outset : SameOn P (outset schema) (outset schema') := by
  intro n hn
  have hchecked := sameOn_checked h outside n hn
  have hcyclic := sameOn_reportNames (reportOn_cyclic_eq h outside closed) n hn
  rw [outset, outset, List.mem_append, List.mem_append, hchecked, hcyclic]

/-- In both runs, spreading does to the part what it does to it on its own. -/
theorem exists_restricts : ∃ part,
    (spreading schema).Restricts P part ∧ (spreading schema').Restricts P part := by
  obtain ⟨_, _, hsettles⟩ := spreading_settles schema
  obtain ⟨_, _, hsettles'⟩ := spreading_settles schema'
  have hsame := sameOn_outset h outside closed
  have hback : SameOn P (outset schema') (outset schema) := fun n hn => (hsame n hn).symm
  obtain ⟨_, part, hpart, hrestricts⟩ :=
    hsettles.restricted (selfContained_passed closed) fun _ _ => Iff.rfl
  obtain ⟨_, part', hpart', hrestricts'⟩ := hsettles'.restricted
    (selfContained_passed (selfContained_replaced h outside closed)) hback
  rw [within_passed_eq h outside] at hpart'
  obtain rfl := hpart.unique hpart'
  exact ⟨part, hrestricts, hrestricts'⟩

theorem sameOn_spreading : SameOn P (spreading schema).failed (spreading schema').failed := by
  obtain ⟨part, hpart, hpart'⟩ := exists_restricts h outside closed
  intro n hn
  rw [← hpart.failed n hn, ← hpart'.failed n hn]

/-- The spreading of failures says the same about the names away from the replaced one. -/
theorem reportOn_spreading_eq :
    reportOn P (spreading schema').report = reportOn P (spreading schema).report := by
  obtain ⟨part, hpart, hpart'⟩ := exists_restricts h outside closed
  rw [← hpart.report, hpart'.report]

/-- The same entries away from the replaced one are left to be built. -/
theorem within_left_eq :
    within P (spreading schema').left = within P (spreading schema).left := by
  obtain ⟨part, hpart, hpart'⟩ := exists_restricts h outside closed
  rw [← hpart.left, hpart'.left]

/-- To the part, the types that it refers to are in the same state in both runs. -/
theorem status_eq_of_mem_left {entry : Prepared} (hentry : entry ∈ (spreading schema).left)
    (hP : P entry.name = true) {path : String} (hpath : path ∈ entry.shape.references) :
    status schema' (spreading schema').failed path = status schema (spreading schema).failed path := by
  obtain ⟨c, hc, hready, _⟩ := exists_of_mem_left hentry
  have hkey : P (typeKey path) = true :=
    closed c hc (hready.name_eq ▸ hP) entry.shape hready.shape_eq path hpath
  exact status_congr h.knows_eq (sameOn_spreading h outside closed _ hkey)

/-- Both runs build the same for the part, up to the numbers of identifiers. -/
theorem built_eq (targets : Targets) (identifiers : Identifiers) :
    ((built schema' targets identifiers).sets.filter fun set => P set.typeName).map
        SampleSet.unnumbered =
      ((built schema targets identifiers).sets.filter fun set => P set.typeName).map
        SampleSet.unnumbered ∧
    reportOn P (built schema' targets identifiers).report =
      reportOn P (built schema targets identifiers).report :=
  build_eq_within targets exists_ready_of_mem_left exists_ready_of_mem_left
    (within_left_eq h outside closed)
    (fun _ hentry hP => buildSet_agree targets fun _ hpath =>
      status_eq_of_mem_left h outside closed hentry hP hpath) identifiers identifiers

/-- Both runs say the same about the part. -/
theorem reportOn_run_eq (targets : Targets) (identifiers : Identifiers) :
    reportOn P (run schema' targets identifiers).report =
      reportOn P (run schema targets identifiers).report := by
  have hchecked := reportOn_checked_eq h outside
  have hcyclic := reportOn_cyclic_eq h outside closed
  have hspreading := reportOn_spreading_eq h outside closed
  have hbuilt := (built_eq h outside closed targets identifiers).2
  unfold reportOn at hchecked hcyclic hspreading hbuilt ⊢
  rw [run_eq, run_eq]
  simp only [List.filter_append, hchecked, hcyclic, hspreading, hbuilt]

/-- A set of the part that the one run makes is made by the other run. -/
theorem exists_alike (targets : Targets) (identifiers : Identifiers) {set : SampleSet}
    (hset : set ∈ (run schema targets identifiers).sets) (hP : P set.typeName = true) :
    ∃ set' ∈ (run schema' targets identifiers).sets, set.Alike set' := by
  have hmem : set.unnumbered ∈ ((built schema targets identifiers).sets.filter fun set =>
      P set.typeName).map SampleSet.unnumbered :=
    List.mem_map_of_mem (List.mem_filter.mpr ⟨hset, hP⟩)
  rw [← (built_eq h outside closed targets identifiers).1] at hmem
  obtain ⟨set', hset', heq⟩ := List.mem_map.mp hmem
  exact ⟨set', (List.mem_filter.mp hset').1, heq.symm⟩

end Part

/-! ## Declarations that do not refer to the one that is replaced -/

/-- A report on a part still holds all that is said at a name of the part. -/
theorem filter_reportOn {report : List Diagnostic} {name : String} (hP : P name = true) :
    ((reportOn P report).filter fun x => x.location.type == name) =
      report.filter fun x => x.location.type == name := by
  rw [reportOn, List.filter_filter]
  refine List.filter_congr fun x _ => ?_
  by_cases hname : x.location.type = name
  · simp [hname, hP]
  · simp [hname]

/-- A declaration that keeps its samples in another run has sets in both that are alike. -/
theorem Emits.of_part {g g' : Generation} (h : g.Emits e)
    (alike : ∀ set ∈ g.sets, set.typeName = e.name → ∃ set' ∈ g'.sets, set.Alike set') :
    ∃ set ∈ g.sets, ∃ set' ∈ g'.sets,
      set.typeName = e.name ∧ set'.typeName = e.name ∧ set.Alike set' := by
  obtain ⟨set, hset, hname⟩ := h
  obtain ⟨set', hset', halike⟩ := alike set hset hname
  exact ⟨set, hset, set', hset', hname, halike.typeName_eq ▸ hname, halike⟩

/-- If a declaration is replaced, those from which no references lead to it keep their samples, up to
the numbers of identifiers, or still have none, and the same is reported on them. -/
theorem isolation (h : schema.Replaced schema' d d') (he : e ∈ schema.types) (hne : e ≠ d)
    (unreachable : ¬ TransGen schema.RefersTo e d) (targets : Targets) (identifiers : Identifiers) :
    ((∃ set ∈ (run schema targets identifiers).sets,
        ∃ set' ∈ (run schema' targets identifiers).sets,
          set.typeName = e.name ∧ set'.typeName = e.name ∧ set.Alike set') ∧
        e.name ∉ (run schema targets identifiers).failed ∧
        e.name ∉ (run schema' targets identifiers).failed ∨
      ¬ (run schema targets identifiers).Emits e ∧ ¬ (run schema' targets identifiers).Emits e ∧
        e.name ∈ (run schema targets identifiers).failed ∧
        e.name ∈ (run schema' targets identifiers).failed) ∧
    ((run schema' targets identifiers).report.filter fun x => x.location.type == e.name) =
      (run schema targets identifiers).report.filter fun x => x.location.type == e.name := by
  classical
  obtain ⟨P, hP⟩ : ∃ P : String → Bool, ∀ n, P n = true ↔ schema.Away d n :=
    ⟨fun n => decide (schema.Away d n), fun n => decide_eq_true_iff⟩
  have houtside : P d.name = false := by
    rw [← Bool.not_eq_true, hP]
    exact Schema.not_away_self h.mem
  have hclosed : schema.SelfContained P := by
    intro c hc hc' shape hshape path hpath
    exact (hP _).mpr (((hP _).mp hc').of_reference hc hshape hpath)
  have hinside : P e.name = true := (hP _).mpr (Schema.away_of_not_reaches he hne unreachable)
  have he' : e ∈ schema'.types := (h.mem_types_iff houtside hinside).mpr he
  have halike : ∀ set ∈ (run schema targets identifiers).sets, set.typeName = e.name →
      ∃ set' ∈ (run schema' targets identifiers).sets, set.Alike set' :=
    fun set hset hname => exists_alike h houtside hclosed targets identifiers hset (hname ▸ hinside)
  have halike' : ∀ set ∈ (run schema' targets identifiers).sets, set.typeName = e.name →
      ∃ set' ∈ (run schema targets identifiers).sets, set.Alike set' :=
    fun set hset hname => exists_alike h.symm (h.name_eq ▸ houtside)
      (selfContained_replaced h houtside hclosed) targets identifiers hset (hname ▸ hinside)
  refine ⟨?_, ?_⟩
  · by_cases hemits : (run schema targets identifiers).Emits e
    · obtain ⟨set, hset, set', hset', hname, hname', hsame⟩ := hemits.of_part halike
      have hemits' : (run schema' targets identifiers).Emits e := ⟨set', hset', hname'⟩
      refine .inl ⟨⟨set, hset, set', hset', hname, hname', hsame⟩, ?_, ?_⟩
      · rw [mem_failed_iff_not_emits he, not_not]
        exact hemits
      · rw [mem_failed_iff_not_emits he', not_not]
        exact hemits'
    · have hemits' : ¬ (run schema' targets identifiers).Emits e := by
        intro hemits'
        obtain ⟨_, _, set, hset, _, hname, _⟩ := hemits'.of_part halike'
        exact hemits ⟨set, hset, hname⟩
      exact .inr ⟨hemits, hemits', (mem_failed_iff_not_emits he).mpr hemits,
        (mem_failed_iff_not_emits he').mpr hemits'⟩
  · have hreport := reportOn_run_eq h houtside hclosed targets identifiers
    rw [← filter_reportOn hinside, hreport, filter_reportOn hinside]

/-- An order refers to its customer. The stock has nothing to do with either. -/
def stock : Declaration where
  kind := .struct
  name := "Stock"
  members := [{ name := "id", type := "Uuid" }]
  sample := { count := 1, mode := some .fixed }

def order : Declaration where
  kind := .struct
  name := "Order"
  members := [{ name := "customer", type := "Customer" }]
  sample := { count := 1 }

def customer : Declaration where
  kind := .struct
  name := "Customer"
  members := [{ name := "id", type := "Uuid" }]
  sample := { count := 2, mode := some .fixed }

/-- A customer that cannot be sampled, since it refers to its orders. -/
def regular : Declaration := { customer with members := [{ name := "last", type := "Order" }] }

def shop : Schema where
  types := [customer, order, stock]
  distinct := by decide

def shopOfRegulars : Schema where
  types := [regular, order, stock]
  distinct := by decide

/-- In the shop the customers are replaced by regulars, whose type is wrong. The orders fail with them, and
the stock, which does not refer to them, keeps its samples. -/
theorem isolation_stock :
    shop.Replaced shopOfRegulars customer regular ∧
    ¬ TransGen shop.RefersTo stock customer ∧
    (run shop .standard {}).failed = [] ∧
    (run shopOfRegulars .standard {}).failed = ["Customer", "Order"] ∧
    ∃ set ∈ (run shop .standard {}).sets, ∃ set' ∈ (run shopOfRegulars .standard {}).sets,
      set.typeName = "Stock" ∧ set'.typeName = "Stock" ∧ set.Alike set' := by
  have hreplaced : shop.Replaced shopOfRegulars customer regular :=
    ⟨rfl, rfl, ⟨[], [order, stock], rfl, rfl⟩, rfl⟩
  have hunreachable : ¬ TransGen shop.RefersTo stock customer := by
    intro hreach
    obtain ⟨_, ⟨_, _, shape, hshape, path, hpath, _⟩, _⟩ := Relation.TransGen.head'_iff.mp hreach
    have hstock : stock.shape = .ok (.struct "Stock" (.fields false)
        [{ name := some "id", type := .scalar .uuid }]) := by decide +kernel
    obtain rfl := Except.ok.inj (hstock.symm.trans hshape)
    exact absurd hpath List.not_mem_nil
  have hfailed : (run shop .standard {}).failed = [] := by decide +kernel
  have hfailed' : (run shopOfRegulars .standard {}).failed = ["Customer", "Order"] := by
    decide +kernel
  obtain ⟨hsets | ⟨_, _, hnone, _⟩, _⟩ :=
    isolation hreplaced (by decide) (by decide) hunreachable .standard {}
  · exact ⟨hreplaced, hunreachable, hfailed, hfailed', hsets.1⟩
  · rw [hfailed] at hnone
    cases hnone

end Generation

end Specimen
