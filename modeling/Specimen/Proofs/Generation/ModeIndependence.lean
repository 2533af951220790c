import Specimen.Proofs.Generation.Matching
import Specimen.Proofs.SampleSet.Construction

/-!
# What the mode does not decide

The mode decides how values are written, and whether a category is reported to have no effect. It does
not decide which declarations have samples: whether a value can be made depends on its references
alone (`Synthesis.synthesize_agree_of_status`), and the checks find the same errors in both modes
(`Schema.prepare_remoded`). The names to be used and the place where the counter stands do not decide
it either.

So the run in one mode tells of the run in the other what fails and why.

Main statement: `Generation.mode_independence`.
-/

namespace Specimen

open Synthesis

/-! ## Values -/

/-- Nothing is asked of two expressions. -/
def Expr.Any (_ _ : Expr) : Prop := True

theorem Expr.compatible_any : Expr.Compatible Expr.Any :=
  ⟨fun _ => trivial, fun _ _ => trivial, fun _ => trivial⟩

/-- Values for which the same references have samples can be made or not, whatever the modes and the
names to be used are. -/
theorem Synthesis.synthesize_agree_of_status (S S' : Surroundings) {type : TypeRef}
    (status_eq : ∀ path ∈ type.references, S'.status path = S.status path)
    (category : Option Category) :
    Agree Expr.Any (synthesize S type category) (synthesize S' type category) := by
  refine agree_iff_parallel.mpr (synthesize_parallel ⟨fun _ => trivial, fun _ _ => trivial⟩
    (fun kind category => ?_) (fun path hpath => ?_) category)
  · have hmeets : ∀ S : Surroundings, (synthesize S (.scalar kind) category).Meets True _ _ :=
      fun S => (synthesize_meets (.scalar kind) category).congr (by simp [TypeRef.references])
    exact agree_iff_parallel.mp
      ((agree_of_meets (hmeets S) (hmeets S')).mono fun _ _ _ => trivial)
  · rw [referenceExpr, referenceExpr, status_eq path hpath]
    cases S.status path with
    | available =>
      cases readPath path with
      | error fault => exact parallel_throw fault
      | ok type => exact parallel_pure trivial
    | failed => exact parallel_throw _
    | unknown => exact parallel_throw _

/-! ## Schemas -/

namespace Schema

variable {schema schema' : Schema}

/-- Two schemas differ in nothing but modes, that of the schema and those of its declarations, and in
what a run does not look at. -/
structure Remoded (schema schema' : Schema) : Prop where
  externalTypes_eq : schema'.externalTypes = schema.externalTypes
  types : List.Forall₂ Declaration.Remoded schema.types schema'.types

theorem Remoded.typeNames_eq (h : schema.Remoded schema') :
    schema'.typeNames = schema.typeNames := by
  have htypes := h.types
  unfold typeNames
  generalize schema.types = types, schema'.types = types' at htypes
  induction htypes with
  | nil => rfl
  | cons head _ ih => rw [List.map_cons, List.map_cons, ih, head.name_eq]

theorem Remoded.knows_eq (h : schema.Remoded schema') : schema'.knows = schema.knows :=
  knows_congr (fun _ => by rw [h.typeNames_eq]) h.externalTypes_eq

end Schema

/-! ## Sample sets -/

/-- Two sample sets are of one type and have as many samples. -/
structure SampleSet.SameExtent (set set' : SampleSet) : Prop where
  typeName_eq : set'.typeName = set.typeName
  typePath_eq : set'.typePath = set.typePath
  length_eq : set'.samples.length = set.samples.length

namespace Generation

variable {schema schema' : Schema}

/-- Whatever the modes and the targets, a set is built for both declarations with as many samples, or both
have the same fault. -/
theorem buildSet_sameExtent (knows_eq : schema'.knows = schema.knows) (targets targets' : Targets)
    (failed : List String) {entry entry' : Prepared} (h : entry.Remoded entry') :
    Agree SampleSet.SameExtent (buildSet schema targets failed entry)
      (buildSet schema' targets' failed entry') := by
  have hvalues : ∀ q ∈ entry.shape.parameters,
      Agree Expr.Any (q.synthesize (surroundings schema targets failed entry))
        (q.synthesize (surroundings schema' targets' failed entry')) :=
    fun q _ => synthesize_agree_of_status _ _ (fun _ _ => status_congr knows_eq .rfl) q.category
  rw [buildSet, buildSet, h.shape_eq, h.declaration.count_eq]
  refine (SampleSet.build_agree Expr.compatible_any _ _ hvalues).mono ?_
  rintro set set' ⟨htype, hpath, _, hsamples⟩
  exact ⟨htype.symm, hpath.symm, hsamples.length_eq.symm⟩

/-! ## Runs -/

/-- A declaration in another mode matches. -/
theorem matches_of_remoded {entry entry' : Prepared} (h : entry.Remoded entry') :
    entry.Matches entry' :=
  ⟨h.declaration.name_eq, by rw [h.shape_eq]⟩

/-- With other modes the same declarations pass and fail, and the same errors are reported. -/
theorem check_remoded (knows_eq : schema'.knows = schema.knows) {ds ds' : List Declaration}
    (h : List.Forall₂ Declaration.Remoded ds ds') :
    List.Forall₂ Prepared.Remoded (check schema ds).passed (check schema' ds').passed ∧
    (check schema' ds').failed = (check schema ds).failed ∧
    Diagnostic.errors (check schema' ds').report = Diagnostic.errors (check schema ds).report := by
  obtain ⟨hpassed, hfailed⟩ := check_related h fun d d' hd =>
    ⟨hd.name_eq, (Schema.prepare_remoded knows_eq hd).2⟩
  refine ⟨hpassed, hfailed, ?_⟩
  rw [check_report, check_report, Diagnostic.errors, Diagnostic.errors, List.filter_flatMap,
    List.filter_flatMap]
  exact (flatMap_eq_of_forall₂ (h.imp fun d d' hd => (Schema.prepare_remoded knows_eq hd).1.symm)).symm

/-- A diagnostic that is no error is about a category without effect. -/
theorem id_eq_redundantCategory {x : Diagnostic} (h : x.isError = false) :
    x.id = "redundant_category" := by
  obtain ⟨_ | _, _⟩ := x
  · cases h
  · rfl

/-- Which declarations have samples and how many, and which errors are reported, depends neither on
modes nor on the names to be used nor on where the counter stands. Besides errors, nothing but
categories without effect is reported. -/
theorem mode_independence (h : schema.Remoded schema') (targets targets' : Targets)
    (identifiers identifiers' : Identifiers) :
    (run schema' targets' identifiers').failed = (run schema targets identifiers).failed ∧
    List.Forall₂ SampleSet.SameExtent (run schema targets identifiers).sets
      (run schema' targets' identifiers').sets ∧
    Diagnostic.errors (run schema' targets' identifiers').report =
      Diagnostic.errors (run schema targets identifiers).report ∧
    ∀ x ∈ (run schema targets identifiers).report ++ (run schema' targets' identifiers').report,
      x.isError = false → x.id = "redundant_category" := by
  have hknows := h.knows_eq
  obtain ⟨hpassed, hfailed, herrors⟩ := check_remoded hknows h.types
  obtain ⟨hsets, hall, rest, hreport, hreport'⟩ :=
    run_matches (fun _ _ => matches_of_remoded) hpassed hfailed
      (fun failed _ _ => buildSet_sameExtent hknows targets targets' failed) identifiers identifiers'
  refine ⟨hall, hsets, ?_, fun _ _ => id_eq_redundantCategory⟩
  rw [hreport, hreport', Diagnostic.errors_append, Diagnostic.errors_append]
  exact congrArg (· ++ _) herrors

/-- A reader has a name, and a category for it. -/
def reader : Declaration where
  kind := .struct
  name := "Reader"
  members := [{ name := "name", type := "String", category := some "fullName" }]
  sample := { count := 2 }

/-- A loan, with a category that does not fit the number of days. -/
def loan : Declaration where
  kind := .struct
  name := "Loan"
  members := [{ name := "reader", type := "Reader" },
    { name := "days", type := "u8", category := some "price" }]
  sample := { count := 1 }

def reminder : Declaration where
  kind := .struct
  name := "Reminder"
  members := [{ name := "loan", type := "Loan" }]
  sample := { count := 1 }

def library : Schema where
  types := [reader, loan, reminder]
  distinct := by decide

/-- The library with placeholders, but for loans. -/
def plainLibrary : Schema where
  defaults := { mode := .fixed }
  types := [reader, loan.withMode .randomized, reminder]
  distinct := by decide

/-- In the library the loans fail for their category, and the reminders with them. Without the randomized
mode, with other targets and from another number, the same fail, and the report grows by the category that
is redundant. -/
theorem mode_independence_library :
    library.Remoded plainLibrary ∧
    (run library .standard {}).failed = ["Loan", "Reminder"] ∧
    (run plainLibrary ⟨"specimen", .ofName "data"⟩ ⟨7⟩).failed = ["Loan", "Reminder"] ∧
    (run library .standard {}).report.map Diagnostic.id =
      ["category_mismatch", "dependency_failed"] ∧
    (run plainLibrary ⟨"specimen", .ofName "data"⟩ ⟨7⟩).report.map Diagnostic.id =
      ["redundant_category", "category_mismatch", "dependency_failed"] ∧
    Diagnostic.errors (run plainLibrary ⟨"specimen", .ofName "data"⟩ ⟨7⟩).report =
      (run library .standard {}).report := by
  have hremoded : library.Remoded plainLibrary :=
    ⟨rfl, .cons ⟨none, rfl⟩ (.cons ⟨some .randomized, rfl⟩ (.cons ⟨none, rfl⟩ .nil))⟩
  obtain ⟨hfailed, _, herrors, _⟩ :=
    mode_independence hremoded .standard ⟨"specimen", .ofName "data"⟩ {} ⟨7⟩
  have hlibrary : (run library .standard {}).failed = ["Loan", "Reminder"] := by decide +kernel
  have hreport : (run library .standard {}).report.map Diagnostic.id =
      ["category_mismatch", "dependency_failed"] := by decide +kernel
  have hall : Diagnostic.errors (run library .standard {}).report =
      (run library .standard {}).report := by decide +kernel
  exact ⟨hremoded, hlibrary, hfailed.trans hlibrary, hreport, by decide +kernel, herrors.trans hall⟩

end Generation

end Specimen
