import Specimen.Proofs.Generation.Matching
import Specimen.Proofs.SampleSet.Construction
import Specimen.Proofs.Shape.Tidying

/-!
# Categories without effect

Fixed mode does not look at categories, at whatever depth of a type (`Synthesis.synthesize_fixed`). So
if the categories that are reported to have no effect are taken away from a declaration, the run takes
the same way as before and gives the same samples, down to the numbers of identifiers. What is missing
afterwards is the reports on these categories.

Main statement: `Generation.tidying`.
-/

namespace Specimen

/-! ## Values -/

/-- The values of fixed mode are the same for all categories. -/
theorem Synthesis.synthesize_fixed {S : Surroundings} (fixed : S.mode = .fixed) (type : TypeRef)
    (category category' : Option Category) :
    synthesize S type category = synthesize S type category' := by
  induction type with
  | scalar kind => rw [synthesize, synthesize, fixed]
  | array element ih => rw [synthesize, synthesize, ih]
  | mapping kind key value _ ihValue => rw [synthesize, synthesize, ihValue]
  | reference path => rw [synthesize, synthesize]

/-- In its mode a parameter has the same value with the other category. -/
theorem Parameter.Recategorized.synthesize_eq {S : Surroundings} {mode : Mode} {p p' : Parameter}
    (h : p.Recategorized mode p') (mode_eq : S.mode = mode) : p'.synthesize S = p.synthesize S := by
  rw [Parameter.synthesize, Parameter.synthesize, h.type_eq]
  rcases h.category with hfixed | hcategory
  · exact Synthesis.synthesize_fixed (mode_eq.trans hfixed) _ _ _
  · rw [hcategory]

/-! ## Declarations -/

/-- Two declarations that have passed differ in nothing that matters but categories that their mode
does not look at. -/
structure Prepared.Recategorized (entry entry' : Prepared) : Prop where
  name_eq : entry'.name = entry.name
  sample_eq : entry'.declaration.sample = entry.declaration.sample
  mode_eq : entry'.mode = entry.mode
  shape : entry.shape.Related (Parameter.Recategorized entry.mode) entry'.shape

theorem Prepared.Recategorized.refl (entry : Prepared) : entry.Recategorized entry :=
  ⟨rfl, rfl, rfl, Shape.related_recategorized_refl _ _⟩

/-- Declarations with other categories correspond to each other with equal references. -/
theorem Prepared.Recategorized.corresponds {entry entry' : Prepared}
    (h : entry.Recategorized entry') : entry.Corresponds Eq entry' :=
  Prepared.Matches.corresponds ⟨h.name_eq, h.shape.references_eq⟩

namespace Schema

variable {schema schema' : Schema} {declaration : Declaration}

/-- Categories have no references that could be unknown. -/
theorem shapeDiagnostics_recategorized (schema : Schema) (type : String) {mode : Mode}
    {shape shape' : Shape} (h : shape.Related (Parameter.Recategorized mode) shape') :
    schema.shapeDiagnostics type shape' = schema.shapeDiagnostics type shape := by
  refine (flatMap_eq_of_forall₂ (h.parameters.imp fun p p' hp => ?_)).symm
  rw [unknownReferences, unknownReferences, hp.type_eq, hp.name_eq]

/-- The checks of a declaration that is sampled in fixed mode are the same when it has been tidied up,
but for the reports on categories without effect. -/
theorem prepare_tidied (knows_eq : schema'.knows = schema.knows)
    (defaults_eq : schema'.defaults = schema.defaults) (fixed : schema.modeOf declaration = .fixed)
    (sound : declaration.Sound) :
    (schema'.prepare declaration.tidied).1 =
      Diagnostic.withoutRedundant declaration.name (schema.prepare declaration).1 ∧
    Option.Rel Prepared.Recategorized (schema.prepare declaration).2
      (schema'.prepare declaration.tidied).2 := by
  have hmode : schema'.modeOf declaration.tidied = .fixed := by
    rw [← fixed, modeOf, modeOf, defaults_eq]
    rfl
  -- Only members are different, so both checks take the same branch up to the shapes.
  obtain ⟨hname, hsample, hkind⟩ : declaration.tidied.name = declaration.name ∧
      declaration.tidied.sample = declaration.sample ∧
      declaration.tidied.checkKind = declaration.checkKind := ⟨rfl, rfl, rfl⟩
  have hfault : ∀ fault location, [.ofFault fault location] =
      Diagnostic.withoutRedundant declaration.name [.ofFault fault location] :=
    fun fault location => (Diagnostic.withoutRedundant_eq_self (by simp)).symm
  have hshape := Declaration.shape_tidied sound
  unfold prepare
  simp only [hmode, fixed, hname, hsample, hkind, Declaration.categoryDiagnostics_tidied sound,
    sound.any_isError, List.any_nil, shapeDiagnostics_congr knows_eq, Bool.false_eq_true, if_false]
  cases declaration.checkKind with
  | error fault => exact ⟨hfault _ _, .none⟩
  | ok _ =>
    dsimp only
    split
    · exact ⟨hfault _ _, .none⟩
    · generalize declaration.shape = result, declaration.tidied.shape = result' at hshape
      cases hshape with
      | error error =>
        refine ⟨?_, .none⟩
        rw [Diagnostic.withoutRedundant_append, sound.withoutRedundant_eq_nil]
        exact hfault _ _
      | @ok shape shape' hshape =>
        dsimp only
        rw [shapeDiagnostics_recategorized schema declaration.name hshape]
        have herrors : ∀ x ∈ schema.shapeDiagnostics declaration.name shape, x.isError = true :=
          fun x hx => isError_of_mem_shapeDiagnostics hx
        generalize schema.shapeDiagnostics declaration.name shape = unknown at herrors
        cases unknown with
        | nil => exact ⟨sound.withoutRedundant_eq_nil.symm, .some ⟨rfl, rfl, rfl, hshape⟩⟩
        | cons x xs =>
          refine ⟨?_, .none⟩
          show x :: xs = Diagnostic.withoutRedundant declaration.name
            (declaration.categoryDiagnostics .fixed ++ x :: xs)
          rw [Diagnostic.withoutRedundant_append, sound.withoutRedundant_eq_nil,
            Diagnostic.withoutRedundant_eq_self fun y hy => .inl (herrors y hy), List.nil_append]

/-- The schema with one of its declarations tidied up. -/
def tidied (schema : Schema) (declaration : Declaration) : Schema :=
  { schema with
    types := schema.types.map fun other => if other = declaration then other.tidied else other
    distinct := by
      have hname : ∀ other : Declaration,
          (if other = declaration then other.tidied else other).name = other.name := by
        intro other
        split <;> rfl
      simpa only [List.map_map, Function.comp_def, hname] using schema.distinct }

/-- Tidying a declaration changes nothing in what names are known. -/
theorem knows_tidied (schema : Schema) (declaration : Declaration) :
    (schema.tidied declaration).knows = schema.knows := by
  have hnames : (schema.tidied declaration).typeNames = schema.typeNames := by
    rw [typeNames, typeNames, tidied, List.map_map]
    refine List.map_congr_left fun other _ => ?_
    show (if other = declaration then other.tidied else other).name = other.name
    split <;> rfl
  exact knows_congr (fun n => by rw [hnames]) rfl

end Schema

namespace Generation

open Synthesis

variable {schema schema' : Schema} {declaration : Declaration}

/-! ## Runs -/

/-- The checks of all declarations are the same when one of them has been tidied up, but for the
reports on its categories. -/
theorem checked_tidied (hdeclaration : declaration ∈ schema.types)
    (fixed : schema.modeOf declaration = .fixed) (sound : declaration.Sound) :
    List.Forall₂ Prepared.Recategorized (checked schema).passed
      (checked (schema.tidied declaration)).passed ∧
    (checked (schema.tidied declaration)).failed = (checked schema).failed ∧
    (checked (schema.tidied declaration)).report =
      Diagnostic.withoutRedundant declaration.name (checked schema).report := by
  have hknows := schema.knows_tidied declaration
  have htypes : List.Forall₂ (fun other other' => other ∈ schema.types ∧
      other' = if other = declaration then other.tidied else other) schema.types
        (schema.tidied declaration).types := by
    rw [Schema.tidied, List.forall₂_map_right_iff, List.forall₂_same]
    exact fun other hother => ⟨hother, rfl⟩
  have heach : List.Forall₂ (fun other other' => other'.name = other.name ∧
      Diagnostic.withoutRedundant declaration.name (schema.prepare other).1 =
        ((schema.tidied declaration).prepare other').1 ∧
      Option.Rel Prepared.Recategorized (schema.prepare other).2
        ((schema.tidied declaration).prepare other').2) schema.types
        (schema.tidied declaration).types := by
    refine htypes.imp ?_
    rintro other _ ⟨hother, rfl⟩
    by_cases heq : other = declaration
    · subst heq
      obtain ⟨hreport, hresult⟩ := Schema.prepare_tidied hknows rfl fixed sound
      rw [if_pos rfl]
      exact ⟨rfl, hreport.symm, hresult⟩
    · rw [if_neg heq, Schema.prepare_congr hknows rfl]
      refine ⟨rfl, Diagnostic.withoutRedundant_eq_self fun x hx => .inr ?_, ?_⟩
      · rw [(Schema.own_of_mem_prepare hx).1]
        exact fun hname => heq (Schema.eq_of_name_eq hother hdeclaration hname)
      · cases (schema.prepare other).2 with
        | none => exact .none
        | some entry => exact .some (.refl entry)
  obtain ⟨hpassed, hfailed⟩ := check_related heach fun _ _ h => ⟨h.1, h.2.2⟩
  refine ⟨hpassed, hfailed, ?_⟩
  rw [checked, checked, check_report, check_report, Diagnostic.withoutRedundant,
    List.filter_flatMap]
  exact (flatMap_eq_of_forall₂ (heach.imp fun _ _ h => h.2.1)).symm

/-- The same set is built for both declarations, with the same numbers. -/
theorem buildSet_recategorized (knows_eq : schema'.knows = schema.knows) (targets : Targets)
    (failed : List String) {entry entry' : Prepared} (h : entry.Recategorized entry') :
    Parallel Eq Eq (buildSet schema targets failed entry)
      (buildSet schema' targets failed entry') := by
  have hsurroundings : surroundings schema' targets failed entry' =
      surroundings schema targets failed entry := by
    have hstatus : status schema' failed = status schema failed := by
      funext path
      rw [status, status, knows_eq]
    rw [surroundings, surroundings, h.mode_eq, hstatus]
  have hparameters : entry.shape.Related
      (SampleSet.Corresponds Eq Eq (surroundings schema targets failed entry)
        (surroundings schema targets failed entry)) entry'.shape := by
    refine h.shape.mono_mem fun q _ q' _ hq => ⟨hq.name_eq, ?_⟩
    rw [hq.synthesize_eq rfl]
    exact parallel_rfl _
  show Parallel Eq Eq (SampleSet.build (surroundings schema targets failed entry) entry.shape
    entry.declaration.sample.count) (SampleSet.build (surroundings schema' targets failed entry')
    entry'.shape entry'.declaration.sample.count)
  rw [hsurroundings, h.sample_eq]
  refine (SampleSet.build_parallel Expr.compatible_eq hparameters _).mono ?_
  rintro ⟨name, p, member, samples⟩ ⟨name', p', member', samples'⟩ ⟨rfl, rfl, ⟨rfl, rfl⟩, hsamples⟩
  obtain rfl : samples = samples' := by
    rw [← List.forall₂_eq_eq_eq]
    exact hsamples
  rfl

/-- What is reported after the checks does not come from them. -/
theorem isError_of_mem_rest {targets : Targets} {identifiers : Identifiers} {rest : List Diagnostic}
    (h : (run schema targets identifiers).report = (checked schema).report ++ rest) {x : Diagnostic}
    (hx : x ∈ rest) : x.isError = true := by
  rw [run_eq] at h
  simp only [List.append_assoc, List.append_cancel_left_eq] at h
  have hphase : x.phase ≠ .checking := by
    rw [← h, List.mem_append, List.mem_append] at hx
    rcases hx with hx | hx | hx
    · rw [phase_of_mem_cyclic hx]
      decide
    · rw [phase_of_mem_spreading hx]
      decide
    · rw [phase_of_mem_built hx]
      decide
  obtain ⟨problem, location⟩ := x
  cases problem with
  | fault fault => rfl
  | redundantCategory => exact absurd rfl hphase

/-- If the categories without effect are taken away from a declaration, the run gives the same but for
the reports on them. -/
theorem run_tidied (hdeclaration : declaration ∈ schema.types)
    (fixed : schema.modeOf declaration = .fixed) (sound : declaration.Sound) (targets : Targets)
    (identifiers : Identifiers) :
    (run (schema.tidied declaration) targets identifiers).sets =
        (run schema targets identifiers).sets ∧
      (run (schema.tidied declaration) targets identifiers).failed =
        (run schema targets identifiers).failed ∧
      (run (schema.tidied declaration) targets identifiers).report =
        Diagnostic.withoutRedundant declaration.name (run schema targets identifiers).report ∧
      (run (schema.tidied declaration) targets identifiers).identifiers =
        (run schema targets identifiers).identifiers := by
  obtain ⟨hpassed, hchecked, hreport⟩ := checked_tidied hdeclaration fixed sound
  obtain ⟨hsets, hfailed, hidentifiers, rest, rest', hrest, heq, heq'⟩ :=
    run_related (fun _ _ => Prepared.Recategorized.corresponds) hpassed hchecked
      (fun entry _ entry' _ h => buildSet_recategorized (schema.knows_tidied declaration) targets
        (spreading schema).failed h) (Eq.refl identifiers)
  obtain rfl : rest = rest' := by
    rw [← List.forall₂_eq_eq_eq]
    exact hrest.imp fun _ _ h => h.eq
  -- All that is reported after the checks is errors, so the warnings are missing in the first part.
  have hrest : Diagnostic.withoutRedundant declaration.name rest = rest :=
    Diagnostic.withoutRedundant_eq_self fun x hx => .inl (isError_of_mem_rest heq hx)
  refine ⟨?_, hfailed, ?_, hidentifiers.symm⟩
  · rw [eq_comm, ← List.forall₂_eq_eq_eq]
    exact hsets
  · rw [heq', heq, hreport, Diagnostic.withoutRedundant_append, hrest]

/-- The edits that take a category away do what they are suggested for. Where one is suggested for a
member, all else that is reported on categories stays as it is without the category. In fixed mode, if
nothing is wrong with the categories of a declaration, those that have no effect can all be taken away:
the run gives the same sample sets with the same identifiers, the same declarations fail, and the same
is reported but for these categories. -/
theorem tidying :
    (∀ (declaration : Declaration) (mode : Mode) (index : Nat) (member : Member) (x : Diagnostic)
      (name : String), declaration.members[index]? = some member →
      x ∈ declaration.memberReport mode member index → x.fix? = some (.removeCategory name) →
        name = member.displayName index ∧
        declaration.categoryDiagnostics mode = (declaration.memberReports mode).flatten ∧
        (declaration.memberReports mode)[index]? =
          some (declaration.memberReport mode member index) ∧
        (declaration.withoutCategory index).categoryDiagnostics mode =
          ((declaration.memberReports mode).set index []).flatten) ∧
    ∀ (schema : Schema) (declaration : Declaration) (targets : Targets) (identifiers : Identifiers),
      declaration ∈ schema.types → schema.modeOf declaration = .fixed → declaration.Sound →
        (run (schema.tidied declaration) targets identifiers).sets =
            (run schema targets identifiers).sets ∧
          (run (schema.tidied declaration) targets identifiers).failed =
            (run schema targets identifiers).failed ∧
          (run (schema.tidied declaration) targets identifiers).report =
            Diagnostic.withoutRedundant declaration.name (run schema targets identifiers).report ∧
          (run (schema.tidied declaration) targets identifiers).identifiers =
            (run schema targets identifiers).identifiers := by
  constructor
  · intro declaration mode index member x name hmember hx hfix
    refine ⟨Declaration.member_of_fix hx hfix, declaration.categoryDiagnostics_eq mode, ?_, ?_⟩
    · rw [Declaration.getElem?_memberReports, hmember]
      rfl
    · rw [Declaration.categoryDiagnostics_eq, Declaration.memberReports_withoutCategory]
  · intro schema declaration targets identifiers hdeclaration fixed sound
    exact run_tidied hdeclaration fixed sound targets identifiers

/-- A visitor with placeholders, for which categories have no effect. -/
def visitor : Declaration where
  kind := .struct
  name := "Visitor"
  members := [{ name := "id", type := "Uuid" },
    { name := "name", type := "String", category := some "fullName" },
    { name := "mails", type := "HashMap<Uuid, String>", category := some "email" }]
  sample := { count := 2, mode := some .fixed }

/-- A visit is sampled at random, and its category has an effect. -/
def visit : Declaration where
  kind := .struct
  name := "Visit"
  members := [{ name := "by", type := "Visitor" },
    { name := "employer", type := "String", category := some "companyName" }]
  sample := { count := 1 }

def museum : Schema where
  types := [visitor, visit]
  distinct := by decide

/-- Two categories of a visitor are taken away, first one of them and then both. -/
theorem tidying_museum :
    museum.modeOf visitor = .fixed ∧ visitor.Sound ∧
    (visitor.withoutCategory 1).categoryDiagnostics .fixed = [.redundantCategory "Visitor" "mails"] ∧
    (run museum .standard ⟨7⟩).report =
      [.redundantCategory "Visitor" "name", .redundantCategory "Visitor" "mails"] ∧
    (run (museum.tidied visitor) .standard ⟨7⟩).report = [] ∧
    (run (museum.tidied visitor) .standard ⟨7⟩).sets = (run museum .standard ⟨7⟩).sets ∧
    (run (museum.tidied visitor) .standard ⟨7⟩).identifiers = ⟨11⟩ := by
  have hsound : visitor.Sound := by decide +kernel
  have hreport : (run museum .standard ⟨7⟩).report =
      [.redundantCategory "Visitor" "name", .redundantCategory "Visitor" "mails"] := by
    decide +kernel
  have hidentifiers : (run museum .standard ⟨7⟩).identifiers = ⟨11⟩ := by decide +kernel
  obtain ⟨_, _, _, hone⟩ := tidying.1 visitor .fixed 1 _ (.redundantCategory "Visitor" "name") "name" rfl
    (by decide +kernel) rfl
  obtain ⟨hsets, _, hrest, hlast⟩ :=
    tidying.2 museum visitor .standard ⟨7⟩ List.mem_cons_self rfl hsound
  refine ⟨rfl, hsound, ?_, hreport, ?_, hsets, hlast.trans hidentifiers⟩
  · rw [hone]
    decide +kernel
  · rw [hrest, hreport]
    decide +kernel

end Generation

end Specimen
