import Specimen.Generation
import Specimen.Proofs.Shape.Extraction

/-!
# What the checks of declarations find out

`Schema.prepare` is opened here and nowhere else. A declaration that passes comes with its shape, asks
for at least one sample, and refers to nothing that the schema does not know (`Schema.Ready`). All
that is said about a declaration by its own checks is located at it and belongs to the phase of
checking (`Schema.own_of_mem_prepare`).

What the checks say about a declaration depends on the names of the others and on what is external, and
on nothing else of the schema than the mode (`Schema.prepare_congr`). The mode decides about warnings
alone (`Schema.prepare_remoded`).

The checks of a list of declarations are those of its elements, in their order (`check_passed`,
`check_failed`, `check_report`). So two lists are compared element by element (`check_related`).
-/

namespace Specimen

namespace Schema

variable {schema : Schema} {declaration : Declaration} {entry : Prepared}

/-- A declaration passes its own checks. -/
def Passes (schema : Schema) (declaration : Declaration) : Prop :=
  (schema.prepare declaration).2.isSome = true

instance : Decidable (schema.Passes declaration) := inferInstanceAs (Decidable (_ = true))

/-- What is known of a declaration that has passed its own checks. -/
structure Ready (schema : Schema) (declaration : Declaration) (entry : Prepared) : Prop where
  declaration_eq : entry.declaration = declaration
  shape_eq : declaration.shape = .ok entry.shape
  mode_eq : entry.mode = schema.modeOf declaration
  count_pos : 0 < declaration.sample.count
  known : ∀ path ∈ entry.shape.references, schema.knows path = true

/-- A declaration that is ready has one shape only, that of its entry. -/
theorem Ready.eq_shape (ready : schema.Ready declaration entry) {shape : Shape}
    (h : declaration.shape = .ok shape) : shape = entry.shape :=
  Except.ok.inj (h.symm.trans ready.shape_eq)

/-- A reference of a shape is one of a parameter. -/
theorem mem_references_iff {shape : Shape} {path : String} :
    path ∈ shape.references ↔ ∃ p ∈ shape.parameters, path ∈ p.type.references := by
  simp [Shape.references, List.mem_flatMap]

/-- If nothing is to be said about the references of a shape, all of them are known. -/
theorem knows_of_shapeDiagnostics {type path : String} {shape : Shape}
    (h : schema.shapeDiagnostics type shape = []) (ref : path ∈ shape.references) :
    schema.knows path = true := by
  obtain ⟨p, hp, hpath⟩ := mem_references_iff.mp ref
  have hnone := List.flatMap_eq_nil_iff.mp h p hp
  unfold unknownReferences at hnone
  rw [List.map_eq_nil_iff, List.filter_eq_nil_iff] at hnone
  simpa using hnone path hpath

/-- An entry that preparing gives is ready. -/
theorem ready_of_prepare (h : (schema.prepare declaration).2 = some entry) :
    schema.Ready declaration entry := by
  unfold prepare at h
  split at h
  · cases h
  · dsimp only at h
    split at h
    · cases h
    · rename_i hcount
      split at h
      · cases h
      · split at h
        · cases h
        · rename_i shape hshape
          split at h
          · rename_i hknown
            obtain rfl := Option.some.inj h
            exact ⟨rfl, hshape, rfl, Int.not_le.mp hcount,
              fun path => knows_of_shapeDiagnostics hknown⟩
          · cases h

/-! ## What the checks depend on -/

/-- A path leads to a declaration if and only if its last name is that of one. -/
theorem isSome_find?_eq (schema : Schema) (path : String) :
    (schema.find? path).isSome = schema.typeNames.contains (typeKey path) := by
  rw [Bool.eq_iff_iff, find?, List.find?_isSome, List.contains_iff_mem, typeNames, List.mem_map]
  simp

variable {schema' : Schema}

/-- What a schema knows depends on the names of its declarations and on the types from elsewhere. -/
theorem knows_congr (names : ∀ n, n ∈ schema'.typeNames ↔ n ∈ schema.typeNames)
    (externalTypes_eq : schema'.externalTypes = schema.externalTypes) :
    schema'.knows = schema.knows := by
  funext path
  have hfind : (schema'.find? path).isSome = (schema.find? path).isSome := by
    rw [isSome_find?_eq, isSome_find?_eq, Bool.eq_iff_iff, List.contains_iff_mem,
      List.contains_iff_mem, names]
  rw [knows, knows, hfind, isExternal, isExternal, externalTypes_eq]

/-- Of the other declarations a shape needs only to know which names there are. -/
theorem shapeDiagnostics_congr (knows_eq : schema'.knows = schema.knows) :
    schema'.shapeDiagnostics = schema.shapeDiagnostics := by
  funext type shape
  unfold shapeDiagnostics unknownReferences
  rw [knows_eq]

/-- The checks of a declaration do not look at other declarations, except for their names. -/
theorem prepare_congr (knows_eq : schema'.knows = schema.knows)
    (mode_eq : schema'.defaults.mode = schema.defaults.mode) (declaration : Declaration) :
    schema'.prepare declaration = schema.prepare declaration := by
  have hmode : schema'.modeOf declaration = schema.modeOf declaration := by
    rw [modeOf, modeOf, mode_eq]
  unfold prepare
  rw [hmode, shapeDiagnostics_congr knows_eq]

/-! ## Categories -/

/-- Nothing is wrong with the categories on a declaration that passes. -/
theorem isError_of_passes (h : schema.Passes declaration) {x : Diagnostic}
    (hx : x ∈ declaration.categoryDiagnostics (schema.modeOf declaration)) : x.isError = false := by
  unfold Passes prepare at h
  split at h
  · cases h
  · dsimp only at h
    split at h
    · cases h
    · split at h
      · cases h
      · rename_i hnone
        rw [Bool.not_eq_true, List.any_eq_false] at hnone
        simpa using hnone x hx

/-- If a category fits a member, the type of the member comes down to the kind it is for. -/
theorem leaf_of_fitting {category : Category} {member : Member} {type : TypeRef}
    (h : TypeRef.read member.type = .ok type)
    (fits : Declaration.misfit? category member = none) :
    type.leaf = .scalar category.domain.expectedKind := by
  have hany : type.leaf.scalar?.any category.isCompatible = true := by
    by_contra hnot
    simp [Declaration.misfit?, h, hnot] at fits
  rcases type.leaf_eq with ⟨kind, hkind⟩ | ⟨path, hpath⟩
  · have hcompatible : category.isCompatible kind = true := by
      simpa [hkind, TypeRef.scalar?] using hany
    rw [hkind, Category.isCompatible_iff.mp hcompatible]
  · simp [hpath, TypeRef.scalar?] at hany

/-- A category on a stored member of a struct that passes is for the kind that its type comes down
to. -/
theorem leaf_of_passes (h : schema.Passes declaration) (struct : declaration.kind = .struct)
    {member : Member} (hmember : member ∈ declaration.storedMembers) {token : String}
    (htoken : member.category = some token) {category : Category}
    (hcategory : Category.read token = .ok category) {type : TypeRef}
    (htype : TypeRef.read member.type = .ok type) :
    type.leaf = .scalar category.domain.expectedKind := by
  obtain ⟨hmem, hstored⟩ := List.mem_filter.mp hmember
  obtain ⟨index, hindex⟩ := List.getElem?_of_mem hmem
  refine leaf_of_fitting htype ?_
  by_contra hmisfit
  obtain ⟨fault, hfault⟩ := Option.ne_none_iff_exists'.mp hmisfit
  have hmismatch : Diagnostic.ofFault fault
      ⟨declaration.name, some (member.displayName index)⟩ ∈
        declaration.categoryDiagnostics (schema.modeOf declaration) := by
    rw [Declaration.categoryDiagnostics, struct]
    have hentry : (member, index) ∈ declaration.members.zipIdx :=
      List.mk_mem_zipIdx_iff_getElem?.mpr hindex
    refine List.mem_flatMap.mpr ⟨(member, index), hentry, ?_⟩
    simp [Declaration.memberDiagnostics, htoken, hstored, readCategory_eq_ok_iff.mpr hcategory,
      hfault]
  have herror := isError_of_passes h hmismatch
  rw [Diagnostic.isError_ofFault] at herror
  cases herror

/-! ## What is reported -/

/-- A diagnostic that the checks of a declaration may report. -/
def Own (declaration : Declaration) (d : Diagnostic) : Prop :=
  d.location.type = declaration.name ∧ d.phase = .checking

/-- What is said about a member is said at its declaration. -/
theorem own_of_mem_memberDiagnostics {mode : Mode} {member : Member} {index : Nat} {d : Diagnostic}
    (h : d ∈ Declaration.memberDiagnostics declaration.name mode member index) :
    Own declaration d := by
  obtain ⟨hlocation, hphase⟩ := Declaration.located_of_mem_memberDiagnostics h
  exact ⟨congrArg Location.type hlocation, hphase⟩

/-- What is said about the categories of a declaration is said at it. -/
theorem own_of_mem_categoryDiagnostics {mode : Mode} {d : Diagnostic}
    (h : d ∈ declaration.categoryDiagnostics mode) : Own declaration d := by
  unfold Declaration.categoryDiagnostics at h
  split at h
  · obtain ⟨⟨member, index⟩, _, hd⟩ := List.mem_flatMap.mp h
    exact own_of_mem_memberDiagnostics hd
  · cases h

/-- What is said about the shape of a declaration is said at it. -/
theorem own_of_mem_shapeDiagnostics {shape : Shape} {d : Diagnostic}
    (h : d ∈ schema.shapeDiagnostics declaration.name shape) : Own declaration d := by
  obtain ⟨p, _, hd⟩ := List.mem_flatMap.mp h
  obtain ⟨path, _, rfl⟩ := List.mem_map.mp hd
  exact ⟨rfl, rfl⟩

/-- The checks of a declaration report nothing but problems of their own at the declaration. -/
theorem own_of_mem_prepare {d : Diagnostic} (h : d ∈ (schema.prepare declaration).1) :
    Own declaration d := by
  unfold prepare at h
  split at h
  · rename_i fault hkind
    obtain rfl := List.mem_singleton.mp h
    exact ⟨rfl, Declaration.phase_of_checkKind hkind⟩
  · dsimp only at h
    split at h
    · obtain rfl := List.mem_singleton.mp h
      exact ⟨rfl, rfl⟩
    · split at h
      · exact own_of_mem_categoryDiagnostics h
      · split at h
        · rename_i error herror
          rcases List.mem_append.mp h with h | h
          · exact own_of_mem_categoryDiagnostics h
          · obtain rfl := List.mem_singleton.mp h
            exact ⟨rfl, Declaration.phase_of_shape herror⟩
        · split at h
          · exact own_of_mem_categoryDiagnostics h
          · rcases List.mem_append.mp h with h | h
            · exact own_of_mem_categoryDiagnostics h
            · exact own_of_mem_shapeDiagnostics h

/-- A declaration does not pass exactly when its checks report an error. -/
theorem not_passes_iff : ¬ schema.Passes declaration ↔
    ∃ d ∈ (schema.prepare declaration).1, d.isError = true := by
  rw [← prepare_snd_eq_none_iff, Passes, Option.not_isSome_iff_eq_none]

/-! ## Modes -/

end Schema

/-- Two declarations differ in nothing but the mode that they are sampled in. -/
def Declaration.Remoded (declaration declaration' : Declaration) : Prop :=
  ∃ mode, declaration' = { declaration with sample := { declaration.sample with mode } }

theorem Declaration.Remoded.name_eq {declaration declaration' : Declaration}
    (h : declaration.Remoded declaration') : declaration'.name = declaration.name := by
  obtain ⟨_, rfl⟩ := h
  rfl

theorem Declaration.Remoded.count_eq {declaration declaration' : Declaration}
    (h : declaration.Remoded declaration') :
    declaration'.sample.count = declaration.sample.count := by
  obtain ⟨_, rfl⟩ := h
  rfl

/-- Two declarations that have passed differ in nothing but the mode that they are sampled in. -/
structure Prepared.Remoded (entry entry' : Prepared) : Prop where
  declaration : entry.declaration.Remoded entry'.declaration
  shape_eq : entry'.shape = entry.shape

/-- The errors of a report. -/
def Diagnostic.errors (report : List Diagnostic) : List Diagnostic := report.filter isError

/-- The errors of two reports are those of the first and then those of the second. -/
@[simp]
theorem Diagnostic.errors_append (report report' : List Diagnostic) :
    errors (report ++ report') = errors report ++ errors report' := List.filter_append ..

namespace Schema

variable {schema schema' : Schema} {declaration declaration' : Declaration}

/-- Whether a category is wrong does not depend on the mode, only whether it has an effect. -/
theorem errors_memberDiagnostics (type : String) (mode mode' : Mode) (member : Member)
    (index : Nat) :
    Diagnostic.errors (Declaration.memberDiagnostics type mode' member index) =
      Diagnostic.errors (Declaration.memberDiagnostics type mode member index) := by
  have hwarning : ∀ name, (Diagnostic.redundantCategory type name).isError = false := fun _ => rfl
  unfold Diagnostic.errors Declaration.memberDiagnostics
  split
  · rfl
  · dsimp only
    split
    · rfl
    · split
      · rfl
      · cases mode <;> cases mode' <;> simp [hwarning]

/-- The errors about the categories of a declaration do not depend on its mode. -/
theorem errors_categoryDiagnostics (declaration : Declaration) (mode mode' : Mode) :
    Diagnostic.errors (declaration.categoryDiagnostics mode') =
      Diagnostic.errors (declaration.categoryDiagnostics mode) := by
  have hmember := fun member index =>
    errors_memberDiagnostics declaration.name mode mode' member index
  unfold Declaration.categoryDiagnostics
  split
  · unfold Diagnostic.errors at hmember ⊢
    simp only [List.filter_flatMap, hmember]
  · rfl

/-- Whether a report has an error is told by its errors alone. -/
theorem any_isError_congr {report report' : List Diagnostic}
    (h : Diagnostic.errors report' = Diagnostic.errors report) :
    report'.any Diagnostic.isError = report.any Diagnostic.isError := by
  have herrors : ∀ r : List Diagnostic,
      (Diagnostic.errors r).any Diagnostic.isError = r.any Diagnostic.isError :=
    fun r => by simp [Diagnostic.errors, List.any_filter]
  rw [← herrors, h, herrors]

/-- Whether a declaration passes its checks, and which errors they find, does not depend on modes. -/
theorem prepare_remoded (knows_eq : schema'.knows = schema.knows)
    (h : declaration.Remoded declaration') :
    Diagnostic.errors (schema'.prepare declaration').1 =
      Diagnostic.errors (schema.prepare declaration).1 ∧
    Option.Rel Prepared.Remoded (schema.prepare declaration).2 (schema'.prepare declaration').2 := by
  obtain ⟨hkind, hshape, hsame⟩ : declaration'.checkKind = declaration.checkKind ∧
      declaration'.shape = declaration.shape ∧
      declaration'.categoryDiagnostics = declaration.categoryDiagnostics := by
    obtain ⟨_, rfl⟩ := h
    exact ⟨rfl, rfl, rfl⟩
  have hcategories := errors_categoryDiagnostics declaration (schema.modeOf declaration)
    (schema'.modeOf declaration')
  have herrors := any_isError_congr hcategories
  unfold prepare
  simp only [hkind, h.count_eq, h.name_eq, hshape, hsame, herrors, shapeDiagnostics_congr knows_eq]
  cases declaration.checkKind with
  | error fault => exact ⟨rfl, .none⟩
  | ok _ =>
    dsimp only
    split
    · exact ⟨rfl, .none⟩
    · split
      · exact ⟨hcategories, .none⟩
      · cases declaration.shape with
        | error error => exact ⟨by simp only [Diagnostic.errors_append, hcategories], .none⟩
        | ok shape =>
          dsimp only
          cases schema.shapeDiagnostics declaration.name shape with
          | nil => exact ⟨hcategories, .some ⟨h, rfl⟩⟩
          | cons d ds => exact ⟨by simp only [Diagnostic.errors_append, hcategories], .none⟩

end Schema

namespace Generation

variable {schema : Schema}

/-! ## All declarations -/

/-- The declarations that pass, in their order. -/
theorem check_passed (schema : Schema) (declarations : List Declaration) :
    (check schema declarations).passed = declarations.filterMap fun d => (schema.prepare d).2 := by
  induction declarations with
  | nil => rfl
  | cons d ds ih =>
    simp only [check, List.filterMap_cons]
    split <;> rename_i heq <;> simp [heq, ih]

/-- If declarations with the same name pass together, so do those of two lists, one by one. -/
theorem check_related {schema' : Schema} {D : Declaration → Declaration → Prop}
    {R : Prepared → Prepared → Prop} {ds ds' : List Declaration} (h : List.Forall₂ D ds ds')
    (each : ∀ d d', D d d' → d'.name = d.name ∧
      Option.Rel R (schema.prepare d).2 (schema'.prepare d').2) :
    List.Forall₂ R (check schema ds).passed (check schema' ds').passed ∧
      (check schema' ds').failed = (check schema ds).failed := by
  induction h with
  | nil => exact ⟨.nil, rfl⟩
  | @cons d d' ds ds' head _ ih =>
    obtain ⟨hpassed, hfailed⟩ := ih
    obtain ⟨hname, hresult⟩ := each d d' head
    rcases hrun : schema.prepare d with ⟨report, entry?⟩
    rcases hrun' : schema'.prepare d' with ⟨report', entry'?⟩
    rw [hrun, hrun'] at hresult
    cases hresult with
    | some hentry =>
      simp only [check, hrun, hrun']
      exact ⟨.cons hentry hpassed, hfailed⟩
    | none =>
      simp only [check, hrun, hrun', hname]
      exact ⟨hpassed, congrArg _ hfailed⟩

/-- The names of the declarations that do not pass, in their order. -/
theorem check_failed (schema : Schema) (declarations : List Declaration) :
    (check schema declarations).failed =
      (declarations.filter fun d => !decide (schema.Passes d)).map Declaration.name := by
  induction declarations with
  | nil => rfl
  | cons d ds ih =>
    simp only [check]
    split <;> rename_i heq <;> simp [heq, ih, Schema.Passes]

/-- What the checks of the declarations report, in their order. -/
theorem check_report (schema : Schema) (declarations : List Declaration) :
    (check schema declarations).report = declarations.flatMap fun d => (schema.prepare d).1 := by
  induction declarations with
  | nil => rfl
  | cons d ds ih =>
    simp only [check, List.flatMap_cons]
    split <;> rename_i heq <;> simp [heq, ih]

end Generation

end Specimen
