import Specimen.Proofs.Shape.Extraction

/-!
# Categories that are taken away

A diagnostic on a category may suggest to take the category away. What is reported on the other members
does not change then, nor the positions that it is reported at
(`Declaration.memberReports_withoutCategory`).

If nothing is wrong with the categories of a struct in fixed mode, each of them can be read, sits on a
member that takes part in construction, and is reported to have no effect. Without them the struct has
no categories at all (`Declaration.members_tidied`), and its shape is the same but for the categories of
its parameters (`Declaration.shape_tidied`).
-/

namespace Specimen

/-- The member without its category. -/
def Member.withoutCategory (member : Member) : Member := { member with category := none }

/-- Two parameters differ in nothing but a category that the mode does not look at. -/
structure Parameter.Recategorized (mode : Mode) (p p' : Parameter) : Prop where
  name_eq : p'.name = p.name
  type_eq : p'.type = p.type
  category : mode = .fixed ∨ p'.category = p.category

theorem Parameter.Recategorized.refl (mode : Mode) (p : Parameter) : p.Recategorized mode p :=
  ⟨rfl, rfl, .inr rfl⟩

theorem Shape.related_recategorized_refl (mode : Mode) (shape : Shape) :
    shape.Related (Parameter.Recategorized mode) shape :=
  Shape.related_self fun q _ => .refl mode q

/-- Related shapes refer to the same types. -/
theorem Shape.Related.references_eq {mode : Mode} {shape shape' : Shape}
    (h : shape.Related (Parameter.Recategorized mode) shape') :
    shape'.references = shape.references := by
  have hflat : (shape.parameters.flatMap fun p => p.type.references) =
      shape'.parameters.flatMap fun p => p.type.references :=
    flatMap_eq_of_forall₂ (h.parameters.imp fun _ _ hp => by rw [hp.type_eq])
  rw [Shape.references, Shape.references, hflat]

/-- A member that is read with its category is read without it as well. -/
theorem Member.readAlike_withoutCategory {member : Member}
    (readable : ∃ category, readCategory? member.category = .ok category) :
    member.ReadAlike (Parameter.Recategorized .fixed) member.withoutCategory := by
  obtain ⟨category, hcategory⟩ := readable
  have hread : SameWay Eq (readType member.type) (readType member.withoutCategory.type) :=
    .refl (fun _ => rfl) (readType member.type)
  refine ⟨rfl, rfl, fun index => foundAt_sameWay _ (hread.bind ?_)⟩
  rintro type _ rfl
  rw [hcategory]
  exact .ok ⟨rfl, rfl, .inl rfl⟩

/-! ## Reports on categories without effect -/

namespace Diagnostic

/-- Whether a diagnostic is the warning that a category on a type has no effect. -/
def isRedundantOn (type : String) (x : Diagnostic) : Bool :=
  x.problem == .redundantCategory && x.location.type == type

/-- A report without the warnings that categories on a type have no effect. -/
def withoutRedundant (type : String) (report : List Diagnostic) : List Diagnostic :=
  report.filter fun x => !x.isRedundantOn type

theorem withoutRedundant_append (type : String) (report report' : List Diagnostic) :
    withoutRedundant type (report ++ report') =
      withoutRedundant type report ++ withoutRedundant type report' := List.filter_append ..

/-- A report stays as it is if each of its diagnostics is a fault or about another type. -/
theorem withoutRedundant_eq_self {type : String} {report : List Diagnostic}
    (h : ∀ x ∈ report, x.isError = true ∨ x.location.type ≠ type) :
    withoutRedundant type report = report := by
  refine List.filter_eq_self.mpr fun x hx => ?_
  rcases h x hx with herror | hother
  · obtain ⟨problem, location⟩ := x
    cases problem with
    | fault fault => simp [isRedundantOn]
    | redundantCategory => cases herror
  · simp [isRedundantOn, hother]

end Diagnostic

namespace Declaration

variable {declaration : Declaration} {mode : Mode}

/-! ## Reports of members -/

/-- What is to be said about the category of the member at a position. Nothing is said outside
structs. -/
def memberReport (declaration : Declaration) (mode : Mode) (member : Member) (index : Nat) :
    List Diagnostic :=
  match declaration.kind with
  | .struct => memberDiagnostics declaration.name mode member index
  | _ => []

/-- What is to be said about each category, for the members in their order. -/
def memberReports (declaration : Declaration) (mode : Mode) : List (List Diagnostic) :=
  declaration.members.zipIdx.map fun (member, index) => declaration.memberReport mode member index

/-- The report on the member at a position is at the same position. -/
theorem getElem?_memberReports (declaration : Declaration) (mode : Mode) (index : Nat) :
    (declaration.memberReports mode)[index]? =
      declaration.members[index]?.map fun member => declaration.memberReport mode member index := by
  cases h : declaration.members[index]? <;> simp [memberReports, List.getElem?_zipIdx, h]

/-- The checks of categories report on one member after the other. -/
theorem categoryDiagnostics_eq (declaration : Declaration) (mode : Mode) :
    declaration.categoryDiagnostics mode = (declaration.memberReports mode).flatten := by
  unfold categoryDiagnostics memberReports memberReport
  rw [← List.flatMap_def]
  cases declaration.kind with
  | struct => rfl
  | _ => simp

/-- About a member without a category nothing is said. -/
theorem memberReport_eq_nil {member : Member} (h : member.category = none) (index : Nat) :
    declaration.memberReport mode member index = [] := by
  unfold memberReport
  split
  · simp [memberDiagnostics, h]
  · rfl

/-- About the members of what is no struct nothing is said. -/
theorem memberReport_eq_nil_of_ne (other : declaration.kind ≠ .struct) (member : Member)
    (index : Nat) : declaration.memberReport mode member index = [] := by
  unfold memberReport
  split
  · contradiction
  · rfl

/-- An edit that is suggested for a member is to take its category away. -/
theorem member_of_fix {member : Member} {index : Nat} {x : Diagnostic} {name : String}
    (hx : x ∈ declaration.memberReport mode member index)
    (hfix : x.fix? = some (.removeCategory name)) : name = member.displayName index := by
  have hmember : x.location.member = some (member.displayName index) := by
    unfold memberReport at hx
    split at hx
    · exact congrArg Location.member (located_of_mem_memberDiagnostics hx).1
    · cases hx
  have hnamed : x.location.member.map Edit.removeCategory = some (.removeCategory name) := by
    obtain ⟨problem, location⟩ := x
    cases problem with
    | redundantCategory => exact hfix
    | fault fault =>
      cases fault with
      | notStored => exact hfix
      | _ => cases hfix
  rw [hmember] at hnamed
  cases hnamed
  rfl

/-- The declaration without the category of the member at a position. -/
def withoutCategory (declaration : Declaration) (index : Nat) : Declaration :=
  { declaration with members := declaration.members.modify index Member.withoutCategory }

/-- Without the category of a member, nothing is reported on the member, and the same as before on all
others. -/
theorem memberReports_withoutCategory (declaration : Declaration) (mode : Mode) (index : Nat) :
    (declaration.withoutCategory index).memberReports mode =
      (declaration.memberReports mode).set index [] := by
  have hreport : ∀ (member : Member) (i : Nat),
      (declaration.withoutCategory index).memberReport mode member i =
        declaration.memberReport mode member i := fun _ _ => rfl
  have hnone : ∀ member : Member, declaration.memberReport mode member.withoutCategory index = [] :=
    fun member => memberReport_eq_nil rfl index
  apply List.ext_getElem?
  intro i
  rw [getElem?_memberReports, withoutCategory, List.getElem?_modify]
  by_cases hi : index = i
  · subst hi
    rw [List.getElem?_set_self', getElem?_memberReports]
    cases declaration.members[index]? with
    | none => rfl
    | some member =>
      show some (declaration.memberReport mode (if index = index then member.withoutCategory
        else member) index) = some []
      rw [if_pos rfl, hnone]
  · rw [List.getElem?_set_ne hi, getElem?_memberReports]
    simp [hi, ← hreport, withoutCategory]

/-! ## Redundant categories -/

/-- The declaration without the categories that are reported to have no effect in fixed mode. -/
def tidied (declaration : Declaration) : Declaration :=
  { declaration with
    members := declaration.members.zipIdx.map fun (member, index) =>
      if .redundantCategory declaration.name (member.displayName index) ∈
          declaration.memberReport .fixed member index
      then member.withoutCategory else member }

/-- In fixed mode, nothing is wrong with the categories of a declaration. -/
def Sound (declaration : Declaration) : Prop :=
  ∀ x ∈ declaration.categoryDiagnostics .fixed, x.isError = false

instance (declaration : Declaration) : Decidable declaration.Sound :=
  inferInstanceAs (Decidable (∀ x ∈ declaration.categoryDiagnostics .fixed, x.isError = false))

/-- If nothing is wrong with the category of a member in fixed mode, it can be read, and the one
thing to be said about it is that it has no effect. -/
theorem memberDiagnostics_of_sound {type : String} {member : Member} {index : Nat}
    (sound : ∀ x ∈ memberDiagnostics type .fixed member index, x.isError = false) :
    (∃ category, readCategory? member.category = .ok category) ∧ (member.category = none ∨
      memberDiagnostics type .fixed member index =
        [.redundantCategory type (member.displayName index)]) := by
  cases htoken : member.category with
  | none => exact ⟨⟨none, rfl⟩, .inl rfl⟩
  | some token =>
    have hfaultless : ∀ fault,
        Diagnostic.ofFault fault ⟨type, some (member.displayName index)⟩ ∉
          memberDiagnostics type .fixed member index := by
      intro fault hmem
      cases sound _ hmem
    by_cases hstored : member.accessor.isStored = true
    · cases hcategory : readCategory token with
      | error fault =>
        refine absurd ?_ (hfaultless fault)
        simp [memberDiagnostics, htoken, hstored, hcategory]
      | ok category =>
        refine ⟨⟨some category, map_eq_ok_iff.mpr ⟨category, hcategory, rfl⟩⟩, .inr ?_⟩
        cases hmisfit : misfit? category member with
        | none => simp [memberDiagnostics, htoken, hstored, hcategory, hmisfit]
        | some fault =>
          refine absurd ?_ (hfaultless fault)
          simp [memberDiagnostics, htoken, hstored, hcategory, hmisfit]
    · refine absurd ?_ (hfaultless .notStored)
      simp [memberDiagnostics, htoken, hstored]

/-- About no member of a sound struct an error is said in the fixed mode. -/
theorem Sound.member (sound : declaration.Sound) (struct : declaration.kind = .struct)
    {member : Member} {index : Nat} (h : (member, index) ∈ declaration.members.zipIdx) :
    ∀ x ∈ memberDiagnostics declaration.name .fixed member index, x.isError = false := by
  intro x hx
  refine sound x ?_
  rw [categoryDiagnostics, struct]
  exact List.mem_flatMap.mpr ⟨(member, index), h, hx⟩

/-- All that is said about categories with which nothing is wrong is that they have no effect. -/
theorem Sound.withoutRedundant_eq_nil (sound : declaration.Sound) :
    Diagnostic.withoutRedundant declaration.name (declaration.categoryDiagnostics .fixed) = [] := by
  refine List.filter_eq_nil_iff.mpr fun x hx => ?_
  unfold categoryDiagnostics at hx
  split at hx
  · rename_i struct
    obtain ⟨⟨member, index⟩, hmember, hx⟩ := List.mem_flatMap.mp hx
    obtain ⟨_, hnone | hreport⟩ := memberDiagnostics_of_sound (sound.member struct hmember)
    · simp [memberDiagnostics, hnone] at hx
    · dsimp only at hx
      rw [hreport] at hx
      obtain rfl := List.mem_singleton.mp hx
      simp [Diagnostic.isRedundantOn, Diagnostic.redundantCategory]
  · cases hx

/-- About the categories of a sound declaration no error is said in the fixed mode. -/
theorem Sound.any_isError (sound : declaration.Sound) :
    (declaration.categoryDiagnostics .fixed).any Diagnostic.isError = false := by
  rw [List.any_eq_false]
  intro x hx
  simp [sound x hx]

/-- Outside structs nothing is said about categories, and they are left as they are. -/
theorem tidied_eq_self (other : declaration.kind ≠ .struct) : declaration.tidied = declaration := by
  have hreport : ∀ member index, declaration.memberReport .fixed member index = [] :=
    memberReport_eq_nil_of_ne other
  unfold tidied
  simp [hreport]

/-- If nothing is wrong with the categories of a struct, all of them have no effect. -/
theorem members_tidied (sound : declaration.Sound) (struct : declaration.kind = .struct) :
    declaration.tidied.members = declaration.members.map Member.withoutCategory := by
  have hmember : ∀ entry ∈ declaration.members.zipIdx,
      (if .redundantCategory declaration.name (entry.1.displayName entry.2) ∈
          declaration.memberReport .fixed entry.1 entry.2
        then entry.1.withoutCategory else entry.1) = entry.1.withoutCategory := by
    rintro ⟨member, index⟩ hentry
    have hreport : declaration.memberReport .fixed member index =
        memberDiagnostics declaration.name .fixed member index := by
      unfold memberReport
      rw [struct]
    obtain ⟨_, hnone | hredundant⟩ := memberDiagnostics_of_sound (sound.member struct hentry)
    · have hself : member.withoutCategory = member := by
        rw [Member.withoutCategory, ← hnone]
      rw [hself, ite_self]
    · rw [hreport, hredundant, if_pos (List.mem_singleton_self _)]
  show (declaration.members.zipIdx.map fun entry => _) = _
  rw [List.map_congr_left hmember]
  conv_rhs => rw [← List.zipIdx_map_fst 0 declaration.members, List.map_map]
  rfl

/-- Nothing is said about the categories of a declaration that has been tidied up. -/
theorem categoryDiagnostics_tidied (sound : declaration.Sound) (mode : Mode) :
    declaration.tidied.categoryDiagnostics mode = [] := by
  rw [categoryDiagnostics_eq, List.flatten_eq_nil_iff]
  intro report hreport
  obtain ⟨⟨member, index⟩, hentry, rfl⟩ := List.mem_map.mp hreport
  dsimp only
  by_cases struct : declaration.kind = .struct
  · have hmember := List.fst_mem_of_mem_zipIdx hentry
    rw [members_tidied sound struct] at hmember
    obtain ⟨member, _, rfl⟩ := List.mem_map.mp hmember
    exact memberReport_eq_nil rfl index
  · exact memberReport_eq_nil_of_ne struct member index

/-- The shape of a declaration that has been tidied up is the same, but for categories that fixed mode
does not look at. If it has none, it had none before, for the same reason. -/
theorem shape_tidied (sound : declaration.Sound) :
    SameWay (Shape.Related (Parameter.Recategorized .fixed)) declaration.shape
      declaration.tidied.shape := by
  -- Outside structs the declaration is left as it is.
  by_cases struct : declaration.kind = .struct
  · have hstruct : declaration.tidied.kind = .struct := struct
    rw [shape_eq_structShape struct, shape_eq_structShape hstruct]
    refine structShape_sameWay rfl ?_ ?_
    · show Option.Rel _ (widest? declaration.constructors) (widest? declaration.constructors)
      have hslots : ∀ c : Constructor, c.ReadAlike (Parameter.Recategorized .fixed) c :=
        fun c => ⟨rfl, .refl (fun _ => List.forall₂_same.mpr fun q _ => .refl .fixed q) _⟩
      cases widest? declaration.constructors with
      | none => exact .none
      | some c => exact .some (hslots c)
    · rw [members_tidied sound struct, List.forall₂_map_right_iff, List.forall₂_same]
      intro member hmember
      obtain ⟨index, hindex⟩ := List.mem_iff_getElem?.mp hmember
      have hentry := List.mk_mem_zipIdx_iff_getElem?.mpr hindex
      exact Member.readAlike_withoutCategory
        (memberDiagnostics_of_sound (sound.member struct hentry)).1
  · rw [tidied_eq_self struct]
    exact .refl (Shape.related_recategorized_refl .fixed) _

end Declaration

end Specimen
