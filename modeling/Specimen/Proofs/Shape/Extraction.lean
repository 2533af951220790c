import Specimen.Proofs.Diagnostic.Phase
import Specimen.Proofs.Shape
import Specimen.Proofs.Traversal
import Specimen.Shape.Extraction

/-!
# What shapes are made of

A shape has the name of its declaration, an enum among them has a case, and every type in a shape
has been read from the text of a slot or a member (`Declaration.shaped_of_shape`). Where there is no
shape, the reason is one that the checks report (`Declaration.phase_of_shape`).

Two structs whose members and constructors are read in the same way have shapes that are related, or
both have none, for the same reason (`Declaration.structShape_sameWay`).
-/

namespace Specimen

/-! ## Reading -/

theorem readType_eq_ok_iff {text : String} {type : TypeRef} :
    readType text = .ok type ↔ TypeRef.read text = .ok type := by
  unfold readType
  cases TypeRef.read text <;> simp

theorem phase_of_readType {text : String} {fault : Fault} (h : readType text = .error fault) :
    fault.phase = .checking := by
  unfold readType at h
  split at h
  · cases h
  · cases h
    rfl

theorem readCategory_eq_ok_iff {token : String} {category : Category} :
    readCategory token = .ok category ↔ Category.read token = .ok category := by
  unfold readCategory
  cases Category.read token <;> simp

theorem phase_of_readCategory {token : String} {fault : Fault}
    (h : readCategory token = .error fault) : fault.phase = .checking := by
  unfold readCategory at h
  split at h
  · cases h
  · cases h
    rfl

/-- A token is read as its category, and no token as none. -/
theorem readCategory?_eq_ok_iff {token? : Option String} {category? : Option Category} :
    readCategory? token? = .ok category? ↔
      Option.Rel (fun token category => Category.read token = .ok category) token? category? := by
  cases token? with
  | none => cases category? <;> simp [readCategory?]
  | some token =>
    rw [readCategory?, map_eq_ok_iff]
    cases category? <;> simp [readCategory_eq_ok_iff]

theorem phase_of_readCategory? {token : Option String} {fault : Fault}
    (h : readCategory? token = .error fault) : fault.phase = .checking := by
  cases token with
  | none => cases h
  | some token => exact phase_of_readCategory (map_eq_error_iff.mp h)

theorem foundAt_eq_ok_iff {α : Type} {member : String} {result : Except Fault α} {a : α} :
    foundAt member result = .ok a ↔ result = .ok a := by
  cases result <;> simp [foundAt, Except.mapError]

/-- A fault that is found at a member is an error with the name of the member. -/
theorem foundAt_eq_error_iff {α : Type} {member : String} {result : Except Fault α}
    {error : ShapeError} :
    foundAt member result = .error error ↔
      ∃ fault, result = .error fault ∧ error = ⟨some member, fault⟩ := by
  cases result <;> simp [foundAt, Except.mapError, eq_comm]

/-- Results that go the same way do so at a member. -/
theorem foundAt_sameWay {α β : Type} {R : α → β → Prop} {x : Except Fault α} {y : Except Fault β}
    (member : String) (h : SameWay R x y) : SameWay R (foundAt member x) (foundAt member y) := by
  cases h with
  | ok h => exact .ok h
  | error fault => exact .error (ShapeError.mk member fault)

/-! ## Parameters -/

/-- A slot is read as a parameter: the label stays, the type is that of the text, and there is no
category. -/
structure Slot.ReadAs (slot : Slot) (p : Parameter) : Prop where
  name_eq : p.name = slot.name
  type_eq : TypeRef.read slot.type = .ok p.type
  category_eq : p.category = none

/-- A member is read as a parameter: the label stays, the type is that of the text, and the category
that of the token, if there is one. -/
structure Member.ReadAs (member : Member) (p : Parameter) : Prop where
  name_eq : p.name = member.name
  type_eq : TypeRef.read member.type = .ok p.type
  category_rel : Option.Rel (fun token category => Category.read token = .ok category)
    member.category p.category

/-- A slot becomes the parameter that it is read as. -/
theorem Slot.parameter_eq_ok_iff {owner : String} {slot : Slot} {p : Parameter} :
    slot.parameter owner = .ok p ↔ slot.ReadAs p := by
  constructor
  · intro h
    obtain ⟨type, htype, rfl⟩ := map_eq_ok_iff.mp h
    exact ⟨rfl, readType_eq_ok_iff.mp (foundAt_eq_ok_iff.mp htype), rfl⟩
  · rintro ⟨hname, htype, hcategory⟩
    refine map_eq_ok_iff.mpr ⟨p.type, foundAt_eq_ok_iff.mpr (readType_eq_ok_iff.mpr htype), ?_⟩
    rw [← hname, ← hcategory]

/-- What is wrong with a slot is found while checking. -/
theorem Slot.phase_of_parameter {owner : String} {slot : Slot} {error : ShapeError}
    (h : slot.parameter owner = .error error) : error.fault.phase = .checking := by
  obtain ⟨fault, hfault, rfl⟩ := foundAt_eq_error_iff.mp (map_eq_error_iff.mp h)
  exact phase_of_readType hfault

/-- A member becomes the parameter that it is read as. -/
theorem Member.parameter_eq_ok_iff {member : Member} {index : Nat} {p : Parameter} :
    member.parameter index = .ok p ↔ member.ReadAs p := by
  constructor
  · intro h
    obtain ⟨type, htype, hrest⟩ := bind_eq_ok_iff.mp (foundAt_eq_ok_iff.mp h)
    obtain ⟨category, hcategory, hpure⟩ := bind_eq_ok_iff.mp hrest
    obtain rfl := Except.ok.inj hpure
    exact ⟨rfl, readType_eq_ok_iff.mp htype, readCategory?_eq_ok_iff.mp hcategory⟩
  · rintro ⟨hname, htype, hcategory⟩
    refine foundAt_eq_ok_iff.mpr (bind_eq_ok_iff.mpr ⟨p.type, readType_eq_ok_iff.mpr htype, ?_⟩)
    refine bind_eq_ok_iff.mpr ⟨p.category, readCategory?_eq_ok_iff.mpr hcategory, ?_⟩
    rw [← hname]
    rfl

/-- The category of a parameter is read from the token of its member. -/
theorem Member.ReadAs.exists_token {member : Member} {p : Parameter} (h : member.ReadAs p)
    {category : Category} (hp : p.category = some category) :
    ∃ token, member.category = some token ∧ Category.read token = .ok category := by
  have hrel := h.category_rel
  rw [hp] at hrel
  generalize member.category = token? at hrel ⊢
  cases hrel with
  | some hread => exact ⟨_, rfl, hread⟩

/-- What is wrong with a member is found while checking. -/
theorem Member.phase_of_parameter {member : Member} {index : Nat} {error : ShapeError}
    (h : member.parameter index = .error error) : error.fault.phase = .checking := by
  obtain ⟨fault, hfault, rfl⟩ := foundAt_eq_error_iff.mp h
  rcases bind_eq_error_iff.mp hfault with htype | ⟨type, _, hrest⟩
  · exact phase_of_readType htype
  · rcases bind_eq_error_iff.mp hrest with hcategory | ⟨_, _, hpure⟩
    · exact phase_of_readCategory? hcategory
    · cases hpure

/-- Two members take part in construction together, and are read in the same way at every position. -/
structure Member.ReadAlike (W : Parameter → Parameter → Prop) (member member' : Member) : Prop where
  name_eq : member'.name = member.name
  accessor_eq : member'.accessor = member.accessor
  parameter : ∀ index, SameWay W (member.parameter index) (member'.parameter index)

/-- Two constructors have the same name, and their parameters are read in the same way. -/
structure Constructor.ReadAlike (W : Parameter → Parameter → Prop) (c c' : Constructor) : Prop where
  name_eq : c'.name = c.name
  parameters : SameWay (List.Forall₂ W) (c.parameters.mapM (Slot.parameter c.name))
    (c'.parameters.mapM (Slot.parameter c'.name))

namespace Declaration

/-! ## Shapes -/

/-- Every type in the payload of a case is read from a text. -/
theorem read_of_caseShape {c : Case} {shape : CaseShape} (h : caseShape c = .ok shape)
    {p : Parameter} (hp : p ∈ shape.payload) : ∃ text, TypeRef.read text = .ok p.type := by
  obtain ⟨payload, hpayload, rfl⟩ := map_eq_ok_iff.mp h
  obtain ⟨slot, _, hslot⟩ := exists_of_mem_mapM hpayload hp
  exact ⟨slot.type, (Slot.parameter_eq_ok_iff.mp hslot).type_eq⟩

/-- What is wrong with a case is found while checking. -/
theorem phase_of_caseShape {c : Case} {error : ShapeError} (h : caseShape c = .error error) :
    error.fault.phase = .checking := by
  obtain ⟨slot, _, hslot⟩ := exists_of_mapM_eq_error (map_eq_error_iff.mp h)
  exact Slot.phase_of_parameter hslot

/-- What holds of the shape of a declaration. -/
structure Shaped (declaration : Declaration) (shape : Shape) : Prop where
  name_eq : shape.name = declaration.name
  /-- An enum has a case. -/
  cases_ne_nil : ∀ name cases, shape = .enum name cases → cases ≠ []
  /-- Every type has been read from text. -/
  exists_read : ∀ p ∈ shape.parameters, ∃ text, TypeRef.read text = .ok p.type

variable {declaration : Declaration} {shape : Shape} {error : ShapeError}

/-- The shape of an enum is as the shape of a declaration should be. -/
theorem shaped_of_enumShape (h : declaration.enumShape = .ok shape) : declaration.Shaped shape := by
  unfold enumShape at h
  split at h
  · cases h
  · rename_i hcases
    obtain ⟨cases, htraverse, rfl⟩ := map_eq_ok_iff.mp h
    refine ⟨rfl, ?_, ?_⟩
    · rintro _ _ heq rfl
      obtain ⟨_, rfl⟩ := Shape.enum.inj heq
      have hlength := (mapM_eq_ok_iff.mp htraverse).length_eq
      exact hcases (List.isEmpty_iff_length_eq_zero.mpr hlength)
    · intro p hp
      obtain ⟨c, hc, hp⟩ := List.mem_flatMap.mp hp
      obtain ⟨_, _, hcase⟩ := exists_of_mem_mapM htraverse hc
      exact read_of_caseShape hcase hp

/-- The shape of a struct is as the shape of a declaration should be. -/
theorem shaped_of_structShape (h : declaration.structShape = .ok shape) :
    declaration.Shaped shape := by
  unfold structShape at h
  split at h
  · obtain ⟨parameters, htraverse, rfl⟩ := map_eq_ok_iff.mp h
    refine ⟨rfl, fun _ _ heq => (Shape.noConfusion heq : _), fun p hp => ?_⟩
    obtain ⟨slot, _, hslot⟩ := exists_of_mem_mapM htraverse hp
    exact ⟨slot.type, (Slot.parameter_eq_ok_iff.mp hslot).type_eq⟩
  · obtain ⟨parameters, htraverse, rfl⟩ := map_eq_ok_iff.mp h
    refine ⟨rfl, fun _ _ heq => (Shape.noConfusion heq : _), fun p hp => ?_⟩
    obtain ⟨⟨member, index⟩, _, hmember⟩ := exists_of_mem_mapM htraverse hp
    exact ⟨member.type, (Member.parameter_eq_ok_iff.mp hmember).type_eq⟩

/-- Enums and structs have shapes of their own. -/
theorem shape_eq_ok (h : declaration.shape = .ok shape) :
    declaration.kind = .enum ∧ declaration.enumShape = .ok shape ∨
      declaration.kind = .struct ∧ declaration.structShape = .ok shape := by
  unfold Declaration.shape checkKind at h
  cases hkind : declaration.kind <;> rw [hkind] at h
  case enum => exact .inl ⟨rfl, h⟩
  case struct => exact .inr ⟨rfl, h⟩
  all_goals cases h

/-- A shape that is made from members belongs to a struct, and its parameters are stored members. -/
theorem exists_member_of_fields {name : String} {tuple : Bool} {parameters : List Parameter}
    (h : declaration.shape = .ok (.struct name (.fields tuple) parameters)) :
    declaration.kind = .struct ∧ ∀ p ∈ parameters, ∃ member ∈ declaration.storedMembers,
      ∃ index, member.parameter index = .ok p := by
  rcases shape_eq_ok h with ⟨_, henum⟩ | ⟨hkind, hstruct⟩
  · unfold enumShape at henum
    split at henum
    · cases henum
    · obtain ⟨_, _, heq⟩ := map_eq_ok_iff.mp henum
      cases heq
  · refine ⟨hkind, fun p hp => ?_⟩
    unfold structShape at hstruct
    split at hstruct
    · obtain ⟨_, _, heq⟩ := map_eq_ok_iff.mp hstruct
      cases heq
    · obtain ⟨_, htraverse, heq⟩ := map_eq_ok_iff.mp hstruct
      obtain ⟨_, _, rfl⟩ := Shape.struct.inj heq
      obtain ⟨⟨member, index⟩, hmember, hparameter⟩ := exists_of_mem_mapM htraverse hp
      exact ⟨member, List.fst_mem_of_mem_zipIdx hmember, index, hparameter⟩

/-- Constructors and cases give no categories to their parameters. -/
theorem category_eq_none (h : declaration.shape = .ok shape)
    (other : ∀ name tuple parameters, shape ≠ .struct name (.fields tuple) parameters)
    {p : Parameter} (hp : p ∈ shape.parameters) : p.category = none := by
  rcases shape_eq_ok h with ⟨_, henum⟩ | ⟨_, hstruct⟩
  · unfold enumShape at henum
    split at henum
    · cases henum
    · obtain ⟨cases, htraverse, rfl⟩ := map_eq_ok_iff.mp henum
      obtain ⟨c, hc, hp⟩ := List.mem_flatMap.mp hp
      obtain ⟨_, _, hcase⟩ := exists_of_mem_mapM htraverse hc
      obtain ⟨payload, hpayload, rfl⟩ := map_eq_ok_iff.mp hcase
      obtain ⟨_, _, hslot⟩ := exists_of_mem_mapM hpayload hp
      exact (Slot.parameter_eq_ok_iff.mp hslot).category_eq
  · unfold structShape at hstruct
    split at hstruct
    · obtain ⟨parameters, htraverse, rfl⟩ := map_eq_ok_iff.mp hstruct
      obtain ⟨_, _, hslot⟩ := exists_of_mem_mapM htraverse hp
      exact (Slot.parameter_eq_ok_iff.mp hslot).category_eq
    · obtain ⟨parameters, _, rfl⟩ := map_eq_ok_iff.mp hstruct
      exact absurd rfl (other _ _ _)

/-- The shape of a declaration has its name, its types come from text, and an enum has a case. -/
theorem shaped_of_shape (h : declaration.shape = .ok shape) : declaration.Shaped shape := by
  unfold Declaration.shape at h
  split at h
  · cases h
  · split at h
    · exact shaped_of_enumShape h
    · exact shaped_of_structShape h

theorem phase_of_enumShape (h : declaration.enumShape = .error error) :
    error.fault.phase = .checking := by
  unfold enumShape at h
  split at h
  · cases h
    rfl
  · obtain ⟨c, _, hc⟩ := exists_of_mapM_eq_error (map_eq_error_iff.mp h)
    exact phase_of_caseShape hc

theorem phase_of_structShape (h : declaration.structShape = .error error) :
    error.fault.phase = .checking := by
  unfold structShape at h
  split at h
  · obtain ⟨slot, _, hslot⟩ := exists_of_mapM_eq_error (map_eq_error_iff.mp h)
    exact Slot.phase_of_parameter hslot
  · obtain ⟨⟨member, index⟩, _, hmember⟩ := exists_of_mapM_eq_error (map_eq_error_iff.mp h)
    exact Member.phase_of_parameter hmember

/-- A kind that is not sampled is found while checking. -/
theorem phase_of_checkKind {fault : Fault} (h : declaration.checkKind = .error fault) :
    fault.phase = .checking := by
  unfold checkKind at h
  split at h
  · cases h
  · cases h
  · cases h
    rfl

/-- If a declaration has no shape, the checks tell why. -/
theorem phase_of_shape (h : declaration.shape = .error error) : error.fault.phase = .checking := by
  unfold Declaration.shape at h
  split at h
  · rename_i hkind
    cases h
    exact phase_of_checkKind hkind
  · split at h
    · exact phase_of_enumShape h
    · exact phase_of_structShape h

/-- The shape of a struct is that of its source of samples. -/
theorem shape_eq_structShape (struct : declaration.kind = .struct) :
    declaration.shape = declaration.structShape := by
  simp [Declaration.shape, checkKind, struct]

/-! ## Categories on members -/

/-- The diagnostics of a member are at the member, under the name it has at its position, and belong to
the phase of checking. -/
theorem located_of_mem_memberDiagnostics {type : String} {mode : Mode} {member : Member}
    {index : Nat} {x : Diagnostic} (h : x ∈ memberDiagnostics type mode member index) :
    x.location = ⟨type, some (member.displayName index)⟩ ∧ x.phase = .checking := by
  unfold memberDiagnostics at h
  split at h
  · cases h
  · dsimp only at h
    split at h
    · obtain rfl := List.mem_singleton.mp h
      exact ⟨rfl, rfl⟩
    · split at h
      · rename_i fault hfault
        obtain rfl := List.mem_singleton.mp h
        exact ⟨rfl, phase_of_readCategory hfault⟩
      · rcases List.mem_append.mp h with h | h
        · obtain ⟨fault, hfault, rfl⟩ := by simpa using h
          refine ⟨rfl, ?_⟩
          unfold misfit? at hfault
          split at hfault
          · cases hfault
          · split at hfault
            · cases hfault
            · cases hfault
              rfl
        · cases mode with
          | fixed =>
            obtain rfl := List.mem_singleton.mp h
            exact ⟨rfl, rfl⟩
          | randomized => cases h

/-! ## Two structs -/

variable {W : Parameter → Parameter → Prop} {declaration' : Declaration}

/-- Structs whose members and widest constructors are read in the same way have related shapes, or
both have none, for the same reason. -/
theorem structShape_sameWay (name_eq : declaration'.name = declaration.name)
    (constructors : Option.Rel (Constructor.ReadAlike W) (widest? declaration.constructors)
      (widest? declaration'.constructors))
    (members : List.Forall₂ (Member.ReadAlike W) declaration.members declaration'.members) :
    SameWay (Shape.Related W) declaration.structShape declaration'.structShape := by
  have hstored : List.Forall₂ (Member.ReadAlike W) declaration.storedMembers
      declaration'.storedMembers := by
    refine List.rel_filter (fun member member' hmember => ?_) members
    simp only [hmember.accessor_eq]
  unfold structShape
  rw [name_eq]
  generalize widest? declaration.constructors = c?, widest? declaration'.constructors = c'?
    at constructors
  cases constructors with
  | some hc =>
    dsimp only
    rw [hc.name_eq]
    have hslots := hc.parameters
    rw [hc.name_eq] at hslots
    exact hslots.map fun _ _ hparameters => .struct hparameters
  | none =>
    have hunnamed : (declaration'.storedMembers.all fun member => member.name.isNone) =
        declaration.storedMembers.all fun member => member.name.isNone :=
      forall₂_all hstored fun member member' hmember => by rw [hmember.name_eq]
    dsimp only
    rw [forall₂_isEmpty hstored, hunnamed]
    refine (sameWay_mapM (forall₂_zipIdx hstored 0) fun entry entry' hentry => ?_).map
      fun _ _ hparameters => .struct hparameters
    obtain ⟨hmember, hindex⟩ := hentry
    rw [← hindex]
    exact hmember.parameter entry.2

end Declaration

end Specimen
