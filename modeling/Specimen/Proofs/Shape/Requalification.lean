import Specimen.Proofs.Shape
import Specimen.Proofs.Shape.Extraction
import Specimen.TypeKey

/-!
# Paths in front of references

A reference may put a path in front of the name that it refers to. Two types that differ in such paths
alone have references with the same keys (`TypeRef.Requalified`), and the same goes for the types in
two declarations (`Declaration.Requalified`), of which the text is compared where it cannot be read.

What is made of such declarations before their references are looked up does not depend on the paths:
both have no shape, for the same reason, or both have shapes that differ in paths alone
(`Declaration.shape_requalified`).
-/

namespace Specimen

/-! ## Types -/

/-- Two paths refer to the same name. -/
def SameKey (path path' : String) : Prop := typeKey path' = typeKey path

instance (path path' : String) : Decidable (SameKey path path') :=
  inferInstanceAs (Decidable (typeKey path' = typeKey path))

/-- Two types differ in nothing but the paths in front of the names that they refer to. -/
inductive TypeRef.Requalified : TypeRef → TypeRef → Prop
  | scalar (kind : ScalarKind) : Requalified (.scalar kind) (.scalar kind)
  | array {element element' : TypeRef} (h : Requalified element element') :
      Requalified (.array element) (.array element')
  | mapping {kind : MapKind} {key key' value value' : TypeRef} (hkey : Requalified key key')
      (hvalue : Requalified value value') :
      Requalified (.mapping kind key value) (.mapping kind key' value')
  | reference {path path' : String} (h : SameKey path path') :
      Requalified (.reference path) (.reference path')

/-- Two texts are the same, or they are read as types that differ in nothing but the paths in front of
the names that they refer to. -/
def SameType (text text' : String) : Prop :=
  text' = text ∨ ∃ type type', TypeRef.read text = .ok type ∧ TypeRef.read text' = .ok type' ∧
    type.Requalified type'

namespace TypeRef

variable {type type' : TypeRef}

theorem Requalified.refl : (type : TypeRef) → type.Requalified type
  | .scalar kind => .scalar kind
  | .array element => .array (refl element)
  | .mapping _ key value => .mapping (refl key) (refl value)
  | .reference _ => .reference rfl

/-- The references are in the same places. -/
theorem Requalified.references (h : type.Requalified type') :
    List.Forall₂ SameKey type.references type'.references := by
  induction h with
  | scalar kind => exact .nil
  | array _ ih => exact ih
  | mapping _ _ ihKey ihValue => exact List.rel_append ihKey ihValue
  | reference h => exact .cons h .nil

/-- The leaves of both types differ in nothing but qualifications. -/
theorem Requalified.leaf (h : type.Requalified type') : type.leaf.Requalified type'.leaf := by
  induction h with
  | scalar kind => exact .scalar kind
  | array _ ih => exact ih
  | mapping _ _ _ ihValue => exact ihValue
  | reference h => exact .reference h

/-- Both types are the same scalar or none. -/
theorem Requalified.scalar?_eq (h : type.Requalified type') : type'.scalar? = type.scalar? := by
  cases h <;> rfl

/-- The innermost types are written the same, but for a path in front. -/
theorem Requalified.text_leaf (h : type.Requalified type') :
    SameKey type.leaf.text type'.leaf.text := by
  have hleaf := h.leaf
  rcases type.leaf_eq with ⟨kind, heq⟩ | ⟨path, heq⟩ <;> rw [heq] at hleaf ⊢
  · generalize type'.leaf = leaf' at hleaf
    cases hleaf
    rfl
  · generalize type'.leaf = leaf' at hleaf
    cases hleaf with
    | reference h => exact h

end TypeRef

/-! ## Declarations -/

/-- Two members differ in nothing but paths in their types. -/
structure Member.Requalified (member member' : Member) : Prop where
  name_eq : member'.name = member.name
  type : SameType member.type member'.type
  accessor_eq : member'.accessor = member.accessor
  category_eq : member'.category = member.category

/-- Two slots differ in nothing but paths in their types. -/
structure Slot.Requalified (slot slot' : Slot) : Prop where
  name_eq : slot'.name = slot.name
  type : SameType slot.type slot'.type

/-- Two constructors differ in nothing but paths in the types of their parameters. -/
structure Constructor.Requalified (c c' : Constructor) : Prop where
  name_eq : c'.name = c.name
  parameters : List.Forall₂ Slot.Requalified c.parameters c'.parameters

/-- Two cases differ in nothing but paths in the types of their payloads. -/
structure Case.Requalified (c c' : Case) : Prop where
  name_eq : c'.name = c.name
  payload : List.Forall₂ Slot.Requalified c.payload c'.payload

/-- Two declarations differ in nothing but paths in their types. -/
structure Declaration.Requalified (declaration declaration' : Declaration) : Prop where
  name_eq : declaration'.name = declaration.name
  kind_eq : declaration'.kind = declaration.kind
  sample_eq : declaration'.sample = declaration.sample
  members : List.Forall₂ Member.Requalified declaration.members declaration'.members
  constructors :
    List.Forall₂ Constructor.Requalified declaration.constructors declaration'.constructors
  cases : List.Forall₂ Case.Requalified declaration.cases declaration'.cases

theorem Slot.forall₂_requalified_refl (slots : List Slot) :
    List.Forall₂ Slot.Requalified slots slots :=
  List.forall₂_same.mpr fun _ _ => ⟨rfl, .inl rfl⟩

theorem Declaration.Requalified.refl (declaration : Declaration) :
    declaration.Requalified declaration where
  name_eq := rfl
  kind_eq := rfl
  sample_eq := rfl
  members := List.forall₂_same.mpr fun _ _ => ⟨rfl, .inl rfl, rfl, rfl⟩
  constructors := List.forall₂_same.mpr fun c _ => ⟨rfl, Slot.forall₂_requalified_refl c.parameters⟩
  cases := List.forall₂_same.mpr fun c _ => ⟨rfl, Slot.forall₂_requalified_refl c.payload⟩

/-- Two parameters differ in nothing but paths in their types. -/
structure Parameter.Requalified (p p' : Parameter) : Prop where
  name_eq : p'.name = p.name
  type : p.type.Requalified p'.type
  category_eq : p'.category = p.category

/-! ## Shapes -/

/-- Texts of one type with other qualifications are read as such types, or are both refused in the same way.
-/
theorem readType_requalified {text text' : String} (h : SameType text text') :
    SameWay TypeRef.Requalified (readType text) (readType text') := by
  unfold readType
  rcases h with rfl | ⟨type, type', htype, htype', hsame⟩
  · cases TypeRef.read text' with
    | ok type => exact .ok (.refl type)
    | error _ => exact .error _
  · rw [htype, htype']
    exact .ok hsame

/-- Slots with other qualifications become parameters with other qualifications, or have the same error. -/
theorem Slot.parameter_requalified (owner : String) {slot slot' : Slot}
    (h : slot.Requalified slot') :
    SameWay Parameter.Requalified (slot.parameter owner) (slot'.parameter owner) := by
  unfold parameter
  have htype := foundAt_sameWay owner (readType_requalified h.type)
  exact htype.map (S := Parameter.Requalified) fun type type' htype => ⟨h.name_eq, htype, rfl⟩

/-- A member is shown under the same name with another qualification. -/
theorem Member.displayName_eq {member member' : Member} (h : member.Requalified member')
    (index : Nat) : member'.displayName index = member.displayName index := by
  rw [displayName, displayName, h.name_eq]

/-- Members with other qualifications become parameters with other qualifications, or have the same error.
-/
theorem Member.parameter_requalified {member member' : Member} (h : member.Requalified member')
    (index : Nat) :
    SameWay Parameter.Requalified (member.parameter index) (member'.parameter index) := by
  unfold parameter
  rw [displayName_eq h, h.category_eq]
  refine foundAt_sameWay _ ((readType_requalified h.type).bind fun type type' htype => ?_)
  cases readCategory? member.category with
  | ok category => exact .ok ⟨h.name_eq, htype, rfl⟩
  | error fault => exact .error fault

namespace Declaration

variable {declaration declaration' : Declaration}

/-- The same constructors have the most parameters. -/
theorem widest?_requalified {cs cs' : List Constructor}
    (h : List.Forall₂ Constructor.Requalified cs cs') :
    Option.Rel Constructor.Requalified (widest? cs) (widest? cs') := by
  cases h with
  | nil => exact .none
  | cons head rest =>
    refine .some (List.rel_foldl (fun best best' hbest c c' hc => ?_) head rest)
    rw [← hbest.parameters.length_eq, ← hc.parameters.length_eq]
    split
    · exact hbest
    · exact hc

/-- Cases with other qualifications have shapes with other qualifications, or the same error. -/
theorem caseShape_requalified {c c' : Case} (h : c.Requalified c') :
    SameWay (CaseShape.Related Parameter.Requalified) (caseShape c) (caseShape c') := by
  unfold caseShape
  rw [h.name_eq]
  have hpayload := sameWay_mapM h.payload fun _ _ hslot => Slot.parameter_requalified c.name hslot
  exact hpayload.map fun _ _ hpayload => ⟨rfl, hpayload⟩

/-- Enums with other qualifications have shapes with other qualifications, or the same error. -/
theorem enumShape_requalified (h : declaration.Requalified declaration') :
    SameWay (Shape.Related Parameter.Requalified) declaration.enumShape declaration'.enumShape := by
  unfold enumShape
  rw [forall₂_isEmpty h.cases, h.name_eq]
  split
  · exact .error _
  · exact (sameWay_mapM h.cases fun _ _ hc => caseShape_requalified hc).map fun _ _ hcases =>
      .enum hcases

/-- Structs with other qualifications have shapes with other qualifications, or the same error. -/
theorem structShape_requalified (h : declaration.Requalified declaration') :
    SameWay (Shape.Related Parameter.Requalified) declaration.structShape
      declaration'.structShape := by
  refine structShape_sameWay h.name_eq ?_ (h.members.imp fun member member' hmember => ?_)
  · have hwidest := widest?_requalified h.constructors
    generalize widest? declaration.constructors = c?, widest? declaration'.constructors = c'?
      at hwidest
    cases hwidest with
    | none => exact .none
    | @some c c' hc =>
      refine .some ⟨hc.name_eq, ?_⟩
      rw [hc.name_eq]
      exact sameWay_mapM hc.parameters fun _ _ hslot => Slot.parameter_requalified c.name hslot
  · exact ⟨hmember.name_eq, hmember.accessor_eq, Member.parameter_requalified hmember⟩

/-- Shapes do not depend on paths, except for the paths in them. -/
theorem shape_requalified (h : declaration.Requalified declaration') :
    SameWay (Shape.Related Parameter.Requalified) declaration.shape declaration'.shape := by
  unfold Declaration.shape checkKind
  rw [h.kind_eq, h.name_eq]
  cases declaration.kind with
  | enum => exact enumShape_requalified h
  | struct => exact structShape_requalified h
  | union | trait | typeAlias => exact .error _

end Declaration

end Specimen
