import Specimen.Proofs.Shape.Extraction
import Specimen.Proofs.Text.Numeral

/-!
# Which member is to blame

A member without a name is called by its position. The checks of categories count all members, computed
ones included. The shape of a struct is made of the members that take part in construction, and they are
counted among themselves when one of them cannot be read. So the two call a member by the same name
unless it has none of its own and stands behind a computed one (`Declaration.blame`), and then the
failure is reported at the position of another member (`Declaration.blame_misplaced`).
-/

namespace Specimen

/-! ## Positions -/

/-- Positions count a list from its front. -/
theorem zipIdx_eq_append_cons_iff {α : Type} {l : List α} {before after : List (α × Nat)} {a : α}
    {i : Nat} :
    l.zipIdx = before ++ (a, i) :: after ↔ ∃ first last, l = first ++ a :: last ∧
      before = first.zipIdx ∧ i = first.length ∧ after = last.zipIdx (first.length + 1) := by
  rw [List.zipIdx_eq_append_iff]
  constructor
  · rintro ⟨first, rest, rfl, rfl, hrest⟩
    obtain ⟨_, last, rfl, heq, rfl⟩ := List.zipIdx_eq_cons_iff.mp hrest.symm
    obtain ⟨rfl, rfl⟩ := Prod.mk.inj heq
    exact ⟨first, last, rfl, rfl, Nat.zero_add _, by rw [Nat.zero_add]⟩
  · rintro ⟨first, last, rfl, rfl, rfl, rfl⟩
    refine ⟨first, a :: last, rfl, rfl, ?_⟩
    rw [List.zipIdx_cons, Nat.zero_add]

/-! ## Members that cannot be read -/

namespace Member

variable {member : Member} {index : Nat}

/-- Whether a member takes part in construction. -/
def isStored (member : Member) : Bool := member.accessor.isStored

/-- A member is called the same at two positions exactly when it has a name or the positions are the
same. -/
theorem displayName_eq_iff {i j : Nat} :
    member.displayName i = member.displayName j ↔ member.name.isSome = true ∨ i = j := by
  unfold displayName
  cases member.name with
  | some name => simp
  | none =>
    have hdigits : toString i = toString j ↔ i = j := by
      constructor
      · intro h
        exact Text.decimal_injective (String.ofList_injective h)
      · intro h
        rw [h]
    show toString i = toString j ↔ false = true ∨ i = j
    rw [hdigits]
    simp

/-- Why a member cannot be read: for its type, or else for its category. -/
def fault? (member : Member) : Option Fault :=
  match readType member.type with
  | .error fault => some fault
  | .ok _ =>
    match readCategory? member.category with
    | .error fault => some fault
    | .ok _ => none

/-- A member that becomes no parameter is named together with what is wrong with it. -/
theorem parameter_eq_error_iff {error : ShapeError} :
    member.parameter index = .error error ↔
      ∃ fault, member.fault? = some fault ∧ error = ⟨some (member.displayName index), fault⟩ := by
  rw [parameter, foundAt_eq_error_iff]
  unfold fault?
  cases readType member.type with
  | error fault => simp [bind, Except.bind]
  | ok type =>
    cases readCategory? member.category with
    | error fault => simp [bind, Except.bind]
    | ok category => simp [bind, Except.bind, pure, Except.pure]

/-- A member becomes a parameter if and only if there is nothing wrong with it. -/
theorem exists_parameter_iff : (∃ p, member.parameter index = .ok p) ↔ member.fault? = none := by
  constructor
  · rintro ⟨p, hp⟩
    by_contra hsome
    obtain ⟨fault, hfault⟩ := Option.ne_none_iff_exists'.mp hsome
    have herror : member.parameter index = .error ⟨some (member.displayName index), fault⟩ :=
      parameter_eq_error_iff.mpr ⟨fault, hfault, rfl⟩
    rw [hp] at herror
    cases herror
  · intro hnone
    cases h : member.parameter index with
    | ok p => exact ⟨p, rfl⟩
    | error error =>
      obtain ⟨fault, hfault, _⟩ := parameter_eq_error_iff.mp h
      rw [hnone] at hfault
      cases hfault

end Member

namespace Declaration

variable {declaration : Declaration}

/-- A member is the first that takes part in construction and cannot be read; it stands behind
`before`. -/
structure Blames (declaration : Declaration) (before : List Member) (member : Member)
    (fault : Fault) : Prop where
  exists_after : ∃ after, declaration.members = before ++ member :: after
  isStored : member.isStored = true
  fault_eq : member.fault? = some fault
  earlier : ∀ m ∈ before, m.isStored = true → m.fault? = none

/-- The shape of a struct that is made from its members fails at the first member that cannot be read,
and calls it by its position among the members that take part in construction. -/
theorem structShape_eq_error_iff (plain : declaration.constructors = []) {error : ShapeError} :
    declaration.structShape = .error error ↔ ∃ before member fault,
      declaration.Blames before member fault ∧
        error = ⟨some (member.displayName (before.countP Member.isStored)), fault⟩ := by
  have hstored : declaration.storedMembers = declaration.members.filter Member.isStored := rfl
  unfold structShape
  rw [plain]
  dsimp only [widest?]
  rw [map_eq_error_iff, mapM_eq_error_iff, hstored]
  constructor
  · rintro ⟨front, ⟨member, i⟩, rest, hsplit, hfront, herror⟩
    obtain ⟨first, last, hfilter, rfl, rfl, rfl⟩ := zipIdx_eq_append_cons_iff.mp hsplit
    -- The split of the filtered list comes from one of the whole. Members that are skipped right
    -- before the one in question are put in front of it, where they do not count.
    obtain ⟨start, tail, hmembers, rfl, htail⟩ := List.filter_eq_append_iff.mp hfilter
    obtain ⟨skipped, after, rfl, hskipped, hmember, _⟩ := List.filter_eq_cons_iff.mp htail
    obtain ⟨fault, hfault, rfl⟩ := Member.parameter_eq_error_iff.mp herror
    have hnone : skipped.filter Member.isStored = [] := List.filter_eq_nil_iff.mpr hskipped
    have hcount : (start ++ skipped).countP Member.isStored =
        (start.filter Member.isStored).length := by
      rw [List.countP_eq_length_filter, List.filter_append, hnone, List.append_nil]
    refine ⟨start ++ skipped, member, fault, ⟨⟨after, ?_⟩, hmember, hfault, ?_⟩, by rw [hcount]⟩
    · rw [hmembers, List.append_assoc]
    · intro m hm hstored
      have hfirst : m ∈ start.filter Member.isStored := by
        rcases List.mem_append.mp hm with hm | hm
        · exact List.mem_filter.mpr ⟨hm, hstored⟩
        · exact absurd hstored (hskipped m hm)
      obtain ⟨i, hi⟩ := List.mem_iff_getElem?.mp hfirst
      have hfound := hfront (m, i) (List.mk_mem_zipIdx_iff_getElem?.mpr hi)
      exact Member.exists_parameter_iff.mp hfound
  · rintro ⟨before, member, fault, ⟨⟨after, hmembers⟩, hmember, hfault, hbefore⟩, rfl⟩
    refine ⟨(before.filter Member.isStored).zipIdx, (member, before.countP Member.isStored),
      (after.filter Member.isStored).zipIdx (before.countP Member.isStored + 1), ?_, ?_, ?_⟩
    · rw [zipIdx_eq_append_cons_iff, List.countP_eq_length_filter]
      refine ⟨_, _, ?_, rfl, rfl, rfl⟩
      rw [hmembers, List.filter_append, List.filter_cons_of_pos hmember]
    · rintro ⟨m, i⟩ hm
      obtain ⟨hm, hstored⟩ := List.mem_filter.mp (List.fst_mem_of_mem_zipIdx hm)
      exact Member.exists_parameter_iff.mpr (hbefore m hm hstored)
    · exact Member.parameter_eq_error_iff.mpr ⟨fault, hfault, rfl⟩

/-! ## What the checks of categories report -/

/-- The diagnostics of a member are together among those of its declaration. -/
theorem memberDiagnostics_isInfix (struct : declaration.kind = .struct) {before after : List Member}
    {member : Member} (hmembers : declaration.members = before ++ member :: after) (mode : Mode) :
    memberDiagnostics declaration.name mode member before.length <:+:
      declaration.categoryDiagnostics mode := by
  rw [categoryDiagnostics, struct, hmembers, List.zipIdx_append, List.zipIdx_cons,
    List.flatMap_append, List.flatMap_cons, Nat.zero_add, ← List.append_assoc]
  exact List.infix_append _ _ _

/-- A category that cannot be read is what the check of the member reports. -/
theorem memberDiagnostics_of_readCategory {type : String} {mode : Mode} {member : Member}
    {index : Nat} {fault : Fault} (stored : member.isStored = true)
    (hcategory : readCategory? member.category = .error fault) :
    memberDiagnostics type mode member index =
      [.ofFault fault ⟨type, some (member.displayName index)⟩] := by
  have haccessor : member.accessor.isStored = true := stored
  rcases htoken : member.category with _ | token <;> rw [htoken] at hcategory
  · cases hcategory
  · have hread : readCategory token = .error fault := map_eq_error_iff.mp hcategory
    simp [memberDiagnostics, htoken, haccessor, hread]

/-! ## The two names -/

/-- The shape of a struct without constructors fails exactly because of the first member that cannot be
read, and it calls the member by its position among those that take part in construction. The check of
categories reports the member under its position among all members, with the same fault if it is one
of the category. The two names are the same exactly if the member has a name of its own or
every member before it takes part in construction. -/
theorem blame (struct : declaration.kind = .struct) (plain : declaration.constructors = []) :
    (∀ error, declaration.shape = .error error ↔ ∃ before member fault,
      declaration.Blames before member fault ∧
        error = ⟨some (member.displayName (before.countP Member.isStored)), fault⟩) ∧
    ∀ before member fault, declaration.Blames before member fault →
      (member.displayName (before.countP Member.isStored) = member.displayName before.length ↔
        member.name.isSome = true ∨ ∀ m ∈ before, m.isStored = true) ∧
      ∀ mode, memberDiagnostics declaration.name mode member before.length <:+:
          declaration.categoryDiagnostics mode ∧
        (∀ d ∈ memberDiagnostics declaration.name mode member before.length,
          d.location = ⟨declaration.name, some (member.displayName before.length)⟩) ∧
        ∀ unread, readCategory? member.category = .error unread →
          memberDiagnostics declaration.name mode member before.length =
            [.ofFault unread ⟨declaration.name, some (member.displayName before.length)⟩] := by
  constructor
  · intro error
    rw [shape_eq_structShape struct]
    exact structShape_eq_error_iff plain
  · intro before member fault hblames
    constructor
    · rw [Member.displayName_eq_iff, List.countP_eq_length]
    · intro mode
      obtain ⟨after, hmembers⟩ := hblames.exists_after
      refine ⟨memberDiagnostics_isInfix struct hmembers mode, ?_, ?_⟩
      · intro d hd
        exact (located_of_mem_memberDiagnostics hd).1
      · intro unread hunread
        exact memberDiagnostics_of_readCategory hblames.isStored hunread

/-- A struct with two members that have no names: the first is computed, and the category of the
second cannot be read. -/
def misspelled : Declaration :=
  let worked : Member := { name := none, type := "f64", accessor := .computed }
  let stored : Member := { name := none, type := "String", category := some "emali" }
  ((ofKind "Contact" .struct 1).withMember worked).withMember stored

/-- The second member of `misspelled` is to blame, and the shape calls it by the position of the
first. -/
theorem blame_misspelled : misspelled.kind = .struct ∧ misspelled.constructors = [] ∧
    misspelled.shape = .error ⟨some "0", .categoryNotSupported "emali"⟩ := by
  refine ⟨rfl, rfl, ?_⟩
  have hblames : misspelled.Blames [{ name := none, type := "f64", accessor := .computed }]
      { name := none, type := "String", category := some "emali" }
      (.categoryNotSupported "emali") := by
    refine ⟨⟨[], rfl⟩, rfl, by decide +kernel, ?_⟩
    intro m hm hstored
    obtain rfl := List.mem_singleton.mp hm
    cases hstored
  exact ((blame rfl rfl).1 _).mpr ⟨_, _, _, hblames, rfl⟩

/-- The check of categories and the shape report the same member of `misspelled` under two names. -/
theorem blame_misplaced :
    misspelled.categoryDiagnostics .randomized =
      [.ofFault (.categoryNotSupported "emali") ⟨"Contact", some "1"⟩] ∧
    misspelled.shape ≠ .error ⟨some "1", .categoryNotSupported "emali"⟩ ∧
    misspelled.shape = .error ⟨some "0", .categoryNotSupported "emali"⟩ := by
  decide +kernel

end Declaration

end Specimen
