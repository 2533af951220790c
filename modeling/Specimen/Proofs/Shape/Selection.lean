import Specimen.Proofs.Shape.Blame

/-!
# What a shape is made from

A declaration selects one source for its shape: the cases of an enum, the first of the constructors
with the most parameters, or the members that take part in construction (`Declaration.Selects`). A
source with all its texts readable gives the shape (`Selection.Gives`); otherwise the first text that
cannot be read is the reason why there is none (`Selection.firstError?`), and a type is read before
the category next to it. Nothing else in a declaration matters (`Declaration.selection`).
-/

namespace Specimen

/-! ## Texts that are read -/

/-- A text that stands for a type or for a category. -/
inductive Written where
  | type (text : String)
  | category (token : String)

/-- Why a text cannot be read. -/
def Written.fault? : Written → Option Fault
  | .type text =>
    match TypeRef.read text with
    | .ok _ => none
    | .error _ => some (.typeNotSupported (Text.trimmed text))
  | .category token =>
    match Category.read token with
    | .ok _ => none
    | .error _ => some (.categoryNotSupported (Text.trimmed token))

/-- A text, and the constructor, the case or the member that a fault in it is reported at. -/
structure Inscription where
  owner : String
  text : Written

/-- The error of a text that cannot be read. -/
def Inscription.error? (inscription : Inscription) : Option ShapeError :=
  inscription.text.fault?.map fun fault => ⟨some inscription.owner, fault⟩

/-- The fault of a written type is the one that reading it gives. -/
theorem Written.fault?_type_eq_some_iff {text : String} {fault : Fault} :
    (Written.type text).fault? = some fault ↔ readType text = .error fault := by
  simp only [Written.fault?, readType]
  cases TypeRef.read text <;> simp

/-- A text that cannot be read is an error at the one who wears it. -/
theorem Inscription.error?_eq_some_iff {inscription : Inscription} {error : ShapeError} :
    inscription.error? = some error ↔
      ∃ fault, inscription.text.fault? = some fault ∧ error = ⟨some inscription.owner, fault⟩ := by
  rw [Inscription.error?, Option.map_eq_some_iff]
  simp only [eq_comm (b := error)]

/-! ## Slots and members -/

/-- The text of a slot of the constructor or the case `owner`. -/
def Slot.inscription (owner : String) (slot : Slot) : Inscription := ⟨owner, .type slot.type⟩

/-- The texts of the member at a position, its type first. -/
def Member.inscriptions (member : Member) (index : Nat) : List Inscription :=
  ⟨member.displayName index, .type member.type⟩ ::
    (member.category.map fun token => ⟨member.displayName index, .category token⟩).toList

/-- A slot fails with the error of its text. -/
theorem Slot.parameter_eq_error_iff {owner : String} {slot : Slot} {error : ShapeError} :
    slot.parameter owner = .error error ↔ (slot.inscription owner).error? = some error := by
  rw [parameter, map_eq_error_iff, foundAt_eq_error_iff, Inscription.error?_eq_some_iff]
  simp only [inscription, Written.fault?_type_eq_some_iff]

/-- The fault of a member is that of its type, or else that of its category. -/
theorem Member.fault?_eq (member : Member) :
    member.fault? = (Written.type member.type).fault?.or
      (member.category.bind fun token => (Written.category token).fault?) := by
  simp only [fault?, Written.fault?, readType]
  cases TypeRef.read member.type with
  | error _ => rfl
  | ok _ =>
    cases member.category with
    | none => rfl
    | some token =>
      simp only [readCategory?, readCategory, Option.bind_some, Option.none_or]
      cases Category.read token <;> rfl

/-- A member cannot be read because of the first of its texts that cannot. -/
theorem Member.parameter_eq_error_iff_findSome? {member : Member} {index : Nat}
    {error : ShapeError} : member.parameter index = .error error ↔
      (member.inscriptions index).findSome? Inscription.error? = some error := by
  have hfirst : (member.inscriptions index).findSome? Inscription.error? =
      member.fault?.map fun fault => ⟨some (member.displayName index), fault⟩ := by
    rw [Member.fault?_eq, inscriptions, List.findSome?_cons]
    simp only [Inscription.error?]
    cases (Written.type member.type).fault? with
    | some fault => rfl
    | none =>
      cases member.category with
      | none => rfl
      | some token =>
        simp only [Option.map_some, Option.map_none, Option.toList_some, List.findSome?_cons,
          Inscription.error?, Option.bind_some, Option.none_or]
        cases (Written.category token).fault? <;> rfl
  rw [parameter_eq_error_iff, hfirst, Option.map_eq_some_iff]
  simp only [eq_comm (b := error)]

/-! ## The widest constructor -/

/-- A constructor is the first of those with the most parameters: it has more than every one before it,
and none behind it has more. -/
def IsWidest (constructors : List Constructor) (c : Constructor) : Prop :=
  ∃ before after, constructors = before ++ c :: after ∧
    (∀ b ∈ before, b.parameters.length < c.parameters.length) ∧
    ∀ a ∈ after, a.parameters.length ≤ c.parameters.length

namespace IsWidest

variable {seen constructors : List Constructor} {best c c' : Constructor}

theorem le (h : IsWidest seen best) (hc : c ∈ seen) :
    c.parameters.length ≤ best.parameters.length := by
  obtain ⟨before, after, rfl, hbefore, hafter⟩ := h
  rcases List.mem_append.mp hc with hc | hc
  · exact Nat.le_of_lt (hbefore c hc)
  · rcases List.mem_cons.mp hc with rfl | hc
    · exact Nat.le_refl _
    · exact hafter c hc

/-- One more constructor is taken only if it has more parameters than the best one so far. -/
theorem step (h : IsWidest seen best) (c : Constructor) : IsWidest (seen ++ [c])
    (if best.parameters.length ≥ c.parameters.length then best else c) := by
  split
  · rename_i hle
    obtain ⟨before, after, rfl, hbefore, hafter⟩ := h
    refine ⟨before, after ++ [c], by simp, hbefore, fun a ha => ?_⟩
    rcases List.mem_append.mp ha with ha | ha
    · exact hafter a ha
    · obtain rfl := List.mem_singleton.mp ha
      exact hle
  · rename_i hlt
    refine ⟨seen, [], rfl, fun b hb => ?_, fun a ha => absurd ha List.not_mem_nil⟩
    exact Nat.lt_of_le_of_lt (h.le hb) (Nat.lt_of_not_le hlt)

theorem foldl (h : IsWidest seen best) (constructors : List Constructor) :
    IsWidest (seen ++ constructors) (constructors.foldl (fun best c =>
      if best.parameters.length ≥ c.parameters.length then best else c) best) := by
  induction constructors generalizing seen best with
  | nil => simpa using h
  | cons c constructors ih => simpa using ih (h.step c)

/-- There is one such constructor at most. -/
theorem unique (h : IsWidest constructors c) (h' : IsWidest constructors c') : c = c' := by
  obtain ⟨before, after, rfl, hbefore, hafter⟩ := h
  obtain ⟨before', after', heq, hbefore', hafter'⟩ := h'
  rcases List.append_eq_append_iff.mp heq with ⟨between, rfl, hrest⟩ | ⟨between, rfl, hrest⟩
  · rcases List.cons_eq_append_iff.mp hrest with ⟨rfl, hrest⟩ | ⟨between, rfl, rfl⟩
    · exact (List.cons.inj hrest).1
    · have hlt := hbefore' c (by simp)
      have hle := hafter c' (by simp)
      omega
  · rcases List.cons_eq_append_iff.mp hrest with ⟨rfl, hrest⟩ | ⟨between, rfl, rfl⟩
    · exact (List.cons.inj hrest).1.symm
    · have hlt := hbefore c' (by simp)
      have hle := hafter' c (by simp)
      omega

end IsWidest

/-- The constructor that is chosen is the first of the widest. -/
theorem Declaration.isWidest_of_widest? {constructors : List Constructor} {c : Constructor}
    (h : widest? constructors = some c) : IsWidest constructors c := by
  cases constructors with
  | nil => cases h
  | cons first constructors =>
    obtain rfl := Option.some.inj h
    have hfirst : IsWidest [first] first :=
      ⟨[], [], rfl, fun _ hb => absurd hb List.not_mem_nil, fun _ ha => absurd ha List.not_mem_nil⟩
    exact hfirst.foldl constructors

/-- A constructor is chosen if and only if it is the first of the widest. -/
theorem Declaration.widest?_eq_some_iff {constructors : List Constructor} {c : Constructor} :
    widest? constructors = some c ↔ IsWidest constructors c := by
  refine ⟨isWidest_of_widest?, fun h => ?_⟩
  cases hwidest : widest? constructors with
  | some best => rw [(isWidest_of_widest? hwidest).unique h]
  | none =>
    obtain ⟨before, after, rfl, _⟩ := h
    cases before <;> cases hwidest

/-! ## Sources -/

/-- What the shape of a declaration is made from. -/
inductive Selection where
  | cases (items : List Case)
  | constructor (c : Constructor)
  | members (items : List Member)

namespace Selection

/-- The texts of a source, in the order in which they are read. -/
def inscriptions : Selection → List Inscription
  | .cases items => items.flatMap fun c => c.payload.map (Slot.inscription c.name)
  | .constructor c => c.parameters.map (Slot.inscription c.name)
  | .members items => items.zipIdx.flatMap fun (member, index) => member.inscriptions index

/-- The error of the first text that cannot be read. -/
def firstError? (source : Selection) : Option ShapeError :=
  source.inscriptions.findSome? Inscription.error?

/-- The shape that a source gives to the type `name`: every part is read, and all keep their order. -/
inductive Gives (name : String) : Selection → Shape → Prop
  | cases {items : List Case} {shapes : List CaseShape}
      (payloads : List.Forall₂ (fun c shape =>
        shape.name = c.name ∧ List.Forall₂ Slot.ReadAs c.payload shape.payload) items shapes) :
      Gives name (.cases items) (.enum name shapes)
  | constructor {c : Constructor} {parameters : List Parameter}
      (slots : List.Forall₂ Slot.ReadAs c.parameters parameters) :
      Gives name (.constructor c) (.struct name (.constructor c.name) parameters)
  | members {items : List Member} {parameters : List Parameter} {tuple : Bool}
      (fields : List.Forall₂ Member.ReadAs items parameters)
      (tuple_iff : tuple = true ↔ items ≠ [] ∧ ∀ member ∈ items, member.name = none) :
      Gives name (.members items) (.struct name (.fields tuple) parameters)

/-- The shape of a source, or why there is none. -/
def shape (name : String) : Selection → Except ShapeError Shape
  | .cases items => (items.mapM Declaration.caseShape).map fun shapes => .enum name shapes
  | .constructor c =>
    (c.parameters.mapM (Slot.parameter c.name)).map fun parameters =>
      .struct name (.constructor c.name) parameters
  | .members items =>
    let tuple := !items.isEmpty && items.all fun member => member.name.isNone
    (items.zipIdx.mapM fun ((member, index) : Member × Nat) => member.parameter index).map
        fun parameters =>
      .struct name (.fields tuple) parameters

variable {name : String} {source : Selection}

/-- A case becomes a shape of its name, with each slot read. -/
theorem caseShape_eq_ok_iff {c : Case} {shape : CaseShape} :
    Declaration.caseShape c = .ok shape ↔
      shape.name = c.name ∧ List.Forall₂ Slot.ReadAs c.payload shape.payload := by
  rw [Declaration.caseShape, map_eq_ok_iff]
  simp only [mapM_eq_ok_iff, Slot.parameter_eq_ok_iff]
  constructor
  · rintro ⟨payload, hpayload, rfl⟩
    exact ⟨rfl, hpayload⟩
  · rintro ⟨hname, hpayload⟩
    exact ⟨shape.payload, hpayload, by rw [← hname]⟩

/-- Slots in a row fail with the first error among their texts. -/
theorem slots_eq_error_iff {owner : String} {slots : List Slot} {error : ShapeError} :
    slots.mapM (Slot.parameter owner) = .error error ↔
      (slots.map (Slot.inscription owner)).findSome? Inscription.error? = some error := by
  rw [List.findSome?_map]
  exact mapM_eq_error_iff_findSome? fun _ _ => Slot.parameter_eq_error_iff

/-- A source gives a shape exactly when all its parts can be read. -/
theorem shape_eq_ok_iff {shape : Shape} : source.shape name = .ok shape ↔ source.Gives name shape := by
  cases source with
  | cases items =>
    rw [Selection.shape, map_eq_ok_iff]
    simp only [mapM_eq_ok_iff, caseShape_eq_ok_iff]
    constructor
    · rintro ⟨shapes, hshapes, rfl⟩
      exact .cases hshapes
    · rintro ⟨hshapes⟩
      exact ⟨_, hshapes, rfl⟩
  | constructor c =>
    rw [Selection.shape, map_eq_ok_iff]
    simp only [mapM_eq_ok_iff, Slot.parameter_eq_ok_iff]
    constructor
    · rintro ⟨parameters, hparameters, rfl⟩
      exact .constructor hparameters
    · rintro ⟨⟩
      exact ⟨_, ‹_›, rfl⟩
  | members items =>
    have hpositions : ∀ parameters, List.Forall₂ (fun (entry : Member × Nat) p =>
        entry.1.ReadAs p) items.zipIdx parameters ↔ List.Forall₂ Member.ReadAs items parameters := by
      intro parameters
      rw [← List.forall₂_map_left_iff (f := Prod.fst), List.zipIdx_map_fst]
    have htuple : (!items.isEmpty && items.all fun member => member.name.isNone) = true ↔
        items ≠ [] ∧ ∀ member ∈ items, member.name = none := by simp
    rw [Selection.shape, map_eq_ok_iff]
    simp only [mapM_eq_ok_iff, Member.parameter_eq_ok_iff, hpositions]
    constructor
    · rintro ⟨parameters, hparameters, rfl⟩
      exact .members hparameters htuple
    · rintro (_ | _ | ⟨hparameters, tuple_iff⟩)
      exact ⟨_, hparameters, by rw [Bool.eq_iff_iff.mpr (htuple.trans tuple_iff.symm)]⟩

/-- A source gives no shape exactly when a text cannot be read, and the first such text is to blame. -/
theorem shape_eq_error_iff {error : ShapeError} :
    source.shape name = .error error ↔ source.firstError? = some error := by
  cases source with
  | cases items =>
    rw [Selection.shape, map_eq_error_iff, firstError?, inscriptions, findSome?_flatMap]
    refine mapM_eq_error_iff_findSome? fun c e => ?_
    rw [Declaration.caseShape, map_eq_error_iff, slots_eq_error_iff]
  | constructor c =>
    rw [Selection.shape, map_eq_error_iff, firstError?, inscriptions, slots_eq_error_iff]
  | members items =>
    rw [Selection.shape, map_eq_error_iff, firstError?, inscriptions, findSome?_flatMap]
    exact mapM_eq_error_iff_findSome? fun _ _ => Member.parameter_eq_error_iff_findSome?

end Selection

namespace Declaration

/-- The source that a declaration selects. -/
inductive Selects (declaration : Declaration) : Selection → Prop
  | cases (kind : declaration.kind = .enum) (cases : declaration.cases ≠ []) :
      Selects declaration (.cases declaration.cases)
  | constructor {c : Constructor} (kind : declaration.kind = .struct)
      (widest : IsWidest declaration.constructors c) : Selects declaration (.constructor c)
  | members (kind : declaration.kind = .struct) (plain : declaration.constructors = []) :
      Selects declaration (.members (declaration.members.filter fun member =>
        member.accessor = .stored ∨ member.accessor = .observed))

variable {declaration : Declaration} {source : Selection}

/-- The shape of a declaration is that of the source it selects. -/
theorem Selects.shape_eq (h : declaration.Selects source) :
    declaration.shape = source.shape declaration.name := by
  cases h with
  | cases kind hcases =>
    have hne : declaration.cases.isEmpty = false := by simpa using hcases
    simp [Declaration.shape, checkKind, kind, enumShape, hne, Selection.shape]
  | constructor kind widest =>
    rw [shape_eq_structShape kind, structShape, widest?_eq_some_iff.mpr widest]
    rfl
  | members kind plain =>
    have hstored : declaration.storedMembers = declaration.members.filter fun member =>
        member.accessor = .stored ∨ member.accessor = .observed := by
      refine List.filter_congr fun member _ => ?_
      cases member.accessor <;> rfl
    rw [shape_eq_structShape kind, structShape, plain, hstored]
    rfl

/-- Only an enum without cases, or what is neither a struct nor an enum, selects no source. -/
theorem exists_selects_or (declaration : Declaration) : (∃ source, declaration.Selects source) ∨
    declaration.kind = .enum ∧ declaration.cases = [] ∨
      declaration.kind ≠ .struct ∧ declaration.kind ≠ .enum := by
  cases hkind : declaration.kind with
  | struct =>
    cases hwidest : widest? declaration.constructors with
    | some c => exact .inl ⟨_, .constructor hkind (isWidest_of_widest? hwidest)⟩
    | none =>
      have hplain : declaration.constructors = [] := by
        cases hconstructors : declaration.constructors with
        | nil => rfl
        | cons c cs => rw [hconstructors] at hwidest; cases hwidest
      exact .inl ⟨_, .members hkind hplain⟩
  | enum =>
    by_cases hcases : declaration.cases = []
    · exact .inr (.inl ⟨rfl, hcases⟩)
    · exact .inl ⟨_, .cases hkind hcases⟩
  | union => exact .inr (.inr ⟨by simp, by simp⟩)
  | trait => exact .inr (.inr ⟨by simp, by simp⟩)
  | typeAlias => exact .inr (.inr ⟨by simp, by simp⟩)

/-- What is neither struct nor enum is refused for its kind. -/
theorem shape_eq_notSampled (struct : declaration.kind ≠ .struct) (enum : declaration.kind ≠ .enum) :
    declaration.shape = .error ⟨none, .notSampled declaration.name declaration.kind⟩ := by
  unfold Declaration.shape checkKind
  cases hkind : declaration.kind with
  | struct => exact absurd hkind struct
  | enum => exact absurd hkind enum
  | _ => rfl

/-- An enum without cases is refused for it. -/
theorem shape_eq_noCases (enum : declaration.kind = .enum) (cases : declaration.cases = []) :
    declaration.shape = .error ⟨none, .noCases⟩ := by
  simp [Declaration.shape, checkKind, enum, enumShape, cases]

/-- A declaration has the shape that its source gives, and none exactly if it is neither a struct nor an
enum, if it is an enum without cases, or if a text of its source cannot be read; then the first such
text is the reason. What is not in the source does not matter. -/
theorem selection (declaration : Declaration) :
    (∀ shape, declaration.shape = .ok shape ↔
      ∃ source, declaration.Selects source ∧ source.Gives declaration.name shape) ∧
    (∀ error, declaration.shape = .error error ↔
      (declaration.kind ≠ .struct ∧ declaration.kind ≠ .enum ∧
        error = ⟨none, .notSampled declaration.name declaration.kind⟩) ∨
      (declaration.kind = .enum ∧ declaration.cases = [] ∧ error = ⟨none, .noCases⟩) ∨
      ∃ source, declaration.Selects source ∧ source.firstError? = some error) ∧
    ∀ (declaration' : Declaration) (source : Selection), declaration'.name = declaration.name →
      declaration.Selects source → declaration'.Selects source →
        declaration'.shape = declaration.shape := by
  refine ⟨fun shape => ⟨fun h => ?_, ?_⟩, fun error => ⟨fun h => ?_, ?_⟩, ?_⟩
  · rcases exists_selects_or declaration with ⟨source, hsource⟩ | ⟨enum, hcases⟩ | ⟨struct, enum⟩
    · exact ⟨source, hsource, Selection.shape_eq_ok_iff.mp (hsource.shape_eq ▸ h)⟩
    · rw [shape_eq_noCases enum hcases] at h
      cases h
    · rw [shape_eq_notSampled struct enum] at h
      cases h
  · rintro ⟨source, hsource, hgives⟩
    exact hsource.shape_eq.trans (Selection.shape_eq_ok_iff.mpr hgives)
  · rcases exists_selects_or declaration with ⟨source, hsource⟩ | ⟨enum, hcases⟩ | ⟨struct, enum⟩
    · exact .inr (.inr ⟨source, hsource, Selection.shape_eq_error_iff.mp (hsource.shape_eq ▸ h)⟩)
    · exact .inr (.inl ⟨enum, hcases, Except.error.inj (h.symm.trans (shape_eq_noCases enum hcases))⟩)
    · exact .inl ⟨struct, enum, Except.error.inj (h.symm.trans (shape_eq_notSampled struct enum))⟩
  · rintro (⟨struct, enum, rfl⟩ | ⟨enum, hcases, rfl⟩ | ⟨source, hsource, herror⟩)
    · exact shape_eq_notSampled struct enum
    · exact shape_eq_noCases enum hcases
    · exact hsource.shape_eq.trans (Selection.shape_eq_error_iff.mpr herror)
  · intro declaration' source hname h h'
    rw [h.shape_eq, h'.shape_eq, hname]

/-- A struct with two constructors of two parameters; nothing but the first of them can be read. -/
def ticket : Declaration :=
  ((((ofKind "Ticket" .struct 1).withMember { name := none, type := "??" }).withConstructor
    "free" [("seat", "&u8")]).withConstructor
    "paid" [("seat", "u8"), ("price", "f64")]).withConstructor
    "given" [("seat", "<"), ("to", "")]

/-- The first of the two widest constructors gives the shape of `ticket`, and without what is not read
it has the same shape. -/
theorem selection_ticket :
    (∃ c, ticket.Selects (.constructor c) ∧ c.name = "paid") ∧
    ticket.shape = .ok (.struct "Ticket" (.constructor "paid")
      [⟨some "seat", .scalar .uint8, none⟩, ⟨some "price", .scalar .float64, none⟩]) ∧
    ((ofKind "Ticket" .struct 1).withConstructor "paid"
      [("seat", "u8"), ("price", "f64")]).shape = ticket.shape := by
  have hselects : ticket.Selects (.constructor ⟨"paid", [⟨"seat", "u8"⟩, ⟨"price", "f64"⟩]⟩) :=
    .constructor rfl ⟨[⟨"free", [⟨"seat", "&u8"⟩]⟩], [⟨"given", [⟨"seat", "<"⟩, ⟨"to", ""⟩]⟩], rfl,
      by decide, by decide⟩
  have hgives : Selection.Gives "Ticket" (.constructor ⟨"paid", [⟨"seat", "u8"⟩, ⟨"price", "f64"⟩]⟩)
      (.struct "Ticket" (.constructor "paid")
        [⟨some "seat", .scalar .uint8, none⟩, ⟨some "price", .scalar .float64, none⟩]) :=
    .constructor (.cons ⟨rfl, by decide +kernel, rfl⟩ (.cons ⟨rfl, by decide +kernel, rfl⟩ .nil))
  refine ⟨⟨_, hselects, rfl⟩, ((selection ticket).1 _).mpr ⟨_, hselects, hgives⟩, ?_⟩
  exact (selection ticket).2.2 _ _ rfl hselects
    (.constructor rfl ⟨[], [], rfl, by decide, by decide⟩)

end Declaration

end Specimen
