import Specimen.Proofs.Synthesis

/-!
# What is asked on the way

A value is made from the left to the right, and the first reference without samples ends it. So the
fault is that of the first reference that has one, the states of the references up to this one have been
asked for, and identifiers have been taken for what stands before it (`Synthesis.asking`).

What is asked for shows as soon as asking has an effect. `Asking.synthesize` makes the values of types
as `synthesize` does, in any monad in which the state of a type can be asked for. With a list of the
paths that have been asked about as this effect, it is `synthesize` together with the list
(`Synthesis.Visits.run`).

As in the other statements on computations, what is visited is put together in the way in which the
computations are (`Synthesis.Visits.bind`).
-/

namespace Specimen

/-! ## What a type is put together from -/

/-- A part of a type that has no parts of its own. -/
inductive TypeRef.Part where
  | scalar (kind : ScalarKind)
  | reference (path : String)
  deriving DecidableEq, Repr

/-- The path of a part that is a reference. -/
def TypeRef.Part.path? : TypeRef.Part → Option String
  | .scalar _ => none
  | .reference path => some path

/-- The scalars and references of a type, from left to right, keys before values. -/
def TypeRef.parts : TypeRef → List TypeRef.Part
  | .scalar kind => [.scalar kind]
  | .array element => element.parts
  | .mapping _ key value => key.parts ++ value.parts
  | .reference path => [.reference path]

/-- The references of a type are the paths among its parts. -/
theorem TypeRef.references_eq (type : TypeRef) :
    type.references = type.parts.filterMap TypeRef.Part.path? := by
  induction type with
  | scalar kind => rfl
  | array element ih => exact ih
  | mapping kind key value ihKey ihValue =>
    rw [references, parts, List.filterMap_append, ihKey, ihValue]
  | reference path => rfl

namespace Surroundings

variable (surroundings : Surroundings)

/-- Why there is no value of a reference: it has no samples, or it is no path. -/
def fault? (path : String) : Option Fault :=
  match surroundings.status path with
  | .available => if (Source.path? path).isSome then none else some (.invalidName (.path path))
  | .failed => some (.dependencyFailed path)
  | .unknown => some (.typeNotSupported path)

/-- Why there is no value of a part. -/
def partFault? : TypeRef.Part → Option Fault
  | .scalar _ => none
  | .reference path => surroundings.fault? path

/-- The parts before the first that has no value. -/
def reached (parts : List TypeRef.Part) : List TypeRef.Part :=
  parts.takeWhile fun part => (surroundings.partFault? part).isNone

/-- The number of identifiers that are taken for some parts. -/
def taken (parts : List TypeRef.Part) : Nat :=
  if surroundings.mode = .fixed then (surroundings.reached parts).count (.scalar .uuid) else 0

/-- The references up to the first that has no value, which is one of them. -/
def asked (references : List String) : List String :=
  references.take (references.findIdx (fun path => (surroundings.fault? path).isSome) + 1)

variable {surroundings}

/-- A reference fails with the reason why there is no value of it. -/
theorem referenceExpr_eq_error_iff {path : String} {fault : Fault} :
    referenceExpr path surroundings = .error fault ↔ surroundings.fault? path = some fault := by
  unfold referenceExpr fault? readPath
  cases surroundings.status path with
  | available =>
    cases Source.path? path with
    | none => simp [Except.map]
    | some type => simp [Except.map]
  | failed => simp
  | unknown => simp

/-- A reference has a value if and only if samples of its type are offered. -/
theorem fault?_eq_none_iff {path : String} :
    surroundings.fault? path = none ↔ surroundings.Offers path := by
  unfold fault? Offers readPath
  cases surroundings.status path with
  | available => cases Source.path? path <;> simp
  | failed => simp
  | unknown => simp

/-! ## Parts one after the other -/

variable {parts rest : List TypeRef.Part}

/-- Behind parts that all have a value the others are reached. -/
theorem reached_append_of_none (h : parts.findSome? surroundings.partFault? = none) :
    surroundings.reached (parts ++ rest) = parts ++ surroundings.reached rest := by
  rw [List.findSome?_eq_none_iff] at h
  apply List.takeWhile_append_of_pos
  intro part hpart
  rw [h part hpart]
  rfl

/-- Behind a part that has no value none is reached. -/
theorem reached_append_of_some {fault : Fault}
    (h : parts.findSome? surroundings.partFault? = some fault) :
    surroundings.reached (parts ++ rest) = surroundings.reached parts := by
  obtain ⟨before, part, after, rfl, hpart, hbefore⟩ := List.findSome?_eq_some_iff.mp h
  have hstop : ∀ tail, surroundings.reached (before ++ part :: tail) = before := by
    intro tail
    rw [reached_append_of_none (List.findSome?_eq_none_iff.mpr hbefore), reached,
      List.takeWhile_cons_of_neg (by simp [hpart]), List.append_nil]
  rw [List.append_assoc, List.cons_append, hstop, hstop]

/-- Behind parts that all have a value the identifiers of the others are taken, too. -/
theorem taken_append_of_none (h : parts.findSome? surroundings.partFault? = none) :
    surroundings.taken (parts ++ rest) = surroundings.taken parts + surroundings.taken rest := by
  have hall : surroundings.reached (parts ++ []) = parts ++ surroundings.reached [] :=
    reached_append_of_none h
  rw [List.append_nil] at hall
  unfold taken
  rw [reached_append_of_none h, hall]
  split
  · simp [reached, List.count_append]
  · rfl

theorem taken_append_of_some {fault : Fault}
    (h : parts.findSome? surroundings.partFault? = some fault) :
    surroundings.taken (parts ++ rest) = surroundings.taken parts := by
  rw [taken, taken, reached_append_of_some h]

/-- The first fault of a type is that of its first reference that has one. -/
theorem findSome?_references (parts : List TypeRef.Part) :
    (parts.filterMap TypeRef.Part.path?).findSome? surroundings.fault? =
      parts.findSome? surroundings.partFault? := by
  induction parts with
  | nil => rfl
  | cons part parts ih =>
    cases part <;>
      simp [List.filterMap_cons, List.findSome?_cons, TypeRef.Part.path?, partFault?, ih]

/-- Behind references that all have a value the others are asked about. -/
theorem asked_append_of_none {first last : List String}
    (h : first.findSome? surroundings.fault? = none) :
    surroundings.asked (first ++ last) = first ++ surroundings.asked last := by
  have hnone : first.findIdx (fun path => (surroundings.fault? path).isSome) = first.length := by
    rw [List.findIdx_eq_length]
    intro path hpath
    simp [List.findSome?_eq_none_iff.mp h path hpath]
  rw [asked, asked, List.findIdx_append, hnone, if_neg (Nat.lt_irrefl _), Nat.add_right_comm,
    Nat.add_comm, List.take_length_add_append]

/-- If all references have a value, all of them are asked about. -/
theorem asked_of_none {references : List String}
    (h : references.findSome? surroundings.fault? = none) :
    surroundings.asked references = references := by
  have happend : surroundings.asked (references ++ []) = references ++ surroundings.asked [] :=
    asked_append_of_none h
  simpa [asked] using happend

/-- Behind a reference that has no value none is asked about. -/
theorem asked_append_of_some {first last : List String} {fault : Fault}
    (h : first.findSome? surroundings.fault? = some fault) :
    surroundings.asked (first ++ last) = surroundings.asked first := by
  obtain ⟨path, hpath, hfault⟩ := List.exists_of_findSome?_eq_some h
  have hlt : first.findIdx (fun path => (surroundings.fault? path).isSome) < first.length :=
    List.findIdx_lt_length_of_exists ⟨path, hpath, by simp [hfault]⟩
  rw [asked, asked, List.findIdx_append, if_pos hlt, List.take_append_of_le_length (by omega)]

end Surroundings

/-! ## Asking -/

/-- A computation that takes identifier numbers, may fail, and has an effect when it asks. -/
abbrev Asking (m : Type → Type) (α : Type) := ExceptT Fault (StateT Identifiers m) α

namespace Asking

section Effect

variable {m : Type → Type} [Monad m]

/-- What is done without asking. -/
def ofSynthesis {α : Type} (x : Synthesis α) : Asking m α :=
  ExceptT.mk fun identifiers => pure (x.run identifiers)

/-- The state of a type that is referred to. -/
def state (ask : String → m ReferenceStatus) (path : String) : Asking m ReferenceStatus :=
  ExceptT.lift (StateT.lift (ask path))

/-- The value of a type, made by asking for the state of each type that is referred to. -/
def synthesize (mode : Mode) (targets : Targets) (ask : String → m ReferenceStatus) :
    TypeRef → Option Category → Asking m Expr
  | .scalar kind, category =>
    match mode with
    | .fixed => ofSynthesis (placeholder kind targets)
    | .randomized => return providerCall kind category targets
  | .array element, category => do
    let element ← synthesize mode targets ask element category
    return .list [element]
  | .mapping _ key value, category => do
    let key ← synthesize mode targets ask key none
    let value ← synthesize mode targets ask value category
    return .map [(key, value)]
  | .reference path, _ => do
    let status ← state ask path
    ofSynthesis (Synthesis.ofExcept (referenceExpr path ⟨mode, targets, fun _ => status⟩))

end Effect

/-- An answer that is kept in mind: the path that it is about comes behind those asked about before. -/
def noted (status : String → ReferenceStatus) (path : String) : StateM (List String) ReferenceStatus :=
  modifyGet fun paths => (status path, paths ++ [path])

end Asking

/-- The value of a type, and the paths that have been asked about, in this order. -/
def Surroundings.inquiry (surroundings : Surroundings) (type : TypeRef) (category : Option Category)
    (identifiers : Identifiers) : (Except Fault Expr × Identifiers) × List String :=
  ((Asking.synthesize surroundings.mode surroundings.targets (Asking.noted surroundings.status) type
    category).run identifiers).run []

namespace Synthesis

/-- Computations that ask with a list of what has been asked about as their effect. -/
abbrev Noting (α : Type) := Asking (StateM (List String)) α

/-- A computation visits some parts: it asks about their references and takes identifiers for their
scalars, up to the first that has a fault, which is its own fault then. Without the list of what has been
asked about it is `y`. -/
structure Visits {α : Type} (surroundings : Surroundings) (parts : List TypeRef.Part) (x : Noting α)
    (y : Synthesis α) : Prop where
  run : ∀ identifiers paths, (x.run identifiers).run paths =
    (y.run identifiers, paths ++ surroundings.asked (parts.filterMap TypeRef.Part.path?))
  result : ∀ identifiers, match (y.run identifiers).1 with
    | .ok _ => parts.findSome? surroundings.partFault? = none
    | .error fault => parts.findSome? surroundings.partFault? = some fault
  next : ∀ identifiers,
    (y.run identifiers).2.next = identifiers.next + surroundings.taken parts

variable {α β : Type} {surroundings : Surroundings} {parts rest : List TypeRef.Part}

/-- A result that is given visits nothing. -/
theorem visits_pure (a : α) : Visits surroundings [] (pure a) (pure a) where
  run identifiers paths := by
    show ((Except.ok a, identifiers), paths) = _
    simp [Surroundings.asked]
    rfl
  result identifiers := rfl
  next identifiers := by
    show identifiers.next = _
    simp [Surroundings.taken, Surroundings.reached]

/-- What comes after a computation that asks runs on its result, with the identifiers that it leaves and
the list of what has been asked about. -/
theorem run_bind_noting (x : Noting α) (f : α → Noting β) (identifiers : Identifiers)
    (paths : List String) :
    ((x >>= f).run identifiers).run paths =
      match (x.run identifiers).run paths with
      | ((.ok a, after), paths) => ((f a).run after).run paths
      | ((.error fault, after), paths) => ((.error fault, after), paths) := by
  show ((x.run >>= ExceptT.bindCont f) identifiers) paths = _
  show (ExceptT.bindCont f ((x.run identifiers).run paths).1.1) ((x.run identifiers).run paths).1.2
    ((x.run identifiers).run paths).2 = _
  rcases (x.run identifiers).run paths with ⟨⟨_ | _, _⟩, _⟩ <;> rfl

/-- What comes after a computation visits the parts behind its parts, unless one of these has a fault. -/
theorem Visits.bind {x : Noting α} {y : Synthesis α} {f : α → Noting β} {g : α → Synthesis β}
    (hx : Visits surroundings parts x y) (hf : ∀ a, Visits surroundings rest (f a) (g a)) :
    Visits surroundings (parts ++ rest) (x >>= f) (y >>= g) := by
  have hcases : ∀ identifiers,
      (∃ a after, y.run identifiers = (.ok a, after) ∧
        parts.findSome? surroundings.partFault? = none ∧
        after.next = identifiers.next + surroundings.taken parts) ∨
      ∃ fault after, y.run identifiers = (.error fault, after) ∧
        parts.findSome? surroundings.partFault? = some fault ∧
        after.next = identifiers.next + surroundings.taken parts := by
    intro identifiers
    have hresult := hx.result identifiers
    have hnext := hx.next identifiers
    rcases hrun : y.run identifiers with ⟨fault | a, after⟩ <;> rw [hrun] at hresult hnext
    · exact .inr ⟨fault, after, rfl, hresult, hnext⟩
    · exact .inl ⟨a, after, rfl, hresult, hnext⟩
  constructor
  · intro identifiers paths
    rw [run_bind_noting, run_bind, hx.run, List.filterMap_append]
    rcases hcases identifiers with ⟨a, after, hrun, hnone, _⟩ | ⟨fault, after, hrun, hsome, _⟩
    · rw [← Surroundings.findSome?_references] at hnone
      simp only [hrun, (hf a).run, Surroundings.asked_append_of_none hnone,
        Surroundings.asked_of_none hnone, List.append_assoc]
    · rw [← Surroundings.findSome?_references] at hsome
      simp only [hrun, Surroundings.asked_append_of_some hsome]
  · intro identifiers
    rw [run_bind, List.findSome?_append]
    rcases hcases identifiers with ⟨a, after, hrun, hnone, _⟩ | ⟨fault, after, hrun, hsome, _⟩
    · rw [hrun, hnone]
      exact (hf a).result after
    · rw [hrun, hsome]
      rfl
  · intro identifiers
    rw [run_bind]
    rcases hcases identifiers with ⟨a, after, hrun, hnone, hafter⟩ | ⟨fault, after, hrun, hsome, hafter⟩
    · rw [hrun, Surroundings.taken_append_of_none hnone, ← Nat.add_assoc, ← hafter]
      exact (hf a).next after
    · rw [hrun, Surroundings.taken_append_of_some hsome]
      exact hafter

/-! ## Values -/

/-- A scalar is visited without asking. An identifier takes one number, and nothing else takes any. -/
theorem visits_scalar {kind : ScalarKind} {x : Synthesis Expr}
    (h : ∀ identifiers, ∃ e, x.run identifiers =
      (.ok e, ⟨identifiers.next + if surroundings.mode = .fixed ∧ kind = .uuid then 1 else 0⟩)) :
    Visits surroundings [.scalar kind] (Asking.ofSynthesis x) x where
  run identifiers paths := by
    show (x.run identifiers, paths) = _
    simp [TypeRef.Part.path?, Surroundings.asked]
  result identifiers := by
    obtain ⟨e, he⟩ := h identifiers
    rw [he]
    rfl
  next identifiers := by
    obtain ⟨e, he⟩ := h identifiers
    rw [he]
    show identifiers.next + _ = _
    congr 1
    by_cases hmode : surroundings.mode = .fixed
    · by_cases hkind : kind = .uuid
      · simp [Surroundings.taken, Surroundings.reached, Surroundings.partFault?, hmode, hkind]
      · simp [Surroundings.taken, Surroundings.reached, Surroundings.partFault?, hmode, hkind]
    · simp [Surroundings.taken, hmode]

/-- A fixed value always succeeds, and takes an identifier only for the kind of identifiers. -/
theorem run_placeholder (kind : ScalarKind) (targets : Targets) (identifiers : Identifiers) :
    ∃ e, (placeholder kind targets).run identifiers =
      (.ok e, ⟨identifiers.next + if kind = .uuid then 1 else 0⟩) := by
  cases kind <;> exact ⟨_, rfl⟩

/-- A reference is asked about, whatever its state is. -/
theorem visits_reference (surroundings : Surroundings) (path : String) :
    Visits surroundings [.reference path]
      (do
        let status ← Asking.state (Asking.noted surroundings.status) path
        Asking.ofSynthesis (ofExcept (referenceExpr path
          ⟨surroundings.mode, surroundings.targets, fun _ => status⟩)))
      (ofExcept (referenceExpr path surroundings)) where
  run identifiers paths := by
    show ((ofExcept (referenceExpr path surroundings)).run identifiers, paths ++ [path]) = _
    simp [TypeRef.Part.path?, Surroundings.asked]
  result identifiers := by
    cases h : referenceExpr path surroundings with
    | ok e =>
      have hnone : surroundings.fault? path = none := by
        by_contra hsome
        obtain ⟨fault, hfault⟩ := Option.ne_none_iff_exists'.mp hsome
        rw [Surroundings.referenceExpr_eq_error_iff.mpr hfault] at h
        cases h
      show [TypeRef.Part.reference path].findSome? surroundings.partFault? = none
      simp [Surroundings.partFault?, hnone]
    | error fault =>
      show [TypeRef.Part.reference path].findSome? surroundings.partFault? = some fault
      simp [Surroundings.partFault?, Surroundings.referenceExpr_eq_error_iff.mp h]
  next identifiers := by
    have hkeep : ((ofExcept (referenceExpr path surroundings)).run identifiers).2 = identifiers := by
      cases referenceExpr path surroundings <;> rfl
    have hnone : (surroundings.reached [.reference path]).count (.scalar .uuid) = 0 := by
      refine List.count_eq_zero.mpr fun hmem => ?_
      have hpart := (List.takeWhile_sublist _).subset hmem
      simp at hpart
    rw [hkeep, Surroundings.taken, hnone, ite_self]
    rfl

/-- The value of a type visits its parts. -/
theorem synthesize_visits (surroundings : Surroundings) (type : TypeRef)
    (category : Option Category) :
    Visits surroundings type.parts
      (Asking.synthesize surroundings.mode surroundings.targets (Asking.noted surroundings.status) type
        category)
      (synthesize surroundings type category) := by
  induction type generalizing category with
  | scalar kind =>
    unfold Asking.synthesize synthesize
    cases hmode : surroundings.mode with
    | fixed =>
      refine visits_scalar fun identifiers => ?_
      simp only [hmode, true_and]
      exact run_placeholder kind surroundings.targets identifiers
    | randomized =>
      refine visits_scalar (x := pure _) fun identifiers => ?_
      simp only [hmode, reduceCtorEq, false_and, if_false]
      exact ⟨_, rfl⟩
  | array element ih =>
    rw [Asking.synthesize, synthesize, TypeRef.parts, ← List.append_nil element.parts]
    exact (ih category).bind fun item => visits_pure _
  | mapping kind key value ihKey ihValue =>
    rw [Asking.synthesize, synthesize, TypeRef.parts, ← List.append_nil value.parts]
    exact (ihKey none).bind fun k => (ihValue category).bind fun v => visits_pure _
  | reference path =>
    rw [Asking.synthesize, synthesize, TypeRef.parts]
    exact visits_reference surroundings path

/-- A value can be made exactly when each of its references has samples and is a path; otherwise the
fault is that of the first reference that has one. All references up to this one are asked about, from
left to right, and no others. Fixed values take a number for each identifier before it, and randomized
values take none. -/
theorem asking (surroundings : Surroundings) (type : TypeRef) (category : Option Category)
    (identifiers : Identifiers) :
    ((∃ e, ((synthesize surroundings type category).run identifiers).1 = .ok e) ↔
      ∀ path ∈ type.references, surroundings.status path = .available ∧
        ∃ parsed, readPath path = .ok parsed) ∧
    (∀ fault, ((synthesize surroundings type category).run identifiers).1 = .error fault ↔
      type.references.findSome? surroundings.fault? = some fault) ∧
    surroundings.inquiry type category identifiers =
      ((synthesize surroundings type category).run identifiers,
        surroundings.asked type.references) ∧
    ((synthesize surroundings type category).run identifiers).2.next =
      identifiers.next + surroundings.taken type.parts := by
  have hvisits := synthesize_visits surroundings type category
  have hresult := hvisits.result identifiers
  rw [← Surroundings.findSome?_references, ← TypeRef.references_eq] at hresult
  have hnone : type.references.findSome? surroundings.fault? = none ↔
      ∀ path ∈ type.references, surroundings.Offers path := by
    simp only [List.findSome?_eq_none_iff, Surroundings.fault?_eq_none_iff]
  refine ⟨?_, fun fault => ?_, ?_, hvisits.next identifiers⟩
  · refine Iff.trans ?_ hnone
    generalize ((synthesize surroundings type category).run identifiers).1 = result at hresult
    cases result with
    | ok e => exact iff_of_true ⟨e, rfl⟩ hresult
    | error fault => simp [hresult]
  · generalize ((synthesize surroundings type category).run identifiers).1 = result at hresult
    cases result with
    | ok e => simp [hresult]
    | error first => simp [hresult]
  · rw [Surroundings.inquiry, hvisits.run, ← TypeRef.references_eq, List.nil_append]

/-- The identifiers behind a reference without samples take no numbers, and what stands there is not
asked about. -/
example :
    let status : String → ReferenceStatus := fun path => if path = "Gone" then .failed else .available
    let behind : TypeRef := .mapping .hash (.reference "Next") (.scalar .uuid)
    let found := Surroundings.inquiry ⟨.fixed, .standard, status⟩
      (.mapping .ordered (.scalar .uuid) (.mapping .hash (.reference "Gone") behind)) none ⟨7⟩
    found.1.1.toOption = none ∧ found.1.2.next = 8 ∧ found.2 = ["Gone"] := by
  decide +kernel

end Synthesis

end Specimen
