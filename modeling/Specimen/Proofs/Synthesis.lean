import Specimen.Proofs.Traversal
import Specimen.Synthesis

/-!
# What values are made of

Whether the value of a type can be made does not depend on the identifiers that are left, so one
statement about a computation tells all: under which condition it succeeds, what holds of its result
then, and what holds of its fault otherwise (`Synthesis.Meets`). The statement follows the
computation: there is one rule for each way in which computations are put together.

Of values the types whose first samples they take are of interest (`Expr.sampled`). The value of a type
can be made exactly when each of its references has samples and is a path, and it takes the first
samples of just these, in their order (`synthesize_meets`).
-/

namespace Specimen

/-! ## The samples that an expression takes -/

namespace Expr

mutual

/-- The types whose first samples an expression takes, from left to right. -/
def sampled : Expr → List Source.Path
  | .integer _ => []
  | .float _ => []
  | .bool _ => []
  | .text _ => []
  | .path _ => []
  | .call _ arguments => listSampled arguments
  | .method receiver _ arguments => receiver.sampled ++ listSampled arguments
  | .list items => listSampled items
  | .map pairs => pairsSampled pairs
  | .braces _ fields => fieldsSampled fields
  | .firstSample type _ => [type]

/-- The types whose first samples several expressions take. -/
def listSampled : List Expr → List Source.Path
  | [] => []
  | e :: es => e.sampled ++ listSampled es

/-- The types whose first samples the pairs of a map take. -/
def pairsSampled : List (Expr × Expr) → List Source.Path
  | [] => []
  | (key, value) :: pairs => key.sampled ++ value.sampled ++ pairsSampled pairs

/-- The types whose first samples fields take. -/
def fieldsSampled : List (FieldName × Expr) → List Source.Path
  | [] => []
  | (_, value) :: fields => value.sampled ++ fieldsSampled fields

end

theorem listSampled_eq_flatMap (es : List Expr) : listSampled es = es.flatMap sampled := by
  induction es with
  | nil => simp [listSampled]
  | cons e es ih => simp [listSampled, ih]

theorem fieldsSampled_eq_flatMap (fields : List (FieldName × Expr)) :
    fieldsSampled fields = fields.flatMap fun field => field.2.sampled := by
  induction fields with
  | nil => simp [fieldsSampled]
  | cons field fields ih =>
    obtain ⟨name, value⟩ := field
    simp [fieldsSampled, ih]

end Expr

/-! ## Statements on computations -/

namespace Synthesis

variable {α β : Type} {p q : Prop} {Q R : α → Prop} {E F : Fault → Prop}

/-- Whatever identifiers are left, a computation succeeds exactly when `p` holds. Its result then is
one of `Q`, and otherwise its fault is one of `E`. -/
def Meets (x : Synthesis α) (p : Prop) (Q : α → Prop) (E : Fault → Prop) : Prop :=
  ∀ identifiers, match (x.run identifiers).1 with
    | .ok a => p ∧ Q a
    | .error fault => ¬ p ∧ E fault

/-- A computation that gives a result has the condition met. -/
theorem Meets.of_ok {x : Synthesis α} (h : x.Meets p Q E) {before after : Identifiers} {a : α}
    (run : x.run before = (.ok a, after)) : p ∧ Q a := by
  have := h before
  rwa [run] at this

/-- A computation that gives a fault has the condition broken. -/
theorem Meets.of_error {x : Synthesis α} (h : x.Meets p Q E) {before after : Identifiers}
    {fault : Fault} (run : x.run before = (.error fault, after)) : ¬ p ∧ E fault := by
  have := h before
  rwa [run] at this

theorem Meets.mono {x : Synthesis α} (h : x.Meets p Q E) (condition : p ↔ q)
    (result : ∀ a, Q a → R a) (fault : ∀ f, E f → F f) : x.Meets q R F := by
  intro identifiers
  have hx := h identifiers
  split at hx
  · exact ⟨condition.mp hx.1, result _ hx.2⟩
  · exact ⟨fun hq => hx.1 (condition.mpr hq), fault _ hx.2⟩

/-- The condition may be said in another way. -/
theorem Meets.congr {x : Synthesis α} (h : x.Meets p Q E) (condition : p ↔ q) : x.Meets q Q E :=
  h.mono condition (fun _ => id) (fun _ => id)

/-- Less may be said of the fault. -/
theorem Meets.imp_fault {x : Synthesis α} (h : x.Meets p Q E) (fault : ∀ f, E f → F f) :
    x.Meets p Q F :=
  h.mono .rfl (fun _ => id) fault

theorem meets_pure {a : α} (h : Q a) : Meets (pure a) True Q E := fun _ => ⟨trivial, h⟩

theorem meets_ofExcept (x : Except Fault α) :
    (ofExcept x).Meets (∃ a, x = .ok a) (fun a => x = .ok a) (fun fault => x = .error fault) := by
  intro identifiers
  cases x with
  | ok a => exact ⟨⟨a, rfl⟩, rfl⟩
  | error fault => exact ⟨by simp, rfl⟩

theorem meets_identifier : identifier.Meets True (fun _ => True) E := fun _ => ⟨trivial, trivial⟩

/-- What comes after a computation runs on its result, with the identifiers that it leaves. -/
theorem run_bind (x : Synthesis α) (f : α → Synthesis β) (identifiers : Identifiers) :
    (x >>= f).run identifiers =
      match x.run identifiers with
      | (.ok a, after) => (f a).run after
      | (.error fault, after) => (.error fault, after) := by
  show (x.run >>= ExceptT.bindCont f) identifiers = _
  show (ExceptT.bindCont f (x.run identifiers).1) (x.run identifiers).2 = _
  rcases x.run identifiers with ⟨_ | _, _⟩ <;> rfl

/-- What comes after a computation meets its part for every result that the computation may have. -/
theorem Meets.bind {x : Synthesis α} {f : α → Synthesis β} {R : β → Prop} (hx : x.Meets p Q E)
    (hf : ∀ a, Q a → (f a).Meets q R E) : (x >>= f).Meets (p ∧ q) R E := by
  intro identifiers
  rw [run_bind]
  rcases hrun : x.run identifiers with ⟨fault | a, after⟩
  · have hfirst := hx.of_error hrun
    exact ⟨fun h => hfirst.1 h.1, hfirst.2⟩
  · have hfirst := hx.of_ok hrun
    dsimp only
    rcases hnext : (f a).run after with ⟨fault | b, last⟩
    · have hsecond := (hf a hfirst.2).of_error hnext
      exact ⟨fun h => hsecond.1 h.2, hsecond.2⟩
    · have hsecond := (hf a hfirst.2).of_ok hnext
      exact ⟨⟨hfirst.1, hsecond.1⟩, hsecond.2⟩

/-- A traversal succeeds when each of its computations does, and its results are theirs. -/
theorem meets_mapM {f : α → Synthesis β} {P : α → Prop} {R : α → β → Prop} (l : List α)
    (h : ∀ a ∈ l, (f a).Meets (P a) (R a) E) :
    (l.mapM f).Meets (∀ a ∈ l, P a) (List.Forall₂ R l) E := by
  induction l with
  | nil =>
    rw [List.mapM_nil]
    exact (meets_pure .nil).congr (by simp)
  | cons a l ih =>
    obtain ⟨ha, hl⟩ := List.forall_mem_cons.mp h
    rw [List.mapM_cons]
    refine Meets.congr (ha.bind fun b hb => (ih hl).bind fun bs hbs => meets_pure (.cons hb hbs)) ?_
    rw [List.forall_mem_cons, and_true]

end Synthesis

/-! ## Scalars -/

open Synthesis

/-- The placeholder of a kind can always be made, and takes no samples. -/
theorem placeholder_meets (kind : ScalarKind) (targets : Targets) {E : Fault → Prop} :
    (placeholder kind targets).Meets True (fun e => e.sampled = []) E := by
  cases kind
  case uuid =>
    refine (meets_identifier.bind fun number _ => meets_pure ?_).congr (and_true _ ▸ .rfl)
    simp [Expr.sampled, Expr.listSampled]
  all_goals exact meets_pure (by simp [Expr.sampled, Expr.listSampled])

theorem sampled_categoryExpr (category : Category) (targets : Targets) :
    (categoryExpr category targets).sampled = [] := by
  unfold categoryExpr
  split <;> simp [Expr.sampled, Expr.fieldsSampled]

/-- A call of the data provider takes no samples. -/
theorem sampled_providerCall (kind : ScalarKind) (category : Option Category) (targets : Targets) :
    (providerCall kind category targets).sampled = [] := by
  unfold providerCall
  split <;> simp [Expr.sampled, Expr.listSampled, sampled_categoryExpr]

/-! ## All types -/

variable {surroundings : Surroundings}

/-- A reference has samples and is a path. -/
def Surroundings.Offers (surroundings : Surroundings) (path : String) : Prop :=
  surroundings.status path = .available ∧ ∃ type, readPath path = .ok type

/-- The value of a reference is there exactly when it has samples and is a path. -/
theorem referenceExpr_eq_ok_iff {path : String} {e : Expr} :
    referenceExpr path surroundings = .ok e ↔ surroundings.status path = .available ∧
      ∃ type, readPath path = .ok type ∧ .firstSample type surroundings.targets.member = e := by
  unfold referenceExpr
  split <;> simp_all [map_eq_ok_iff]

/-- A reference is written if samples of its type are offered, and then takes one sample of this type. -/
theorem referenceExpr_meets (path : String) :
    (ofExcept (referenceExpr path surroundings)).Meets (surroundings.Offers path)
      (fun e => List.Forall₂ (fun path type => readPath path = .ok type) [path] e.sampled)
      (fun fault => referenceExpr path surroundings = .error fault) := by
  refine (meets_ofExcept _).mono ?_ ?_ (fun _ => id)
  · simp only [referenceExpr_eq_ok_iff, Surroundings.Offers]
    constructor
    · rintro ⟨_, hstatus, type, htype, _⟩
      exact ⟨hstatus, type, htype⟩
    · rintro ⟨hstatus, type, htype⟩
      exact ⟨_, hstatus, type, htype, rfl⟩
  · intro e h
    obtain ⟨_, type, htype, rfl⟩ := referenceExpr_eq_ok_iff.mp h
    rw [Expr.sampled]
    exact .cons htype .nil

/-- The value of a type can be made exactly when each of its references has samples and is a path. It
takes the first samples of these, in their order; where it cannot be made, the fault is that of a
reference. -/
theorem synthesize_meets (type : TypeRef) (category : Option Category) :
    (synthesize surroundings type category).Meets
      (∀ path ∈ type.references, surroundings.Offers path)
      (fun e => List.Forall₂ (fun path type => readPath path = .ok type) type.references e.sampled)
      (fun fault => ∃ path ∈ type.references, referenceExpr path surroundings = .error fault) := by
  induction type generalizing category with
  | scalar kind =>
    have hnone : ∀ e : Expr, e.sampled = [] →
        List.Forall₂ (fun path type => readPath path = .ok type) [] e.sampled :=
      fun e he => he ▸ .nil
    unfold synthesize
    split
    · exact (placeholder_meets kind _).mono (by simp [TypeRef.references]) hnone (fun _ => id)
    · refine (meets_pure ?_).mono (by simp [TypeRef.references]) hnone (fun _ => id)
      exact sampled_providerCall _ _ _
  | array element ih =>
    unfold synthesize
    refine ((ih category).bind fun e he => meets_pure ?_).congr (and_true _ ▸ .rfl)
    simpa [Expr.sampled, Expr.listSampled, TypeRef.references] using he
  | mapping kind key value ihKey ihValue =>
    unfold synthesize
    refine Meets.congr (p := _ ∧ _ ∧ True)
      (((ihKey none).imp_fault ?_).bind fun k hk =>
        ((ihValue category).imp_fault ?_).bind fun v hv => meets_pure ?_) ?_
    · rintro fault ⟨path, hpath, hfault⟩
      exact ⟨path, List.mem_append_left _ hpath, hfault⟩
    · rintro fault ⟨path, hpath, hfault⟩
      exact ⟨path, List.mem_append_right _ hpath, hfault⟩
    · simpa [Expr.sampled, Expr.pairsSampled, TypeRef.references] using List.rel_append hk hv
    · rw [and_true, TypeRef.references, List.forall_mem_append]
  | reference path =>
    unfold synthesize
    refine (referenceExpr_meets path).mono (by simp [TypeRef.references]) (fun _ => id) ?_
    exact fun fault h => ⟨path, List.mem_singleton.mpr rfl, h⟩

/-- The value of a parameter is that of its type. -/
theorem Parameter.synthesize_meets (surroundings : Surroundings) (parameter : Parameter) :
    (parameter.synthesize surroundings).Meets
      (∀ path ∈ parameter.type.references, surroundings.Offers path)
      (fun e => List.Forall₂ (fun path type => readPath path = .ok type)
        parameter.type.references e.sampled)
      (fun fault => ∃ path ∈ parameter.type.references,
        referenceExpr path surroundings = .error fault) :=
  Specimen.synthesize_meets parameter.type parameter.category

end Specimen
