import Specimen.Proofs.Synthesis

/-!
# Computations that go the same way

Two computations go the same way when they succeed or fail together: with results that are related, or
with the same fault. If their counters are related before, they are related after
(`Synthesis.Parallel`). As the statements on single computations, these follow the way in which the
computations are put together.

What is asked of the counters decides about the numbers of identifiers. Where the counters are the
same, so are the numbers. Where nothing is asked of the counters, the computations agree whatever
identifiers each of them gets (`Synthesis.Agree`).
-/

namespace Specimen.Synthesis

variable {α β γ δ : Type} {C : Identifiers → Identifiers → Prop} {R : α → β → Prop}

/-! ## With counters that are related -/

/-- From counters that are related, both computations get to counters that are related, and either both
have results that are related, or both have the same fault. -/
def Parallel (C : Identifiers → Identifiers → Prop) (R : α → β → Prop) (x : Synthesis α)
    (y : Synthesis β) : Prop :=
  ∀ i j, C i j → C (x.run i).2 (y.run j).2 ∧
    match (x.run i).1, (y.run j).1 with
    | .ok a, .ok b => R a b
    | .error f, .error g => f = g
    | _, _ => False

theorem Parallel.mono {S : α → β → Prop} {x : Synthesis α} {y : Synthesis β} (h : Parallel C R x y)
    (sub : ∀ a b, R a b → S a b) : Parallel C S x y := by
  intro i j hij
  obtain ⟨hcounters, hresults⟩ := h i j hij
  refine ⟨hcounters, ?_⟩
  split <;> simp_all

theorem parallel_pure {a : α} {b : β} (h : R a b) : Parallel C R (pure a) (pure b) :=
  fun _ _ hij => ⟨hij, h⟩

theorem parallel_throw (fault : Fault) : Parallel C R (throw fault) (throw fault) :=
  fun _ _ hij => ⟨hij, rfl⟩

theorem parallel_ofExcept {R : α → α → Prop} {x : Except Fault α} (h : ∀ a, x = .ok a → R a a) :
    Parallel C R (ofExcept x) (ofExcept x) := by
  cases x with
  | ok a => exact parallel_pure (h a rfl)
  | error fault => exact parallel_throw fault

/-- Computations that are parallel still are when others follow that are parallel on their results. -/
theorem Parallel.bind {S : γ → δ → Prop} {x : Synthesis α} {y : Synthesis β} {f : α → Synthesis γ}
    {g : β → Synthesis δ} (hx : Parallel C R x y) (hf : ∀ a b, R a b → Parallel C S (f a) (g b)) :
    Parallel C S (x >>= f) (y >>= g) := by
  intro i j hij
  obtain ⟨hcounters, hresults⟩ := hx i j hij
  rw [run_bind, run_bind]
  rcases hrun : x.run i with ⟨fault | a, i'⟩ <;> rcases hrun' : y.run j with ⟨fault' | b, j'⟩ <;>
    rw [hrun, hrun'] at hcounters hresults
  · exact ⟨hcounters, hresults⟩
  · exact hresults.elim
  · exact hresults.elim
  · exact hf a b hresults i' j' hcounters

/-- Traversals of related lists go the same way when they do on related elements. -/
theorem parallel_mapM {P : α → β → Prop} {S : γ → δ → Prop} {f : α → Synthesis γ}
    {g : β → Synthesis δ} {l : List α} {l' : List β} (h : List.Forall₂ P l l')
    (elements : ∀ a b, P a b → Parallel C S (f a) (g b)) :
    Parallel C (List.Forall₂ S) (l.mapM f) (l'.mapM g) := by
  induction h with
  | nil => exact parallel_pure .nil
  | cons head _ ih =>
    rw [List.mapM_cons, List.mapM_cons]
    exact (elements _ _ head).bind fun c d hcd => ih.bind fun cs ds hrest =>
      parallel_pure (.cons hcd hrest)

/-- From the same counter, a computation goes the same way as it does itself. -/
theorem parallel_rfl (x : Synthesis α) : Parallel Eq Eq x x := by
  rintro i _ rfl
  refine ⟨rfl, ?_⟩
  cases (x.run i).1 <;> rfl

/-- Computations that go the same way from every counter are equal. -/
theorem eq_of_parallel {x y : Synthesis α} (h : Parallel Eq Eq x y) : x = y := by
  have hrun : ∀ i, x.run i = y.run i := by
    intro i
    obtain ⟨hcounters, hresults⟩ := h i i rfl
    refine Prod.ext ?_ hcounters
    split at hresults <;> simp_all
  exact funext hrun

/-! ## Values -/

/-- Lists and maps of values that are related are related. -/
structure Nests (R : Expr → Expr → Prop) : Prop where
  list {e e' : Expr} : R e e' → R (.list [e]) (.list [e'])
  map {k k' v v' : Expr} : R k k' → R v v' → R (.map [(k, v)]) (.map [(k', v')])

/-- Values are made in the same way in two surroundings if their scalars and their references are. -/
theorem synthesize_parallel {R : Expr → Expr → Prop} (nests : Nests R) {S S' : Surroundings}
    (scalar : ∀ kind category, Parallel C R (synthesize S (.scalar kind) category)
      (synthesize S' (.scalar kind) category)) {type : TypeRef}
    (reference : ∀ path ∈ type.references, Parallel C R (ofExcept (referenceExpr path S))
      (ofExcept (referenceExpr path S'))) (category : Option Category) :
    Parallel C R (synthesize S type category) (synthesize S' type category) := by
  induction type generalizing category with
  | scalar kind => exact scalar kind category
  | array element ih =>
    rw [synthesize, synthesize]
    exact (ih reference category).bind fun _ _ h => parallel_pure (nests.list h)
  | mapping kind key value ihKey ihValue =>
    have hkey := fun path hpath => reference path (List.mem_append_left _ hpath)
    have hvalue := fun path hpath => reference path (List.mem_append_right _ hpath)
    rw [synthesize, synthesize]
    exact (ihKey hkey none).bind fun _ _ hk => (ihValue hvalue category).bind fun _ _ hv =>
      parallel_pure (nests.map hk hv)
  | reference path =>
    rw [synthesize, synthesize]
    exact reference path List.mem_cons_self

/-! ## Whatever the counters are -/

/-- Wherever their counters stand, either both computations have results that are related, or both
have the same fault. -/
def Agree (R : α → β → Prop) (x : Synthesis α) (y : Synthesis β) : Prop :=
  ∀ i j, match (x.run i).1, (y.run j).1 with
    | .ok a, .ok b => R a b
    | .error f, .error g => f = g
    | _, _ => False

/-- Computations agree when they go the same way from all counters. -/
theorem agree_iff_parallel {x : Synthesis α} {y : Synthesis β} :
    Agree R x y ↔ Parallel (fun _ _ => True) R x y := by
  simp only [Agree, Parallel, true_and, forall_const]

theorem Agree.mono {S : α → β → Prop} {x : Synthesis α} {y : Synthesis β} (h : Agree R x y)
    (sub : ∀ a b, R a b → S a b) : Agree S x y :=
  agree_iff_parallel.mpr ((agree_iff_parallel.mp h).mono sub)

theorem agree_pure {a : α} {b : β} (h : R a b) : Agree R (pure a) (pure b) := fun _ _ => h

/-- Numbers are not the same where counters stand apart. -/
theorem agree_identifier : Agree (fun _ _ => True) identifier identifier := fun _ _ => trivial

/-- Computations that agree still do when others follow that agree on their results. -/
theorem Agree.bind {S : γ → δ → Prop} {x : Synthesis α} {y : Synthesis β} {f : α → Synthesis γ}
    {g : β → Synthesis δ} (hx : Agree R x y) (hf : ∀ a b, R a b → Agree S (f a) (g b)) :
    Agree S (x >>= f) (y >>= g) :=
  agree_iff_parallel.mpr ((agree_iff_parallel.mp hx).bind fun a b hab =>
    agree_iff_parallel.mp (hf a b hab))

/-- Two computations that cannot fail agree. -/
theorem agree_of_meets {P : α → Prop} {Q : β → Prop} {E F : Fault → Prop} {x : Synthesis α}
    {y : Synthesis β} (hx : x.Meets True P E) (hy : y.Meets True Q F) :
    Agree (fun a b => P a ∧ Q b) x y := by
  intro i j
  rcases hrun : x.run i with ⟨fault | a, i'⟩ <;> rcases hrun' : y.run j with ⟨fault' | b, j'⟩
  · exact absurd trivial (hx.of_error hrun).1
  · exact absurd trivial (hx.of_error hrun).1
  · exact absurd trivial (hy.of_error hrun').1
  · exact ⟨(hx.of_ok hrun).2, (hy.of_ok hrun').2⟩

end Specimen.Synthesis
