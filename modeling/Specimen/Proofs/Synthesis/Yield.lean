import Specimen.Proofs.Synthesis

/-!
# Which identifiers a computation takes

A computation takes the identifiers that it needs in a row from the counter, whether it succeeds or
fails in the end. `Synthesis.Yields` speaks of both at once: of the result of a computation that
succeeds, and of the numbers that it has taken on its way. It also says under which condition numbers
are taken at all.

The numbers of a computation that is put together are those of its parts, one after the other. For a
traversal this is `Synthesis.Threaded`: every element has its result and its share of the numbers.
-/

namespace Specimen.Synthesis

variable {α β : Type} {takes : Prop} {Q : α → List Nat → Prop}

/-- Wherever the counter stands, a computation takes a number of identifiers from it, and none unless
`takes` holds. If it succeeds, its result and the numbers that it has taken are in `Q`. -/
def Yields (x : Synthesis α) (takes : Prop) (Q : α → List Nat → Prop) : Prop :=
  ∀ before, ∃ count, (x.run before).2.next = before.next + count ∧ (count ≠ 0 → takes) ∧
    ∀ a, (x.run before).1 = .ok a → Q a (List.range' before.next count)

theorem Yields.mono {R : α → List Nat → Prop} {x : Synthesis α} (h : x.Yields takes Q)
    (sub : ∀ a taken, Q a taken → R a taken) : x.Yields takes R := by
  intro before
  obtain ⟨count, hcount, htakes, hresult⟩ := h before
  exact ⟨count, hcount, htakes, fun a ha => sub a _ (hresult a ha)⟩

/-- A result of a run is one of those that are known, with the numbers that were taken for it. -/
theorem Yields.of_ok {x : Synthesis α} {before : Identifiers} {a : α} (h : x.Yields takes Q)
    (ha : (x.run before).1 = .ok a) : ∃ taken, Q a taken := by
  obtain ⟨count, _, _, hresult⟩ := h before
  exact ⟨_, hresult a ha⟩

/-- The counter stays where it is if nothing is taken from it. -/
theorem Yields.idle {x : Synthesis α} (h : x.Yields takes Q) (idle : ¬ takes)
    (before : Identifiers) :
    (x.run before).2 = before ∧ ∀ a, (x.run before).1 = .ok a → Q a [] := by
  obtain ⟨count, hcount, htakes, hresult⟩ := h before
  have hzero : count = 0 := by
    by_contra hne
    exact idle (htakes hne)
  subst hzero
  exact ⟨congrArg Identifiers.mk hcount, hresult⟩

theorem yields_pure {a : α} (h : Q a []) : (pure a : Synthesis α).Yields takes Q := by
  intro before
  refine ⟨0, rfl, fun hne => absurd rfl hne, fun b hb => ?_⟩
  obtain rfl : a = b := Except.ok.inj hb
  exact h

theorem yields_throw (fault : Fault) : (throw fault : Synthesis α).Yields takes Q :=
  fun _ => ⟨0, rfl, fun hne => absurd rfl hne, fun _ h => nomatch h⟩

theorem yields_ofExcept {x : Except Fault α} (h : ∀ a, x = .ok a → Q a []) :
    (ofExcept x).Yields takes Q := by
  cases x with
  | ok a => exact yields_pure (h a rfl)
  | error fault => exact yields_throw fault

/-- An identifier is the number that is taken for it. -/
theorem yields_identifier (h : takes) : identifier.Yields takes fun n taken => taken = [n] := by
  intro before
  refine ⟨1, rfl, fun _ => h, fun n hn => ?_⟩
  obtain rfl : before.next = n := Except.ok.inj hn
  rfl

/-- What comes after a computation takes the numbers that come after its numbers. -/
theorem Yields.bind {x : Synthesis α} {f : α → Synthesis β} {R : β → List Nat → Prop}
    (hx : x.Yields takes Q)
    (hf : ∀ a first, Q a first → (f a).Yields takes fun b second => R b (first ++ second)) :
    (x >>= f).Yields takes R := by
  intro before
  obtain ⟨m, hm, htakes, hresult⟩ := hx before
  rw [run_bind]
  rcases hrun : x.run before with ⟨fault | a, after⟩
  · rw [hrun] at hm
    exact ⟨m, hm, htakes, fun _ h => nomatch h⟩
  · rw [hrun] at hm hresult
    obtain ⟨n, hn, htakes', hnext⟩ := hf a _ (hresult a rfl) after
    have hafter : after.next = before.next + m := hm
    rw [hafter] at hn hnext
    refine ⟨m + n, by rw [hn, Nat.add_assoc], fun hne => ?_, fun b hb => ?_⟩
    · by_cases hzero : m = 0
      · exact htakes' (by omega)
      · exact htakes hzero
    · rw [← List.range'_append_1]
      exact hnext b hb

/-- Every element of a list has its result and its share of the numbers, from left to right. -/
inductive Threaded (P : α → β → List Nat → Prop) : List α → List β → List Nat → Prop
  | nil : Threaded P [] [] []
  | cons {a : α} {b : β} {l : List α} {bs : List β} {first rest : List Nat} (head : P a b first)
      (tail : Threaded P l bs rest) : Threaded P (a :: l) (b :: bs) (first ++ rest)

/-- Computations in a row take their shares of the numbers from left to right. -/
theorem yields_mapM {P : α → β → List Nat → Prop} {f : α → Synthesis β} {l : List α}
    (h : ∀ a ∈ l, (f a).Yields takes (P a)) :
    (l.mapM f).Yields takes (Threaded P l) := by
  induction l with
  | nil =>
    rw [List.mapM_nil]
    exact yields_pure .nil
  | cons a l ih =>
    obtain ⟨ha, hl⟩ := List.forall_mem_cons.mp h
    rw [List.mapM_cons]
    refine ha.bind fun b first hb => (ih hl).bind fun bs rest hbs => yields_pure ?_
    rw [List.append_nil]
    exact .cons hb hbs

namespace Threaded

variable {P : α → β → List Nat → Prop} {l : List α} {bs : List β} {taken : List Nat}

/-- Elements and results are related one by one, whatever their shares are. -/
theorem forall₂ {R : α → β → Prop} (h : Threaded P l bs taken)
    (sub : ∀ a b share, P a b share → R a b) : List.Forall₂ R l bs := by
  induction h with
  | nil => exact .nil
  | cons head _ ih => exact .cons (sub _ _ _ head) ih

/-- Every result comes from an element of the list, with its share of the numbers. -/
theorem exists_of_mem (h : Threaded P l bs taken) {b : β} (hb : b ∈ bs) :
    ∃ a ∈ l, ∃ share, P a b share := by
  have hpairs : List.Forall₂ (fun a b => ∃ share, P a b share) l bs :=
    h.forall₂ fun _ _ share hshare => ⟨share, hshare⟩
  exact exists_of_mem_forall₂ hpairs hb

/-- Results that show their own shares show all numbers together. -/
theorem flatMap_eq {numbers : β → List Nat} (h : Threaded P l bs taken)
    (shows : ∀ a b share, P a b share → numbers b = share) : bs.flatMap numbers = taken := by
  induction h with
  | nil => rfl
  | cons head _ ih => rw [List.flatMap_cons, shows _ _ _ head, ih]

end Threaded

end Specimen.Synthesis
