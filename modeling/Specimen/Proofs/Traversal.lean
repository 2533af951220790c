import Mathlib.Data.List.Forall2

/-!
# Traversals that may fail

What a traversal of a list gives, and where it stops, for functions that give a result or an error.
A traversal succeeds exactly when the function does on every element, and the results keep the order
of the elements (`mapM_eq_ok_iff`). Otherwise its error is that of the first element that has one
(`mapM_eq_error_iff`). Two traversals of related lists go the same way when they do on related elements
(`sameWay_mapM`).
-/

namespace Specimen

variable {α β ε : Type}

theorem bind_eq_ok_iff {x : Except ε α} {f : α → Except ε β} {b : β} :
    x >>= f = .ok b ↔ ∃ a, x = .ok a ∧ f a = .ok b := by
  cases x with
  | error e => simp [bind, Except.bind]
  | ok a => simp [bind, Except.bind]

/-- Two results in a row fail with the error of the first, or else with that of the second. -/
theorem bind_eq_error_iff {x : Except ε α} {f : α → Except ε β} {e : ε} :
    x >>= f = .error e ↔ x = .error e ∨ ∃ a, x = .ok a ∧ f a = .error e := by
  cases x with
  | error e => simp [bind, Except.bind]
  | ok a => simp [bind, Except.bind]

theorem map_eq_ok_iff {x : Except ε α} {f : α → β} {b : β} :
    x.map f = .ok b ↔ ∃ a, x = .ok a ∧ f a = b := by
  cases x with
  | error e => simp [Except.map]
  | ok a => simp [Except.map]

theorem map_eq_error_iff {x : Except ε α} {f : α → β} {e : ε} :
    x.map f = .error e ↔ x = .error e := by
  cases x with
  | error e => simp [Except.map]
  | ok a => simp [Except.map]

/-- A traversal succeeds exactly when the function does on every element. -/
theorem mapM_eq_ok_iff {f : α → Except ε β} {l : List α} {bs : List β} :
    l.mapM f = .ok bs ↔ List.Forall₂ (fun a b => f a = .ok b) l bs := by
  induction l generalizing bs with
  | nil =>
    rw [List.mapM_nil, List.forall₂_nil_left_iff]
    exact ⟨fun h => (Except.ok.inj h).symm, fun h => h ▸ rfl⟩
  | cons a l ih =>
    rw [List.mapM_cons, bind_eq_ok_iff, List.forall₂_cons_left_iff]
    constructor
    · rintro ⟨b, hb, hrest⟩
      obtain ⟨rest, hrest, heq⟩ := bind_eq_ok_iff.mp hrest
      exact ⟨b, rest, hb, ih.mp hrest, (Except.ok.inj heq).symm⟩
    · rintro ⟨b, rest, hb, hrest, rfl⟩
      exact ⟨b, hb, bind_eq_ok_iff.mpr ⟨rest, ih.mpr hrest, rfl⟩⟩

/-- A traversal fails exactly when the function fails on an element and on none before it. -/
theorem mapM_eq_error_iff {f : α → Except ε β} {l : List α} {e : ε} :
    l.mapM f = .error e ↔ ∃ before a after, l = before ++ a :: after ∧
      (∀ b ∈ before, ∃ c, f b = .ok c) ∧ f a = .error e := by
  induction l with
  | nil =>
    refine iff_of_false (fun h => ?_) ?_
    · cases h
    · rintro ⟨before, a, after, h, _⟩
      exact List.append_ne_nil_of_right_ne_nil _ (List.cons_ne_nil _ _) h.symm
  | cons a l ih =>
    rw [List.mapM_cons, bind_eq_error_iff]
    constructor
    · rintro (ha | ⟨b, hb, hrest⟩)
      · exact ⟨[], a, l, rfl, fun _ h => absurd h List.not_mem_nil, ha⟩
      · rcases bind_eq_error_iff.mp hrest with hrest | ⟨_, _, hpure⟩
        · obtain ⟨before, c, after, rfl, hbefore, hc⟩ := ih.mp hrest
          exact ⟨a :: before, c, after, rfl, List.forall_mem_cons.mpr ⟨⟨b, hb⟩, hbefore⟩, hc⟩
        · cases hpure
    · rintro ⟨before, c, after, heq, hbefore, hc⟩
      cases before with
      | nil =>
        obtain ⟨rfl, rfl⟩ := List.cons.inj heq
        exact .inl hc
      | cons first before =>
        obtain ⟨rfl, rfl⟩ := List.cons.inj heq
        obtain ⟨⟨b, hb⟩, hbefore⟩ := List.forall_mem_cons.mp hbefore
        exact .inr ⟨b, hb, bind_eq_error_iff.mpr (.inl (ih.mpr ⟨before, c, after, rfl, hbefore, hc⟩))⟩

/-- The error of a traversal is the first that an element has. -/
theorem mapM_eq_error_iff_findSome? {f : α → Except ε β} {g : α → Option ε}
    (errors : ∀ a e, f a = .error e ↔ g a = some e) {l : List α} {e : ε} :
    l.mapM f = .error e ↔ l.findSome? g = some e := by
  have hresult : ∀ a, (∃ b, f a = .ok b) ↔ g a = none := by
    intro a
    rw [Option.eq_none_iff_forall_ne_some]
    cases hf : f a with
    | ok b => simpa [hf] using fun e => (errors a e).not.mp (by simp [hf])
    | error e => simpa using ⟨e, (errors a e).mp hf⟩
  rw [mapM_eq_error_iff, List.findSome?_eq_some_iff]
  simp only [hresult, errors]
  exact exists_congr fun before => exists_congr fun a => exists_congr fun after =>
    and_congr_right fun _ => and_comm

/-- What is found first in pieces put together is found first in the first piece that has it. -/
theorem findSome?_flatMap {γ : Type} {f : α → List β} {g : β → Option γ} (l : List α) :
    (l.flatMap f).findSome? g = l.findSome? fun a => (f a).findSome? g := by
  induction l with
  | nil => rfl
  | cons a l ih =>
    rw [List.flatMap_cons, List.findSome?_append, List.findSome?_cons, ih]
    cases (f a).findSome? g <;> rfl

/-- What stands on the right of two related lists is related to something on the left. -/
theorem exists_of_mem_forall₂ {R : α → β → Prop} {l : List α} {bs : List β}
    (h : List.Forall₂ R l bs) {b : β} (hb : b ∈ bs) : ∃ a ∈ l, R a b := by
  induction h with
  | nil => exact absurd hb List.not_mem_nil
  | @cons a c l bs hac _ ih =>
    rcases List.mem_cons.mp hb with rfl | hb
    · exact ⟨a, List.mem_cons_self, hac⟩
    · obtain ⟨a', ha', h'⟩ := ih hb
      exact ⟨a', List.mem_cons_of_mem _ ha', h'⟩

/-- Every result of a traversal is that of an element. -/
theorem exists_of_mem_mapM {f : α → Except ε β} {l : List α} {bs : List β}
    (h : l.mapM f = .ok bs) {b : β} (hb : b ∈ bs) : ∃ a ∈ l, f a = .ok b :=
  exists_of_mem_forall₂ (mapM_eq_ok_iff.mp h) hb

/-- The error of a traversal is that of an element. -/
theorem exists_of_mapM_eq_error {f : α → Except ε β} {l : List α} {e : ε}
    (h : l.mapM f = .error e) : ∃ a ∈ l, f a = .error e := by
  obtain ⟨before, a, after, rfl, _, ha⟩ := mapM_eq_error_iff.mp h
  exact ⟨a, by simp, ha⟩

/-- Related lists stay related when related pieces are put together for their elements. -/
theorem forall₂_flatMap {γ δ : Type} {R : γ → δ → Prop} {f : α → List γ} {g : β → List δ}
    {l : List α} {bs : List β} (h : List.Forall₂ (fun a b => List.Forall₂ R (f a) (g b)) l bs) :
    List.Forall₂ R (l.flatMap f) (bs.flatMap g) := by
  induction h with
  | nil => exact .nil
  | cons hab _ ih =>
    rw [List.flatMap_cons, List.flatMap_cons]
    exact List.rel_append hab ih

/-- If the pieces for related elements are equal, so is what is put together from them. -/
theorem flatMap_eq_of_forall₂ {γ : Type} {f : α → List γ} {g : β → List γ} {l : List α}
    {bs : List β} (h : List.Forall₂ (fun a b => f a = g b) l bs) : l.flatMap f = bs.flatMap g := by
  induction h with
  | nil => rfl
  | cons hab _ ih => rw [List.flatMap_cons, List.flatMap_cons, hab, ih]

/-- Related lists are related with the positions of their elements. -/
theorem forall₂_zipIdx {R : α → β → Prop} {l : List α} {bs : List β} (h : List.Forall₂ R l bs)
    (n : Nat) : List.Forall₂ (fun a b => R a.1 b.1 ∧ a.2 = b.2) (l.zipIdx n) (bs.zipIdx n) := by
  induction h generalizing n with
  | nil => exact .nil
  | cons hab _ ih => exact .cons ⟨hab, rfl⟩ (ih (n + 1))

/-- Related lists have related elements at a position, or none. -/
theorem forall₂_getElem? {R : α → β → Prop} {l : List α} {bs : List β} (h : List.Forall₂ R l bs)
    (i : Nat) : Option.Rel R l[i]? bs[i]? := by
  induction h generalizing i with
  | nil => exact .none
  | cons hab _ ih =>
    cases i with
    | zero => exact .some hab
    | succ i => exact ih i

/-- Elements that become the same one by one make the same row. -/
theorem map_eq_map_of_forall₂ {f : α → β} {l l' : List α}
    (h : List.Forall₂ (fun a a' => f a = f a') l l') : l.map f = l'.map f := by
  induction h with
  | nil => rfl
  | cons hab _ ih => rw [List.map_cons, List.map_cons, hab, ih]

theorem forall₂_isEmpty {R : α → β → Prop} {l : List α} {bs : List β} (h : List.Forall₂ R l bs) :
    bs.isEmpty = l.isEmpty := by
  cases h <;> rfl

/-- What holds of all holds of all that are related to them. -/
theorem forall₂_all {R : α → β → Prop} {p : α → Bool} {q : β → Bool} {l : List α} {bs : List β}
    (h : List.Forall₂ R l bs) (same : ∀ a b, R a b → q b = p a) : bs.all q = l.all p := by
  induction h with
  | nil => rfl
  | cons hab _ ih => rw [List.all_cons, List.all_cons, same _ _ hab, ih]

theorem forall₂_any {R : α → β → Prop} {p : α → Bool} {q : β → Bool} {l : List α} {bs : List β}
    (h : List.Forall₂ R l bs) (same : ∀ a b, R a b → q b = p a) : bs.any q = l.any p := by
  induction h with
  | nil => rfl
  | cons hab _ ih => rw [List.any_cons, List.any_cons, same _ _ hab, ih]

/-- Among the elements of two lists only those in them have to be considered. -/
theorem forall₂_mono_mem {R S : α → β → Prop} {l : List α} {bs : List β} (h : List.Forall₂ R l bs)
    (sub : ∀ a ∈ l, ∀ b ∈ bs, R a b → S a b) : List.Forall₂ S l bs := by
  induction h with
  | nil => exact .nil
  | cons hab _ ih =>
    refine .cons (sub _ List.mem_cons_self _ List.mem_cons_self hab) (ih fun a ha b hb => ?_)
    exact sub a (List.mem_cons_of_mem _ ha) b (List.mem_cons_of_mem _ hb)

/-- What is found first in two related lists is related, if related elements are sought together. -/
theorem forall₂_find? {R : α → β → Prop} {p : α → Bool} {q : β → Bool} {l : List α} {bs : List β}
    (h : List.Forall₂ R l bs) (same : ∀ a b, R a b → p a = q b) :
    Option.Rel R (l.find? p) (bs.find? q) := by
  induction h with
  | nil => exact .none
  | cons hab _ ih =>
    rw [List.find?_cons, List.find?_cons, ← same _ _ hab]
    split
    · exact .some hab
    · exact ih

/-! ## Two results -/

variable {γ δ : Type} {R : α → β → Prop} {S : γ → δ → Prop}

/-- Either both have results, which are related, or both have the same error. -/
inductive SameWay (R : α → β → Prop) : Except ε α → Except ε β → Prop
  | ok {a : α} {b : β} (h : R a b) : SameWay R (.ok a) (.ok b)
  | error (e : ε) : SameWay R (.error e) (.error e)

theorem SameWay.refl {R : α → α → Prop} (h : ∀ a, R a a) (x : Except ε α) : SameWay R x x := by
  cases x with
  | ok a => exact .ok (h a)
  | error e => exact .error e

/-- Results that go the same way still do when they are changed alike. -/
theorem SameWay.map {x : Except ε α} {y : Except ε β} (h : SameWay R x y) {f : α → γ} {g : β → δ}
    (results : ∀ a b, R a b → S (f a) (g b)) : SameWay S (x.map f) (y.map g) := by
  cases h with
  | ok h => exact .ok (results _ _ h)
  | error e => exact .error e

/-- Results that go the same way still do when what follows does. -/
theorem SameWay.bind {x : Except ε α} {y : Except ε β} (h : SameWay R x y) {f : α → Except ε γ}
    {g : β → Except ε δ} (rest : ∀ a b, R a b → SameWay S (f a) (g b)) :
    SameWay S (x >>= f) (y >>= g) := by
  cases h with
  | ok h => exact rest _ _ h
  | error e => exact .error e

/-- Going through rows that are related one by one goes the same way. -/
theorem sameWay_mapM {f : α → Except ε γ} {g : β → Except ε δ} {l : List α} {bs : List β}
    (h : List.Forall₂ R l bs) (elements : ∀ a b, R a b → SameWay S (f a) (g b)) :
    SameWay (List.Forall₂ S) (l.mapM f) (bs.mapM g) := by
  induction h with
  | nil => exact .ok .nil
  | cons hab _ ih =>
    rw [List.mapM_cons, List.mapM_cons]
    exact (elements _ _ hab).bind fun _ _ hcd => ih.bind fun _ _ hrest => .ok (.cons hcd hrest)

end Specimen
