import Mathlib.Data.List.Chain
import Mathlib.Data.List.Perm.Subperm
import Mathlib.Logic.Relation
import Specimen.Generation.Cycle

/-!
# The search for a way back

The search of `Specimen.Cycle` looks at one name a round and gets on the stack every name that it
refers to and that has not been met. Three things are owed: the rounds it is given are enough, a way
that it gives is one, and it gives a way whenever there is one.

The rounds are counted by `Ends`, which follows the search until it stops by itself and knows no
bound. The stack and the names that are not met lose one in every round, so a search from `start`
stops within one round more than the graph has names (`ends_wayBack?`). The other two are read off
one invariant, `Search.Inv`, at the end of the run: what is on the stack comes with a way to it, and
what has been met and is off the stack refers to nothing but names that have been met.

The start is on the stack without having been met. It never gets there again, because a name that
refers to it ends the search.
-/

namespace Specimen.Cycle

variable {g : Graph} {start name : String} {way met : List String}
  {stack : List (String × List String)}

/-- One name refers to another. -/
def Edge (g : Graph) (a b : String) : Prop := b ∈ next g a

/-- A name that refers to something has a place in the graph. -/
theorem hasNode_of_edge {a b : String} (h : Edge g a b) : hasNode g a = true := by
  unfold Edge next at h
  cases hl : g.lookup a with
  | none => simp [hl] at h
  | some names => simp [hasNode, hl]

/-- A name with a place in the graph is one of its names. -/
theorem mem_names_of_hasNode {a : String} (h : hasNode g a = true) : a ∈ g.map Prod.fst := by
  obtain ⟨names, hl⟩ := Option.isSome_iff_exists.mp h
  obtain ⟨front, back, rfl, _⟩ := List.lookup_eq_some_iff.mp hl
  simp

/-! ## One round -/

/-- The names of a list that have a place in the graph and have not been met. -/
structure Fresh (g : Graph) (met names fresh : List String) : Prop where
  nodup : fresh.Nodup
  mem : ∀ n ∈ fresh, n ∈ names ∧ hasNode g n = true ∧ n ∉ met
  covers : ∀ n ∈ names, hasNode g n = true → n ∈ fresh ∨ n ∈ met

/-- A round meets the fresh names and gets each on the stack, with the way to it. -/
theorem foldl_meet (g : Graph) (way names : List String) (s : Search) :
    ∃ fresh, Fresh g s.met names fresh ∧
      names.foldl (Search.meet g way) s =
        ⟨fresh ++ s.met, fresh.map (fun n => (n, way ++ [n])) ++ s.stack⟩ := by
  induction names generalizing s with
  | nil => exact ⟨[], ⟨List.nodup_nil, by simp, by simp⟩, rfl⟩
  | cons n names ih =>
    by_cases hn : hasNode g n = true ∧ n ∉ s.met
    · have hmeet : s.meet g way n = ⟨n :: s.met, (n, way ++ [n]) :: s.stack⟩ := by
        simp [Search.meet, hn]
      obtain ⟨fresh, hfresh, heq⟩ := ih (s.meet g way n)
      rw [hmeet] at hfresh heq
      refine ⟨fresh ++ [n], ⟨?_, ?_, ?_⟩, ?_⟩
      · refine List.nodup_append.mpr ⟨hfresh.nodup, by simp, ?_⟩
        rintro a ha b hb rfl
        obtain rfl := List.mem_singleton.mp hb
        exact (hfresh.mem _ ha).2.2 List.mem_cons_self
      · intro m hm
        rcases List.mem_append.mp hm with hm | hm
        · obtain ⟨h₁, h₂, h₃⟩ := hfresh.mem m hm
          exact ⟨List.mem_cons_of_mem _ h₁, h₂, fun h => h₃ (List.mem_cons_of_mem _ h)⟩
        · obtain rfl := List.mem_singleton.mp hm
          exact ⟨List.mem_cons_self, hn⟩
      · intro m hm hnode
        rcases List.mem_cons.mp hm with rfl | hm
        · exact .inl (by simp)
        · rcases hfresh.covers m hm hnode with h | h
          · exact .inl (List.mem_append_left _ h)
          · rcases List.mem_cons.mp h with rfl | h
            · exact .inl (by simp)
            · exact .inr h
      · rw [List.foldl_cons, hmeet, heq]
        simp
    · have hmeet : s.meet g way n = s := by
        unfold Search.meet
        rw [if_neg]
        simpa using hn
      obtain ⟨fresh, hfresh, heq⟩ := ih s
      refine ⟨fresh, ⟨hfresh.nodup, ?_, ?_⟩, by rw [List.foldl_cons, hmeet, heq]⟩
      · intro m hm
        obtain ⟨h₁, h₂⟩ := hfresh.mem m hm
        exact ⟨List.mem_cons_of_mem _ h₁, h₂⟩
      · intro m hm hnode
        rcases List.mem_cons.mp hm with rfl | hm
        · exact .inr (by simpa [hnode] using hn)
        · exact hfresh.covers m hm hnode

/-! ## The end of a search -/

/-- A search ends after a number of rounds. No bound on the rounds is known to it. -/
inductive Ends (g : Graph) (start : String) : Search → Nat → Option (List String) → Prop
  | exhausted {met : List String} : Ends g start ⟨met, []⟩ 0 none
  | found {met : List String} {name : String} {way : List String}
      {stack : List (String × List String)} (h : Edge g name start) :
      Ends g start ⟨met, (name, way) :: stack⟩ 1 (some (way ++ [start]))
  | round {met : List String} {name : String} {way : List String}
      {stack : List (String × List String)} {n : Nat} {result : Option (List String)}
      (h : ¬ Edge g name start)
      (rest : Ends g start ((next g name).foldl (Search.meet g way) ⟨met, stack⟩) n result) :
      Ends g start ⟨met, (name, way) :: stack⟩ (n + 1) result

/-- A search that is given as many rounds as it takes has the result it ends with. -/
theorem Ends.search_eq {s : Search} {n rounds : Nat} {result : Option (List String)}
    (h : Ends g start s n result) (hn : n ≤ rounds) : search g start rounds s = result := by
  induction h generalizing rounds with
  | exhausted => cases rounds <;> rfl
  | found h =>
    obtain ⟨k, rfl⟩ := Nat.exists_eq_add_of_le' hn
    simp only [search, List.contains_iff_mem.mpr h, if_true]
  | round h _ ih =>
    obtain ⟨k, rfl⟩ := Nat.exists_eq_add_of_le' (Nat.le_trans (Nat.le_add_left 1 _) hn)
    have hstart : ¬ (next g _).contains start = true := fun hc => h (List.contains_iff_mem.mp hc)
    simp only [search, if_neg hstart]
    exact ih (by omega)

/-- Names that are all different and all in the graph are no more than the graph has. -/
theorem length_le_of_nodup {names : List String} (nodup : names.Nodup)
    (nodes : ∀ n ∈ names, hasNode g n = true) : names.length ≤ g.length := by
  have hsub : names ⊆ g.map Prod.fst := fun n hn => mem_names_of_hasNode (nodes n hn)
  simpa using (List.subperm_of_subset nodup hsub).length_le

/-- Every search ends: a round takes one name off the stack, and what it gets there has not been
met before. -/
theorem exists_ends (start : String) (m : Nat) (s : Search) (nodup : s.met.Nodup)
    (nodes : ∀ n ∈ s.met, hasNode g n = true)
    (hm : s.stack.length + (g.length - s.met.length) = m) :
    ∃ n ≤ m, ∃ result, Ends g start s n result := by
  induction m generalizing s with
  | zero =>
    obtain ⟨met, stack⟩ := s
    cases stack with
    | nil => exact ⟨0, Nat.le_refl 0, none, .exhausted⟩
    | cons _ _ => simp at hm
  | succ m ih =>
    obtain ⟨met, stack⟩ := s
    cases stack with
    | nil => exact ⟨0, Nat.zero_le _, none, .exhausted⟩
    | cons top stack =>
      obtain ⟨name, way⟩ := top
      by_cases h : Edge g name start
      · exact ⟨1, by omega, _, .found h⟩
      · obtain ⟨fresh, hfresh, heq⟩ := foldl_meet g way (next g name) ⟨met, stack⟩
        have hnodup : (fresh ++ met).Nodup := by
          refine List.nodup_append.mpr ⟨hfresh.nodup, nodup, ?_⟩
          rintro a ha b hb rfl
          exact (hfresh.mem a ha).2.2 hb
        have hnodes : ∀ n ∈ fresh ++ met, hasNode g n = true := by
          intro n hn
          rcases List.mem_append.mp hn with hn | hn
          · exact (hfresh.mem n hn).2.1
          · exact nodes n hn
        have hle := length_le_of_nodup hnodup hnodes
        simp only [List.length_append, List.length_cons] at hle hm
        obtain ⟨n, hn, result, hends⟩ :=
          ih ⟨fresh ++ met, fresh.map (fun n => (n, way ++ [n])) ++ stack⟩ hnodup hnodes
            (by simp only [List.length_append, List.length_map]; omega)
        exact ⟨n + 1, by omega, result, .round h (heq ▸ hends)⟩

/-- The search for a way back to `start` ends by itself, after at most one round more than the
graph has names, and its result is the one that is given. -/
theorem ends_wayBack? (g : Graph) (start : String) :
    ∃ n ≤ g.length + 1, Ends g start ⟨[], [(start, [start])]⟩ n (wayBack? g start) := by
  have hsize : [(start, [start])].length + (g.length - ([] : List String).length) = g.length + 1 := by
    simp only [List.length_cons, List.length_nil]
    omega
  obtain ⟨n, hn, result, hends⟩ :=
    exists_ends start (g.length + 1) ⟨[], [(start, [start])]⟩ List.nodup_nil
      (fun _ h => absurd h List.not_mem_nil) hsize
  have hresult : wayBack? g start = result := hends.search_eq hn
  exact ⟨n, hn, hresult ▸ hends⟩

/-! ## What a search has found out -/

/-- A way from the start to a name, along which no name comes twice. -/
inductive Way (g : Graph) (start : String) : String → List String → Prop
  | start : Way g start start [start]
  | step {a b : String} {way : List String} (before : Way g start a way) (edge : Edge g a b)
      (fresh : b ∉ way) : Way g start b (way ++ [b])

/-- The names behind the start of a way: all different and different from the start. -/
theorem Way.exists_inner (h : Way g start name way) :
    ∃ inner, way = start :: inner ∧ inner.Nodup ∧ start ∉ inner ∧
      List.IsChain (Edge g) way ∧ way.getLast? = some name := by
  induction h with
  | start => exact ⟨[], rfl, List.nodup_nil, List.not_mem_nil, .singleton _, rfl⟩
  | @step a b way _ edge fresh ih =>
    obtain ⟨inner, rfl, hnodup, hstart, hchain, hlast⟩ := ih
    simp only [List.mem_cons, not_or] at fresh
    refine ⟨inner ++ [b], rfl, ?_, ?_, ?_, List.getLast?_concat⟩
    · refine List.nodup_append.mpr ⟨hnodup, by simp, ?_⟩
      rintro c hc d hd rfl
      exact fresh.2 (List.mem_singleton.mp hd ▸ hc)
    · simpa [hstart] using Ne.symm fresh.1
    · refine List.isChain_append.mpr ⟨hchain, .singleton _, ?_⟩
      rintro c hc d hd
      obtain rfl : a = c := Option.some.inj (hlast.symm.trans hc)
      obtain rfl : b = d := by simpa using hd
      exact edge

/-- A way leads along references. -/
theorem Way.reaches (h : Way g start name way) : Relation.ReflTransGen (Edge g) start name := by
  induction h with
  | start => exact .refl
  | step _ edge _ ih => exact ih.tail edge

/-- What holds of a search before every round. -/
structure Search.Inv (g : Graph) (start : String) (s : Search) : Prop where
  /-- The start is never met. -/
  start_not_met : start ∉ s.met
  /-- What is on the stack comes with a way to it, on which all but the start has been met. -/
  way : ∀ name way, (name, way) ∈ s.stack →
    Way g start name way ∧ ∀ n ∈ way, n = start ∨ n ∈ s.met
  /-- What is off the stack refers to nothing that has not been met. -/
  closed : ∀ name, name = start ∨ name ∈ s.met → (∀ way, (name, way) ∉ s.stack) →
    ¬ Edge g name start ∧ ∀ n, Edge g name n → hasNode g n = true → n ∈ s.met

/-- The invariant holds at the beginning. -/
theorem Search.inv_init (g : Graph) (start : String) :
    Search.Inv g start ⟨[], [(start, [start])]⟩ where
  start_not_met := List.not_mem_nil
  way := by
    intro name way h
    obtain ⟨rfl, rfl⟩ := Prod.mk.inj (List.mem_singleton.mp h)
    exact ⟨.start, fun n hn => .inl (List.mem_singleton.mp hn)⟩
  closed := by
    rintro name (rfl | h) hoff
    · exact absurd List.mem_cons_self (hoff [name])
    · exact absurd h List.not_mem_nil

/-- A round that does not find the start keeps the invariant. -/
theorem Search.Inv.round (inv : Search.Inv g start ⟨met, (name, way) :: stack⟩)
    (h : ¬ Edge g name start) :
    Search.Inv g start ((next g name).foldl (Search.meet g way) ⟨met, stack⟩) := by
  obtain ⟨fresh, hfresh, heq⟩ := foldl_meet g way (next g name) ⟨met, stack⟩
  rw [heq]
  obtain ⟨hway, hmet⟩ := inv.way name way List.mem_cons_self
  have hstart : start ∉ fresh := fun hs => h (hfresh.mem start hs).1
  refine ⟨?_, ?_, ?_⟩
  · intro hs
    rcases List.mem_append.mp hs with hs | hs
    · exact hstart hs
    · exact inv.start_not_met hs
  · intro name' way' hmem
    rcases List.mem_append.mp hmem with hmem | hmem
    · obtain ⟨n, hn, heq⟩ := List.mem_map.mp hmem
      obtain ⟨rfl, rfl⟩ := Prod.mk.inj heq
      have hnew : n ∉ way := by
        intro hn'
        rcases hmet n hn' with rfl | hn'
        · exact hstart hn
        · exact (hfresh.mem n hn).2.2 hn'
      refine ⟨.step hway (hfresh.mem n hn).1 hnew, ?_⟩
      intro m hm
      rcases List.mem_append.mp hm with hm | hm
      · exact (hmet m hm).imp_right (List.mem_append_right _)
      · exact .inr (List.mem_append_left _ (List.mem_singleton.mp hm ▸ hn))
    · obtain ⟨hway', hmet'⟩ := inv.way name' way' (List.mem_cons_of_mem _ hmem)
      exact ⟨hway', fun n hn => (hmet' n hn).imp_right (List.mem_append_right _)⟩
  · intro other hother hoff
    have hoff_stack : ∀ w, (other, w) ∉ stack := fun w hw => hoff w (List.mem_append_right _ hw)
    have hnot_fresh : other ∉ fresh := fun hf =>
      hoff _ (List.mem_append_left _ (List.mem_map_of_mem hf))
    have hmet_other : other = start ∨ other ∈ met := by
      rcases hother with rfl | hmem
      · exact .inl rfl
      · exact .inr ((List.mem_append.mp hmem).resolve_left hnot_fresh)
    -- either it is the name of this round, or it was off the stack before
    by_cases hname : other = name
    · subst hname
      refine ⟨h, fun n hn hnode => ?_⟩
      exact List.mem_append.mpr (hfresh.covers n hn hnode)
    · have hoff_before : ∀ w, (other, w) ∉ (name, way) :: stack := by
        intro w hw
        rcases List.mem_cons.mp hw with heq | hw
        · exact hname (Prod.mk.inj heq).1
        · exact hoff_stack w hw
      obtain ⟨hno, hmets⟩ := inv.closed other hmet_other hoff_before
      exact ⟨hno, fun n hn hnode => List.mem_append_right _ (hmets n hn hnode)⟩

/-- If nothing is on the stack any more, there is no way back. -/
theorem Search.Inv.not_reaches (inv : Search.Inv g start ⟨met, []⟩) :
    ¬ Relation.TransGen (Edge g) start start := by
  have hclosed : ∀ name, name = start ∨ name ∈ met →
      ∀ n, Edge g name n → hasNode g n = true → n ∈ met :=
    fun name h => (inv.closed name h fun _ => List.not_mem_nil).2
  -- the first step of a way out of a name gives it a place in the graph
  have hreach : ∀ n, Relation.TransGen (Edge g) start n → hasNode g n = true → n ∈ met := by
    intro n hn
    induction hn with
    | single edge => exact hclosed start (.inl rfl) _ edge
    | tail _ edge ih => exact hclosed _ (.inr (ih (hasNode_of_edge edge))) _ edge
  intro hback
  obtain ⟨_, hfirst, _⟩ := Relation.TransGen.head'_iff.mp hback
  exact inv.start_not_met (hreach start hback (hasNode_of_edge hfirst))

/-- A way that a search ends with leads back to the start. -/
theorem Ends.exists_way {s : Search} {n : Nat} {result : Option (List String)} {path : List String}
    (h : Ends g start s n result) (inv : s.Inv g start) (hpath : result = some path) :
    ∃ name way, Way g start name way ∧ Edge g name start ∧ path = way ++ [start] := by
  induction h with
  | exhausted => exact absurd hpath (by simp)
  | @found _ name way _ h =>
    exact ⟨name, way, (inv.way name way List.mem_cons_self).1, h, (Option.some.inj hpath).symm⟩
  | round h _ ih => exact ih (inv.round h) hpath

/-- A search that ends without a way has none to give. -/
theorem Ends.not_reaches {s : Search} {n : Nat} {result : Option (List String)}
    (h : Ends g start s n result) (inv : s.Inv g start) (hnone : result = none) :
    ¬ Relation.TransGen (Edge g) start start := by
  induction h with
  | exhausted => exact inv.not_reaches
  | found => exact absurd hnone (by simp)
  | round h _ ih => exact ih (inv.round h) hnone

/-- What the search gives is a way back to the start: from one name on it to the next by
references, and between its ends no name twice and not the start. -/
theorem wayBack?_eq_some {path : List String} (h : wayBack? g start = some path) :
    ∃ inner, path = start :: inner ++ [start] ∧ inner.Nodup ∧ start ∉ inner ∧
      List.IsChain (Edge g) path := by
  obtain ⟨n, _, hends⟩ := ends_wayBack? g start
  obtain ⟨name, way, hway, hedge, rfl⟩ := hends.exists_way (Search.inv_init g start) h
  obtain ⟨inner, rfl, hnodup, hstart, hchain, hlast⟩ := hway.exists_inner
  refine ⟨inner, rfl, hnodup, hstart, ?_⟩
  refine List.isChain_append.mpr ⟨hchain, .singleton _, ?_⟩
  rintro a ha b hb
  obtain rfl : name = a := Option.some.inj (hlast.symm.trans ha)
  obtain rfl : start = b := by simpa using hb
  exact hedge

/-- A name has a way back exactly when references lead from it to itself. -/
theorem wayBack?_isSome_iff :
    (wayBack? g start).isSome = true ↔ Relation.TransGen (Edge g) start start := by
  obtain ⟨n, _, hends⟩ := ends_wayBack? g start
  cases hback : wayBack? g start with
  | none => exact iff_of_false (by simp) (hends.not_reaches (Search.inv_init g start) hback)
  | some path =>
    obtain ⟨name, way, hway, hedge, _⟩ := hends.exists_way (Search.inv_init g start) hback
    exact iff_of_true rfl (Relation.TransGen.tail' hway.reaches hedge)

end Specimen.Cycle
