import Specimen.Proofs.SampleSet.Likeness
import Specimen.Proofs.SampleSet.Typing

/-!
# One sample after the other

Each sample is made on its own, from what the remainder of its position says: a struct has one way to be
made, and an enum as many as it has cases (`Shape.turns`). So samples come again after so many, with
other numbers of identifiers (`SampleSet.sampleAt_eq`, `SampleSet.sampleAt_agree`).

If samples can be made at all does not depend on how many have been made before. What is made for fewer
samples is what comes first for more of them, and once each way has had its turn no later sample fails.

Main statement: `SampleSet.succession`.
-/

namespace Specimen

open Synthesis

/-! ## Traversals -/

namespace Synthesis

variable {α β : Type}

/-- Two computations in a row succeed if the first does, and the second does from where the first stops. -/
theorem run_bind_eq_ok_iff {x : Synthesis α} {f : α → Synthesis β} {before after : Identifiers}
    {b : β} : (x >>= f).run before = (.ok b, after) ↔
      ∃ a mid, x.run before = (.ok a, mid) ∧ (f a).run mid = (.ok b, after) := by
  rw [run_bind]
  rcases x.run before with ⟨fault | a, mid⟩
  · constructor
    · intro h
      cases h
    · rintro ⟨_, _, h, _⟩
      cases h
  · constructor
    · intro h
      exact ⟨a, mid, rfl, h⟩
    · rintro ⟨_, _, h, hf⟩
      cases h
      exact hf

theorem run_pure_eq_ok_iff {before after : Identifiers} {a b : α} :
    (pure a : Synthesis α).run before = (.ok b, after) ↔ a = b ∧ before = after := by
  show ((Except.ok a, before) : Except Fault α × Identifiers) = (.ok b, after) ↔ _
  simp

/-- What succeeds without a counter leaves it where it stands. -/
theorem run_ofExcept_eq_ok_iff {x : Except Fault α} {before after : Identifiers} {a : α} :
    (ofExcept x).run before = (.ok a, after) ↔ x = .ok a ∧ before = after := by
  cases x with
  | ok b =>
    refine run_pure_eq_ok_iff.trans ?_
    simp
  | error fault =>
    refine iff_of_false ?_ ?_
    · intro h
      cases h
    · rintro ⟨h, _⟩
      cases h

/-- The results of a traversal are results of its computations. -/
theorem forall₂_of_run_mapM {f : α → Synthesis β} {l : List α} {bs : List β}
    {before after : Identifiers} (h : (l.mapM f).run before = (.ok bs, after)) :
    List.Forall₂ (fun a b => ∃ mid, ((f a).run mid).1 = .ok b) l bs := by
  induction l generalizing bs before after with
  | nil =>
    rw [List.mapM_nil, run_pure_eq_ok_iff] at h
    obtain ⟨rfl, _⟩ := h
    exact .nil
  | cons a l ih =>
    rw [List.mapM_cons, run_bind_eq_ok_iff] at h
    obtain ⟨b, mid, hb, htail⟩ := h
    obtain ⟨rest, last, hrest, hpure⟩ := run_bind_eq_ok_iff.mp htail
    obtain ⟨rfl, _⟩ := run_pure_eq_ok_iff.mp hpure
    exact .cons ⟨before, by rw [hb]⟩ (ih hrest)

/-- A traversal that succeeds has succeeded on what comes first. -/
theorem run_mapM_append {f : α → Synthesis β} {first last : List α} {bs : List β}
    {before after : Identifiers} (h : ((first ++ last).mapM f).run before = (.ok bs, after)) :
    ∃ mid, (first.mapM f).run before = (.ok (bs.take first.length), mid) := by
  rw [List.mapM_append] at h
  obtain ⟨cs, mid, hfirst, hrest⟩ := run_bind_eq_ok_iff.mp h
  obtain ⟨ds, _, _, hpure⟩ := run_bind_eq_ok_iff.mp hrest
  obtain ⟨rfl, _⟩ := run_pure_eq_ok_iff.mp hpure
  have hlength := (forall₂_of_run_mapM hfirst).length_eq
  exact ⟨mid, by rw [hfirst, List.take_left' hlength.symm]⟩

/-- A traversal of computations that succeed wherever the counter stands does so as well. -/
theorem exists_run_mapM {f : α → Synthesis β} {l : List α}
    (h : ∀ a ∈ l, ∀ before, ∃ b, ((f a).run before).1 = .ok b) (before : Identifiers) :
    ∃ bs after, (l.mapM f).run before = (.ok bs, after) := by
  induction l generalizing before with
  | nil => exact ⟨[], before, rfl⟩
  | cons a l ih =>
    obtain ⟨ha, hl⟩ := List.forall_mem_cons.mp h
    obtain ⟨b, hb⟩ := ha before
    obtain ⟨bs, after, hbs⟩ := ih hl ((f a).run before).2
    refine ⟨b :: bs, after, ?_⟩
    rw [List.mapM_cons, run_bind_eq_ok_iff]
    refine ⟨b, ((f a).run before).2, Prod.ext hb rfl, ?_⟩
    rw [run_bind_eq_ok_iff]
    exact ⟨bs, after, hbs, rfl⟩

/-- A computation that agrees with itself and succeeds once always succeeds. -/
theorem Agree.exists_run {R : α → α → Prop} {x : Synthesis α} (h : Agree R x x)
    {before : Identifiers} {a : α} (ha : (x.run before).1 = .ok a) (other : Identifiers) :
    ∃ b, (x.run other).1 = .ok b ∧ R a b := by
  have hagree := h before other
  rw [ha] at hagree
  split at hagree <;> simp_all

end Synthesis

/-! ## Samples by their positions -/

/-- After how many samples the ways to make them come again. -/
def Shape.turns : Shape → Nat
  | .struct _ _ _ => 1
  | .enum _ cases => cases.length

namespace SampleSet

variable {surroundings : Surroundings} {shape : Shape}

/-- What is made at a position depends on whose turn it is. -/
theorem sampleAt_eq {i j : Nat} (h : i % shape.turns = j % shape.turns) :
    sampleAt surroundings shape i = sampleAt surroundings shape j := by
  cases shape with
  | struct name source parameters => rfl
  | enum name cases =>
    have hturn : i % cases.length = j % cases.length := h
    simp only [sampleAt, hturn]

/-- An enum without cases has no samples. -/
theorem turns_pos {i : Nat} {before : Identifiers} {e : Expr}
    (h : ((sampleAt surroundings shape i).run before).1 = .ok e) : 0 < shape.turns := by
  cases shape with
  | struct name source parameters => exact Nat.one_pos
  | enum name cases =>
    cases cases with
    | nil => cases h
    | cons c cases => exact Nat.succ_pos _

/-- A sample that is made twice is the same but for the numbers of identifiers. -/
theorem sampleAt_agree (surroundings : Surroundings) (shape : Shape) (i : Nat) :
    Agree Expr.Alike (sampleAt surroundings shape i) (sampleAt surroundings shape i) := by
  refine agree_iff_parallel.mpr (sampleAt_parallel Expr.compatible_alike i
    (Shape.related_self fun q _ => ⟨rfl, agree_iff_parallel.mp ?_⟩))
  exact synthesize_agree surroundings surroundings rfl rfl (fun _ _ => rfl) q.category

/-- Randomized samples have no numbers. -/
theorem sampleAt_agree_of_randomized (randomized : surroundings.mode = .randomized) (shape : Shape)
    (i : Nat) : Agree Eq (sampleAt surroundings shape i) (sampleAt surroundings shape i) := by
  refine agree_iff_parallel.mpr (sampleAt_parallel Expr.compatible_eq i
    (Shape.related_self fun q _ => ⟨rfl, synthesize_parallel ?_ ?_ ?_ q.category⟩))
  · exact ⟨fun h => by rw [h], fun hk hv => by rw [hk, hv]⟩
  · intro kind category
    rw [synthesize, randomized]
    exact parallel_pure rfl
  · intro path _
    exact parallel_ofExcept fun _ _ => rfl

/-- Building succeeds for a positive count, if every sample can be made and the name is a path. -/
theorem run_build_eq_ok_iff {count : Int} {before after : Identifiers} {set : SampleSet} :
    (build surroundings shape count).run before = (.ok set, after) ↔
      0 < count ∧ ∃ samples typePath,
        ((List.range count.toNat).mapM (sampleAt surroundings shape)).run before =
          (.ok samples, after) ∧
        readPath shape.name = .ok typePath ∧
        set = ⟨shape.name, typePath, surroundings.targets.member, samples⟩ := by
  unfold build
  by_cases hcount : count ≤ 0
  · rw [if_pos hcount]
    constructor
    · intro h
      cases h
    · intro h
      omega
  · rw [if_neg hcount, samplesOf_eq_mapM surroundings shape (by omega)]
    constructor
    · intro h
      obtain ⟨samples, mid, hsamples, hrest⟩ := run_bind_eq_ok_iff.mp h
      obtain ⟨typePath, last, hpath, hpure⟩ := run_bind_eq_ok_iff.mp hrest
      obtain ⟨hread, rfl⟩ := run_ofExcept_eq_ok_iff.mp hpath
      obtain ⟨rfl, rfl⟩ := run_pure_eq_ok_iff.mp hpure
      exact ⟨by omega, samples, typePath, hsamples, hread, rfl⟩
    · rintro ⟨_, samples, typePath, hsamples, hread, rfl⟩
      refine run_bind_eq_ok_iff.mpr ⟨samples, after, hsamples, ?_⟩
      exact run_bind_eq_ok_iff.mpr
        ⟨typePath, after, run_ofExcept_eq_ok_iff.mpr ⟨hread, rfl⟩, rfl⟩

/-- The sample at a position has been made there, from some place of the counter. -/
theorem exists_run_sampleAt {count : Int} {before after : Identifiers} {set : SampleSet}
    (h : (build surroundings shape count).run before = (.ok set, after)) {i : Nat} {e : Expr}
    (he : set.samples[i]? = some e) :
    ∃ mid, ((sampleAt surroundings shape i).run mid).1 = .ok e := by
  obtain ⟨_, samples, typePath, hsamples, _, rfl⟩ := run_build_eq_ok_iff.mp h
  have hall := forall₂_of_run_mapM hsamples
  have hlt : i < (List.range count.toNat).length := by
    rw [hall.length_eq]
    exact (List.getElem?_eq_some_iff.mp he).1
  have hmade := forall₂_getElem? hall i
  rw [he, List.getElem?_eq_getElem hlt, List.getElem_range] at hmade
  cases hmade with
  | some hmade => exact hmade

/-- A set that is built has as many samples as are asked for. -/
theorem length_samples {count : Int} {before after : Identifiers} {set : SampleSet}
    (h : (build surroundings shape count).run before = (.ok set, after)) :
    (set.samples.length : Int) = count := by
  obtain ⟨hpos, samples, typePath, hsamples, _, rfl⟩ := run_build_eq_ok_iff.mp h
  have hlength := (forall₂_of_run_mapM hsamples).length_eq
  rw [List.length_range] at hlength
  show (samples.length : Int) = count
  omega

/-- Samples whose turns are the same are the same but for the numbers of identifiers, and if they have
none they are equal. -/
theorem alike_of_turns_eq {count : Int} {before after : Identifiers} {set : SampleSet}
    (h : (build surroundings shape count).run before = (.ok set, after)) {i j : Nat} {e e' : Expr}
    (he : set.samples[i]? = some e) (he' : set.samples[j]? = some e')
    (turns_eq : i % shape.turns = j % shape.turns) :
    e.Alike e' ∧ (surroundings.mode = .randomized → e = e') := by
  obtain ⟨mid, hmid⟩ := exists_run_sampleAt h he
  obtain ⟨mid', hmid'⟩ := exists_run_sampleAt h he'
  rw [← sampleAt_eq turns_eq] at hmid'
  have hagain : ∀ {R : Expr → Expr → Prop},
      Agree R (sampleAt surroundings shape i) (sampleAt surroundings shape i) → R e e' := by
    intro R hagree
    obtain ⟨b, hb, hR⟩ := hagree.exists_run hmid mid'
    obtain rfl : b = e' := Except.ok.inj (hb.symm.trans hmid')
    exact hR
  exact ⟨hagain (sampleAt_agree surroundings shape i), fun randomized =>
    hagain (sampleAt_agree_of_randomized randomized shape i)⟩

/-- What is made for fewer samples is what comes first for more. -/
theorem run_build_take {count fewer : Int} {before after : Identifiers} {set : SampleSet}
    (h : (build surroundings shape count).run before = (.ok set, after)) (pos : 0 < fewer)
    (le : fewer ≤ count) :
    ∃ mid, (build surroundings shape fewer).run before =
      (.ok { set with samples := set.samples.take fewer.toNat }, mid) := by
  obtain ⟨_, samples, typePath, hsamples, hread, rfl⟩ := run_build_eq_ok_iff.mp h
  obtain ⟨more, hmore⟩ : ∃ more, count.toNat = fewer.toNat + more :=
    ⟨count.toNat - fewer.toNat, by omega⟩
  rw [hmore, List.range_add] at hsamples
  obtain ⟨mid, hmid⟩ := run_mapM_append hsamples
  rw [List.length_range] at hmid
  exact ⟨mid, run_build_eq_ok_iff.mpr ⟨pos, _, typePath, hmid, hread, rfl⟩⟩

/-- Once each way to make a sample has had its turn, more samples can be made as well. -/
theorem exists_run_build {count more : Int} {before after : Identifiers} {set : SampleSet}
    (h : (build surroundings shape count).run before = (.ok set, after))
    (turns_le : (shape.turns : Int) ≤ count) (le : count ≤ more) (other : Identifiers) :
    ∃ set' after', (build surroundings shape more).run other = (.ok set', after') := by
  obtain ⟨hpos, samples, typePath, hsamples, hread, rfl⟩ := run_build_eq_ok_iff.mp h
  have hlength : (samples.length : Int) = count := length_samples h
  have hmade : ∀ i < samples.length, ∃ mid e, ((sampleAt surroundings shape i).run mid).1 = .ok e := by
    intro i hi
    obtain ⟨mid, hmid⟩ := exists_run_sampleAt h (List.getElem?_eq_getElem hi)
    exact ⟨mid, _, hmid⟩
  have hturns : 0 < shape.turns := by
    obtain ⟨mid, e, hmid⟩ := hmade 0 (by omega)
    exact turns_pos hmid
  have halways : ∀ i, ∀ before, ∃ e, ((sampleAt surroundings shape i).run before).1 = .ok e := by
    intro i before
    have hlt := Nat.mod_lt i hturns
    obtain ⟨mid, e, hmid⟩ := hmade (i % shape.turns) (by omega)
    rw [sampleAt_eq (Nat.mod_mod i _)] at hmid
    obtain ⟨b, hb, _⟩ := (sampleAt_agree surroundings shape i).exists_run hmid before
    exact ⟨b, hb⟩
  obtain ⟨all, last, hall⟩ := exists_run_mapM (l := List.range more.toNat) (fun i _ => halways i) other
  exact ⟨_, last, run_build_eq_ok_iff.mpr ⟨by omega, all, typePath, hall, hread, rfl⟩⟩

/-- The sample of an enum at a position constructs the case whose turn it is. -/
theorem exists_case {name : String} {cases : List CaseShape} {count : Int}
    {before after : Identifiers} {set : SampleSet}
    (h : (build surroundings (.enum name cases) count).run before = (.ok set, after)) {i : Nat}
    {e : Expr} (he : set.samples[i]? = some e) :
    ∃ c values, cases[i % cases.length]? = some c ∧ c.Writes values e := by
  have hresult : ((build surroundings (.enum name cases) count).run before).1 = .ok set := by rw [h]
  obtain ⟨_, hsamples⟩ := (build_typed surroundings (.enum name cases) count).of_ok hresult
  have hlt : i < (List.range count.toNat).length := by
    rw [hsamples.length_eq]
    exact (List.getElem?_eq_some_iff.mp he).1
  have hsample := forall₂_getElem? hsamples i
  rw [he, List.getElem?_eq_getElem hlt, List.getElem_range] at hsample
  cases hsample with
  | some hsample =>
    obtain ⟨parameters, values, hwrites, _⟩ := hsample
    cases hwrites with
    | enum turn hcase => exact ⟨_, values, turn, hcase⟩

/-- No samples are made unless some are asked for, and if any are made there are as many as are asked
for. They take turns: each case of an enum in its order, and all samples whose turn is the same are the
same but for the numbers of identifiers. Fewer samples are the first of them. More can be made as well,
if each turn has come. -/
theorem succession (surroundings : Surroundings) (shape : Shape) :
    (∀ count ≤ 0, ∀ before, (build surroundings shape count).run before =
      (.error (.countNotPositive count), before)) ∧
    ∀ count before set after, (build surroundings shape count).run before = (.ok set, after) →
      (set.samples.length : Int) = count ∧
      (∀ name cases, shape = .enum name cases → ∀ i e, set.samples[i]? = some e →
        ∃ c values, cases[i % cases.length]? = some c ∧ c.Writes values e) ∧
      (∀ i j e e', set.samples[i]? = some e → set.samples[j]? = some e' →
        i % shape.turns = j % shape.turns →
        e.Alike e' ∧ (surroundings.mode = .randomized → e = e')) ∧
      (∀ fewer, 0 < fewer → fewer ≤ count → ∃ mid,
        (build surroundings shape fewer).run before =
          (.ok { set with samples := set.samples.take fewer.toNat }, mid)) ∧
      ((shape.turns : Int) ≤ count → ∀ more, count ≤ more → ∀ other, ∃ set' after',
        (build surroundings shape more).run other = (.ok set', after')) := by
  refine ⟨fun count hcount before => ?_, fun count before set after h => ?_⟩
  · rw [build, if_pos hcount]
    rfl
  · refine ⟨length_samples h, ?_, fun i j e e' => alike_of_turns_eq h,
      fun fewer => run_build_take h, fun hturns more hmore other =>
        exists_run_build h hturns hmore other⟩
    rintro name cases rfl i e he
    exact exists_case h he

/-- What happens to a ticket: it is opened, given to somebody, or closed. -/
def ticketEvent : Shape :=
  .enum "TicketEvent"
    [{ name := "Opened", payload := [{ name := some "id", type := .scalar .uuid }] },
      { name := "Assigned", payload := [{ type := .scalar .text }, { type := .scalar .uuid }] },
      { name := "Closed" }]

def ticketSurroundings : Surroundings := ⟨.fixed, .standard, fun _ => .unknown⟩

/-- The fourth sample is the first again, with another number. -/
theorem succession_ticketEvent :
    (build ticketSurroundings ticketEvent 0).run ⟨7⟩ = (.error (.countNotPositive 0), ⟨7⟩) ∧
    ∃ set after, (build ticketSurroundings ticketEvent 5).run ⟨7⟩ = (.ok set, after) ∧
      set.samples.length = 5 ∧
      (∃ e e', set.samples[0]? = some e ∧ set.samples[3]? = some e' ∧ e.Alike e' ∧
        e.numbers = [7] ∧ e'.numbers = [9]) ∧
      (∃ mid, (build ticketSurroundings ticketEvent 2).run ⟨7⟩ =
        (.ok { set with samples := set.samples.take 2 }, mid)) ∧
      ∃ set' after', (build ticketSurroundings ticketEvent 100).run {} = (.ok set', after') := by
  obtain ⟨hnone, hsome⟩ := succession ticketSurroundings ticketEvent
  have hnumbers : ((build ticketSurroundings ticketEvent 5).run ⟨7⟩).1.toOption.map
      (fun set => set.samples.map Expr.numbers) = some [[7], [8], [], [9], [10]] := by
    decide +kernel
  refine ⟨hnone 0 (by decide) ⟨7⟩, ?_⟩
  rcases hrun : (build ticketSurroundings ticketEvent 5).run ⟨7⟩ with ⟨fault | set, after⟩ <;>
    rw [hrun] at hnumbers
  · cases hnumbers
  · obtain ⟨hlength, _, halike, hfewer, hmore⟩ := hsome 5 ⟨7⟩ set after hrun
    have hshown : set.samples.map Expr.numbers = [[7], [8], [], [9], [10]] := Option.some.inj hnumbers
    have hat : ∀ i : Nat, set.samples[i]?.map Expr.numbers = [[7], [8], [], [9], [10]][i]? := by
      intro i
      rw [← List.getElem?_map, hshown]
    obtain ⟨e, he, hfirst⟩ := Option.map_eq_some_iff.mp (hat 0)
    obtain ⟨e', he', hfourth⟩ := Option.map_eq_some_iff.mp (hat 3)
    exact ⟨set, after, rfl, by omega, ⟨e, e', he, he', (halike 0 3 e e' he he' rfl).1, hfirst, hfourth⟩,
      hfewer 2 (by decide) (by decide), hmore (by decide) 100 (by decide) {}⟩

end SampleSet

end Specimen
