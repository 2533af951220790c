import Specimen.Generation.Shared
import Specimen.Proofs.Generation.ModeIndependence

/-!
# Runs and where their counters stand

Where the counter stands decides about the numbers of identifiers and about nothing else. So two runs
of a schema tell the same, whatever counter each of them takes its numbers from (`run_told`).

A run on the shared counter shows the numbers that a run on a counter without an end takes, as far as
they fit into 64 bits. It does not matter how often the shared counter has started over before: numbers
that are the same in 64 bits lead to numbers that are the same in 64 bits
(`Synthesis.synthesize_congruent`). So running on the one counter and then looking at 64 bits is looking
at 64 bits and then running on the other.

Main statement: `Generation.shared_ofIdentifiers`.
-/

namespace Specimen

open Source (Path)
open SharedCounter (wrap)

/-! ## Other numbers -/

namespace Expr

variable {f : Nat → Nat}

theorem listRenumbered_eq_map (es : List Expr) : listRenumbered f es = es.map (renumbered f) := by
  induction es with
  | nil => simp [listRenumbered]
  | cons e es ih => simp [listRenumbered, ih]

theorem fieldsRenumbered_eq_map (fields : List (FieldName × Expr)) :
    fieldsRenumbered f fields = fields.map fun field => (field.1, field.2.renumbered f) := by
  induction fields with
  | nil => simp [fieldsRenumbered]
  | cons field fields ih =>
    obtain ⟨name, value⟩ := field
    simp [fieldsRenumbered, ih]

theorem renumbered_call {callee : Path} (h : callee.makesIdentifier = false)
    (arguments : List Expr) :
    (Expr.call callee arguments).renumbered f = .call callee (arguments.map (renumbered f)) := by
  rw [renumbered, h, listRenumbered_eq_map]
  rfl

theorem renumbered_identifier {callee : Path} (h : callee.makesIdentifier = true) (n : Nat) :
    (Expr.call callee [.integer n]).renumbered f = .call callee [.integer (f n)] := by
  simp [renumbered, h, mapInteger]

/-- Two expressions are the same once their identifiers have numbers of 64 bits. -/
def Congruent (e e' : Expr) : Prop := e.renumbered wrap = e'.renumbered wrap

theorem compatible_congruent : Compatible Congruent :=
  compatible_of_map (fun self => renumbered_call (makesIdentifier_eq_false self)) fun p fields => by
    rw [renumbered, fieldsRenumbered_eq_map]

end Expr

/-! ## Numbers that are the same in 64 bits -/

/-- Two counters stand at the same number, in 64 bits. -/
def Identifiers.Congruent (i j : Identifiers) : Prop := wrap i.next = wrap j.next

namespace SharedCounter

/-- What is left of a number fits. -/
theorem toNat_ofIdentifiers (ids : Identifiers) : (ofIdentifiers ids).next.toNat = wrap ids.next :=
  UInt64.toNat_ofNat

/-- A counter that is shared stands at the same number in 64 bits. -/
theorem congruent_identifiers (ids : Identifiers) :
    (ofIdentifiers ids).identifiers.Congruent ids := by
  rw [Identifiers.Congruent, identifiers, toNat_ofIdentifiers]
  exact Nat.mod_mod _ _

/-- Counters at the same number in 64 bits are the same when they are shared. -/
theorem ofIdentifiers_congr {i j : Identifiers} (h : i.Congruent j) :
    ofIdentifiers i = ofIdentifiers j := by
  rw [ofIdentifiers, ofIdentifiers, SharedCounter.mk.injEq, ← UInt64.toNat_inj]
  exact h

end SharedCounter

namespace Synthesis

variable {i j : Identifiers}

theorem congruent_succ (h : i.Congruent j) : Identifiers.Congruent ⟨i.next + 1⟩ ⟨j.next + 1⟩ := by
  simp only [Identifiers.Congruent, wrap, UInt64.size] at h ⊢
  omega

theorem nests_congruent : Nests Expr.Congruent where
  list h := by
    rw [Expr.Congruent, Expr.renumbered, Expr.renumbered, Expr.listRenumbered_eq_map,
      Expr.listRenumbered_eq_map, List.map_singleton, List.map_singleton, h]
  map hk hv := by
    rw [Expr.Congruent] at hk hv ⊢
    simp only [Expr.renumbered, Expr.pairsRenumbered, hk, hv]

/-- From counters at the same number the same identifier is taken, in 64 bits. -/
theorem identifier_congruent :
    Parallel Identifiers.Congruent (fun n m => wrap n = wrap m) identifier identifier :=
  fun _ _ hij => ⟨congruent_succ hij, hij⟩

/-- From counters at the same number a fixed value is the same in 64 bits. -/
theorem placeholder_congruent (kind : ScalarKind) (targets : Targets) :
    Parallel Identifiers.Congruent Expr.Congruent (placeholder kind targets)
      (placeholder kind targets) := by
  cases kind with
  | uuid =>
    refine identifier_congruent.bind fun n m hnumbers => parallel_pure ?_
    rw [Expr.Congruent, Expr.renumbered_identifier targets.makesIdentifier_identifier,
      Expr.renumbered_identifier targets.makesIdentifier_identifier, hnumbers]
  | _ => exact parallel_pure rfl

/-- Numbers that are the same in 64 bits lead to values that are. -/
theorem synthesize_congruent (S : Surroundings) (type : TypeRef) (category : Option Category) :
    Parallel Identifiers.Congruent Expr.Congruent (synthesize S type category)
      (synthesize S type category) := by
  refine synthesize_parallel nests_congruent (fun kind category => ?_)
    (fun path _ => parallel_ofExcept fun _ _ => rfl) category
  rw [synthesize]
  cases S.mode with
  | fixed => exact placeholder_congruent kind _
  | randomized => exact parallel_pure rfl

end Synthesis

/-! ## Runs -/

namespace Generation

open Synthesis

/-- From counters at the same number in 64 bits, sets are built that are the same in 64 bits. -/
theorem buildSet_congruent (schema : Schema) (targets : Targets) (failed : List String)
    (entry : Prepared) :
    Parallel Identifiers.Congruent (fun set set' => set.wrapped = set'.wrapped)
      (buildSet schema targets failed entry) (buildSet schema targets failed entry) := by
  have hparameters : entry.shape.Related
      (SampleSet.Corresponds Identifiers.Congruent Expr.Congruent
        (surroundings schema targets failed entry) (surroundings schema targets failed entry))
      entry.shape :=
    Shape.related_self fun q _ => ⟨rfl, synthesize_congruent _ q.type q.category⟩
  refine (SampleSet.build_parallel Expr.compatible_congruent hparameters _).mono ?_
  rintro ⟨name, p, member, samples⟩ ⟨name', p', member', samples'⟩ ⟨rfl, rfl, ⟨rfl, rfl⟩, hsamples⟩
  rw [SampleSet.wrapped, SampleSet.wrapped, map_eq_map_of_forall₂ hsamples]

/-- Two runs of a schema have as many samples of the same types, the same failures and the same
report, whatever names are used and wherever the counters stand. -/
theorem run_told (schema : Schema) (targets targets' : Targets) (i j : Identifiers) :
    List.Forall₂ SampleSet.SameExtent (run schema targets i).sets (run schema targets' j).sets ∧
    (run schema targets' j).failed = (run schema targets i).failed ∧
    (run schema targets' j).report = (run schema targets i).report := by
  have hpassed : List.Forall₂ Prepared.Remoded (checked schema).passed (checked schema).passed :=
    List.forall₂_same.mpr fun entry _ => ⟨⟨entry.declaration.sample.mode, rfl⟩, rfl⟩
  have hsets : ∀ failed entry entry', Prepared.Remoded entry entry' →
      Agree SampleSet.SameExtent (buildSet schema targets failed entry)
        (buildSet schema targets' failed entry') :=
    fun failed _ _ => buildSet_sameExtent rfl targets targets' failed
  obtain ⟨hsame, hfailed, rest, hreport, hreport'⟩ :=
    run_matches (fun _ _ => matches_of_remoded) hpassed rfl hsets i j
  exact ⟨hsame, hfailed, hreport'.trans hreport.symm⟩

/-- Running on a counter without an end and looking at 64 bits is looking at 64 bits and running on
the shared counter. -/
theorem shared_ofIdentifiers (schema : Schema) (targets : Targets) (identifiers : Identifiers) :
    shared schema targets (.ofIdentifiers identifiers) =
      ((run schema targets identifiers).wrapped,
        .ofIdentifiers (run schema targets identifiers).identifiers) := by
  have hcounters := SharedCounter.congruent_identifiers identifiers
  obtain ⟨_, hfailed, hreport⟩ :=
    run_told schema targets targets identifiers (SharedCounter.ofIdentifiers identifiers).identifiers
  have hparallel : ∀ entry ∈ (spreading schema).left, ∀ entry' ∈ (spreading schema).left,
      entry = entry' → Parallel Identifiers.Congruent (fun set set' => set.wrapped = set'.wrapped)
        (buildSet schema targets (spreading schema).failed entry)
        (buildSet schema targets (spreading schema).failed entry') := by
    rintro entry _ _ _ rfl
    exact buildSet_congruent schema targets _ entry
  have hmatching : ∀ entry entry' : Prepared, entry = entry' → entry.Corresponds Eq entry' := by
    rintro entry _ rfl
    exact Prepared.Matches.corresponds ⟨rfl, rfl⟩
  obtain ⟨hsets, _, hnext, _⟩ := run_related hmatching (List.forall₂_same.mpr fun _ _ => rfl) rfl
    hparallel hcounters
  have hwrapped : (run schema targets (SharedCounter.ofIdentifiers identifiers).identifiers).wrapped =
      (run schema targets identifiers).wrapped := by
    rw [wrapped, wrapped, map_eq_map_of_forall₂ hsets, hfailed, hreport, hnext]
  rw [shared, hwrapped, Prod.mk.injEq]
  exact ⟨rfl, SharedCounter.ofIdentifiers_congr (Nat.mod_mod _ _)⟩

end Generation

end Specimen
