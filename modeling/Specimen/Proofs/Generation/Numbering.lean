import Specimen.Proofs.Generation.Run
import Specimen.Proofs.SampleSet.Construction

/-!
# The numbers of a run

Every identifier gets the next number where it is made, and its value stands in the output where it
was made: the key of a pair before its value, parameters in their order, one sample after the other,
one set after the other. So the numbers that a set takes are those that it shows
(`buildSet_numbers`), and a run shows the numbers that it takes, in this order, except for those of
sets that come to nothing half way (`build_numbers`).

Main statement: `numbering`.
-/

namespace Specimen

open Synthesis

/-! ## The numbers of values -/

namespace Synthesis

/-- A fixed value holds the number that is taken for it. -/
theorem placeholder_numbers {takes : Prop} (h : takes) (kind : ScalarKind) (targets : Targets) :
    (placeholder kind targets).Yields takes fun e taken => e.numbers = taken := by
  cases kind with
  | int | int8 | int16 | int32 | int64 | uint | uint8 | uint16 | uint32 | uint64 =>
    exact yields_pure rfl
  | float32 | float64 | bool | dateTime => exact yields_pure rfl
  | text => exact yields_pure (Expr.numbers_call (by decide) _)
  | bytes => exact yields_pure (Expr.numbers_call (by decide) _)
  | uuid =>
    refine (yields_identifier h).bind fun number taken hnumber => yields_pure ?_
    rw [Expr.numbers_identifier targets.makesIdentifier_identifier, hnumber, List.append_nil]
  | url => exact yields_pure (Expr.numbers_call (targets.makesIdentifier_item (by decide)) _)
  | point | rect | size | vector =>
    exact yields_pure (Expr.numbers_call (targets.makesIdentifier_item (by decide)) _)

theorem numbers_categoryExpr (category : Category) (targets : Targets) :
    (categoryExpr category targets).numbers = [] := by
  cases category with
  | image width height => exact Expr.numbers_braces _ _
  | _ => rfl

/-- The data provider numbers no identifiers. -/
theorem numbers_providerCall (kind : ScalarKind) (category : Option Category)
    (targets : Targets) : (providerCall kind category targets).numbers = [] := by
  rw [providerCall, Expr.numbers_method,
    Expr.numbers_call (targets.makesIdentifier_item (by decide))]
  split
  · rw [List.flatMap_singleton, Expr.numbers_call (by decide), List.flatMap_singleton,
      numbers_categoryExpr]
    rfl
  · rfl

/-- A value shows the numbers that it takes, in their order. Only fixed values take some. -/
theorem synthesize_numbers (surroundings : Surroundings) (type : TypeRef)
    (category : Option Category) :
    (synthesize surroundings type category).Yields (surroundings.mode = .fixed) fun e taken =>
      e.numbers = taken := by
  induction type generalizing category with
  | scalar kind =>
    rw [synthesize]
    split
    · rename_i hmode
      exact placeholder_numbers hmode kind _
    · exact yields_pure (numbers_providerCall kind category _)
  | array element ih =>
    rw [synthesize]
    refine (ih category).bind fun item taken hitem => yields_pure ?_
    rw [Expr.numbers_list, List.flatMap_singleton, hitem, List.append_nil]
  | mapping kind key value ihKey ihValue =>
    rw [synthesize]
    refine (ihKey none).bind fun k first hkey => (ihValue category).bind fun v second hvalue =>
      yields_pure ?_
    rw [Expr.numbers_map_singleton, hkey, hvalue, List.append_nil]
  | reference path =>
    rw [synthesize]
    refine yields_ofExcept fun e he => ?_
    obtain ⟨_, type, _, rfl⟩ := referenceExpr_eq_ok_iff.mp he
    rfl

end Synthesis

/-! ## The numbers of sample sets -/

namespace SampleSet

/-- The numbers of a sample set, in the order of its source. -/
def numbers (set : SampleSet) : List Nat := set.samples.flatMap Expr.numbers

/-- A sample set shows the numbers that it takes, in their order. -/
theorem build_numbers (surroundings : Surroundings) (shape : Shape) (count : Int) :
    (build surroundings shape count).Yields (surroundings.mode = .fixed) fun set taken =>
      set.numbers = taken := by
  have hvalues : ∀ q ∈ shape.parameters,
      (q.synthesize surroundings).Yields (surroundings.mode = .fixed) fun e taken =>
        e.numbers = taken :=
    fun q _ => synthesize_numbers surroundings q.type q.category
  refine (build_yields (P := fun _ e taken => e.numbers = taken) shape count hvalues).mono
    fun set taken hset => hset.2.flatMap_eq fun i sample share hsample => ?_
  obtain ⟨parameters, values, hwrites, hthreaded⟩ := hsample
  obtain ⟨p, self, hconstructs⟩ := hwrites.constructs
  rw [hconstructs.numbers_eq self]
  exact hthreaded.flatMap_eq fun _ _ _ h => h

end SampleSet

/-! ## The numbers of runs -/

namespace Generation

/-- The numbers of all sample sets, in the order of their source. -/
def numbers (g : Generation) : List Nat := g.sets.flatMap SampleSet.numbers

/-- A set holds the numbers that are taken for it, and only a set of fixed values takes any. -/
theorem buildSet_numbers (schema : Schema) (targets : Targets) (failed : List String)
    (entry : Prepared) :
    (buildSet schema targets failed entry).Yields (entry.mode = .fixed) fun set taken =>
      set.numbers = taken :=
  SampleSet.build_numbers _ _ _

/-- The numbers that are shown are taken one after the other from the counter, and if every
declaration gets its sample set these are all. -/
theorem build_numbers (schema : Schema) (targets : Targets) (failed : List String)
    (entries : List Prepared) (identifiers : Identifiers) :
    ∃ count,
      (build schema targets failed entries identifiers).identifiers.next =
        identifiers.next + count ∧
      (build schema targets failed entries identifiers).numbers.Sublist
        (List.range' identifiers.next count) ∧
      ((build schema targets failed entries identifiers).failed = [] →
        (build schema targets failed entries identifiers).numbers =
          List.range' identifiers.next count) := by
  induction entries generalizing identifiers with
  | nil => exact ⟨0, rfl, .slnil, fun _ => rfl⟩
  | cons entry entries ih =>
    obtain ⟨m, hm, _, hset⟩ := buildSet_numbers schema targets failed entry identifiers
    unfold build
    split
    · rename_i set after hrun
      rw [hrun] at hm hset
      obtain ⟨n, hn, hsub, hall⟩ := ih after
      have hnext : after.next = identifiers.next + m := hm
      have hshown : set.numbers = List.range' identifiers.next m := hset set rfl
      rw [hnext] at hn hsub hall
      refine ⟨m + n, by rw [← Nat.add_assoc]; exact hn, ?_, fun hnone => ?_⟩
      · rw [numbers, List.flatMap_cons, hshown, ← List.range'_append_1]
        exact hsub.append_left _
      · rw [numbers, List.flatMap_cons, hshown, ← List.range'_append_1]
        exact congrArg _ (hall hnone)
    · -- the numbers of a set that comes to nothing stay taken
      rename_i fault after hrun
      rw [hrun] at hm
      obtain ⟨n, hn, hsub, _⟩ := ih after
      have hnext : after.next = identifiers.next + m := hm
      rw [hnext] at hn hsub
      refine ⟨m + n, by rw [← Nat.add_assoc]; exact hn, ?_, fun hnone => nomatch hnone⟩
      rw [← List.range'_append_1]
      exact hsub.trans (List.sublist_append_right _ _)

/-- The numbers of a run increase strictly, from the counter before the run up to the counter after
it; without gaps, if no samples fail to be built. Randomized declarations take and show none. -/
theorem numbering (schema : Schema) (targets : Targets) (identifiers : Identifiers) :
    identifiers.next ≤ (run schema targets identifiers).identifiers.next ∧
    (run schema targets identifiers).numbers.Pairwise (· < ·) ∧
    (run schema targets identifiers).numbers.Nodup ∧
    (∀ n ∈ (run schema targets identifiers).numbers,
      identifiers.next ≤ n ∧ n < (run schema targets identifiers).identifiers.next) ∧
    ((∀ x ∈ (run schema targets identifiers).report, x.phase ≠ .building) →
      (run schema targets identifiers).numbers = List.range' identifiers.next
        ((run schema targets identifiers).identifiers.next - identifiers.next)) ∧
    ∀ d ∈ schema.types, schema.modeOf d = .randomized →
      (∀ set ∈ (run schema targets identifiers).sets, set.typeName = d.name →
        set.numbers = []) ∧
      ∀ entry, schema.Ready d entry → ∀ before,
        ((buildSet schema targets (spreading schema).failed entry).run before).2 = before := by
  obtain ⟨count, hcount, hsub, hall⟩ :=
    build_numbers schema targets (spreading schema).failed (spreading schema).left identifiers
  have hnext : (run schema targets identifiers).identifiers.next = identifiers.next + count := hcount
  have hshown : (run schema targets identifiers).numbers.Sublist
      (List.range' identifiers.next count) := hsub
  have hincreasing : (run schema targets identifiers).numbers.Pairwise (· < ·) :=
    (List.pairwise_lt_range' 1).sublist hshown
  have hrandomized : ∀ {d entry}, schema.modeOf d = .randomized → schema.Ready d entry →
      ¬ entry.mode = .fixed := by
    intro d entry hmode hready
    rw [hready.mode_eq, hmode]
    decide
  refine ⟨by omega, hincreasing, hincreasing.imp Nat.ne_of_lt, fun n hn => ?_, fun hbuilt => ?_,
    fun d hd hmode => ⟨fun set hset hname => ?_, fun entry hready before => ?_⟩⟩
  · rw [hnext]
    exact List.mem_range'_1.mp (hshown.subset hn)
  · have hnone : (built schema targets identifiers).failed = [] := by
      rw [(built_built schema targets identifiers).missed_eq, List.map_eq_nil_iff,
        List.eq_nil_iff_forall_not_mem]
      intro x hx
      exact hbuilt x (mem_report_iff.mpr (.inr (.inr (.inr hx)))) (phase_of_mem_built hx)
    rw [hnext, Nat.add_sub_cancel_left]
    exact hall hnone
  · obtain ⟨d', hd', entry, _, hready, hname', before, hrun⟩ := exists_run_of_mem_run hset
    obtain rfl := Schema.eq_of_name_eq hd' hd (hname'.symm.trans hname)
    exact ((buildSet_numbers _ _ _ entry).idle (hrandomized hmode hready) before).2 set hrun
  · exact ((buildSet_numbers _ _ _ entry).idle (hrandomized hmode hready) before).1

/-- Two samples with an identifier as a key and one as a value, and one of random identifiers. -/
def ledger : Schema where
  types := [
    { kind := .struct, name := "Entry", members := [{ name := "ids", type := "BTreeMap<Uuid, Uuid>" }]
      sample := { count := 2, mode := some .fixed } },
    { kind := .struct, name := "Draft", members := [{ name := "ids", type := "BTreeMap<Uuid, Uuid>" }]
      sample := { count := 1 } }]
  distinct := by decide

/-- In the ledger nothing fails while building, and from the fifth number on four are taken without a gap.
-/
theorem numbering_ledger :
    (∀ x ∈ (run ledger .standard ⟨5⟩).report, x.phase ≠ .building) ∧
      (run ledger .standard ⟨5⟩).numbers = [5, 6, 7, 8] := by
  obtain ⟨_, _, _, _, hall, _⟩ := numbering ledger .standard ⟨5⟩
  have hbuilt : ∀ x ∈ (run ledger .standard ⟨5⟩).report, x.phase ≠ .building := by decide +kernel
  have hcounter : (run ledger .standard ⟨5⟩).identifiers.next = 9 := by decide +kernel
  refine ⟨hbuilt, ?_⟩
  rw [hall hbuilt, hcounter]
  rfl

end Generation

end Specimen
