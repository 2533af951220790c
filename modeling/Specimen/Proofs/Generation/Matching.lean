import Specimen.Proofs.Generation.Run
import Specimen.Proofs.Synthesis.Agreement

/-!
# Two runs over declarations that match

Two declarations that have passed their checks match when they have the same name and refer to the
same types (`Prepared.Matches`). Nothing else of them is looked at before samples are made. So if the
declarations that pass match one by one in two runs, the same ways back are found
(`Cycle.diagnostics_eq`), and the same declarations drop out in the same order
(`Generation.spread_related`).

It does not matter how the types that are referred to are written, as long as their keys are the same
(`Prepared.Corresponds`). Then a type may be referred to twice where it was referred to once before: a
search does not meet it a second time (`Cycle.foldl_meet_eraseDups`). What is written shows in the
reports (`Diagnostic.Related`).

When samples are made, both runs go on in the same way as long as the computations for declarations
that match go the same way (`Generation.build_related`).

Main statements: `Generation.run_related`, and `Generation.run_matches` for runs that report the same.
-/

namespace Specimen

/-! ## Lists without their repetitions -/

section Repetitions

variable {α β : Type} [BEq α] [BEq β]

/-- Repetitions are taken out of a list by taking what comes first out of the rest. -/
theorem eraseDups_induction {motive : List α → Prop} (nil : motive [])
    (cons : ∀ a l, motive (l.filter fun b => !b == a) → motive (a :: l)) : ∀ l, motive l
  | [] => nil
  | a :: l => cons a l (eraseDups_induction nil cons _)
termination_by l => l.length
decreasing_by exact Nat.lt_succ_of_le (List.length_filter_le _ _)

variable [LawfulBEq α]

/-- It does not matter whether repetitions are dropped before a choice or after it. -/
theorem filter_eraseDups (q : α → Bool) (l : List α) :
    l.eraseDups.filter q = (l.filter q).eraseDups := by
  induction l using eraseDups_induction with
  | nil => rfl
  | cons a l ih =>
    rw [List.eraseDups_cons]
    by_cases ha : q a = true
    · rw [List.filter_cons_of_pos ha, List.filter_cons_of_pos ha, List.eraseDups_cons, ih,
        List.filter_comm]
    · rw [List.filter_cons_of_neg ha, List.filter_cons_of_neg ha, ih, List.filter_filter]
      congr 1
      refine List.filter_congr fun b _ => ?_
      by_cases hb : b = a
      · simp [hb, ha]
      · simp [hb]

/-- What comes first is found first without the repetitions as well. -/
theorem find?_eraseDups (q : α → Bool) (l : List α) : l.eraseDups.find? q = l.find? q := by
  rw [← List.head?_filter, ← List.head?_filter, filter_eraseDups]
  cases l.filter q with
  | nil => rfl
  | cons a l => rw [List.eraseDups_cons]; rfl

/-- Repetitions may be taken out before and after a function is applied. -/
theorem eraseDups_map_eraseDups [LawfulBEq β] (f : α → β) (l : List α) :
    (l.eraseDups.map f).eraseDups = (l.map f).eraseDups := by
  induction l using eraseDups_induction with
  | nil => rfl
  | cons a l ih =>
    have hdrop : ((l.filter fun b => !b == a).map f).filter (fun c => !c == f a) =
        (l.map f).filter fun c => !c == f a := by
      rw [List.filter_map, List.filter_map, List.filter_filter]
      congr 1
      refine List.filter_congr fun b _ => ?_
      by_cases hb : b = a <;> simp [hb]
    rw [List.eraseDups_cons, List.map_cons, List.map_cons, List.eraseDups_cons, List.eraseDups_cons,
      ← filter_eraseDups, ih, filter_eraseDups, hdrop]

end Repetitions

/-! ## Faults that name types -/

variable {P : String → String → Prop}

/-- Two faults are the same up to the types that they name, which are related. -/
inductive Fault.Related (P : String → String → Prop) : Fault → Fault → Prop
  | refl (fault : Fault) : Related P fault fault
  | typeNotSupported {type type' : String} (h : P type type') :
      Related P (.typeNotSupported type) (.typeNotSupported type')
  | categoryMismatch {category : Category} {type type' : String} (h : P type type') :
      Related P (.categoryMismatch category type) (.categoryMismatch category type')
  | dependencyFailed {type type' : String} (h : P type type') :
      Related P (.dependencyFailed type) (.dependencyFailed type')

/-- Two diagnostics are the same up to the types that they name, which are related. -/
inductive Diagnostic.Related (P : String → String → Prop) : Diagnostic → Diagnostic → Prop
  | refl (x : Diagnostic) : Related P x x
  | ofFault {fault fault' : Fault} {location : Location} (h : fault.Related P fault') :
      Related P (.ofFault fault location) (.ofFault fault' location)

namespace Diagnostic.Related

variable {x x' : Diagnostic}

/-- Diagnostics that are related by equality are equal. -/
theorem eq (h : x.Related Eq x') : x = x' := by
  cases h with
  | refl => rfl
  | ofFault h =>
    cases h with
    | refl => rfl
    | typeNotSupported h | categoryMismatch h | dependencyFailed h => rw [h]

theorem id_eq (h : x.Related P x') : x'.id = x.id := by
  cases h with
  | refl => rfl
  | ofFault h => cases h <;> rfl

theorem location_eq (h : x.Related P x') : x'.location = x.location := by
  cases h <;> rfl

theorem isError_eq (h : x.Related P x') : x'.isError = x.isError := by
  cases h <;> rfl

/-- What is told about a way back does not name a type that is referred to. -/
theorem message_eq [Reasons] (h : x.Related P x') (cyclic : x.id = "cyclic_reference") :
    x'.message = x.message := by
  cases h with
  | refl => rfl
  | ofFault h =>
    cases h with
    | refl => rfl
    | typeNotSupported | categoryMismatch | dependencyFailed =>
      simp [Diagnostic.id, Diagnostic.ofFault, Fault.id] at cyclic

end Diagnostic.Related

/-- Every report is related to itself. -/
theorem Diagnostic.related_refl (report : List Diagnostic) :
    List.Forall₂ (Diagnostic.Related P) report report := List.forall₂_same.mpr fun x _ => .refl x

/-! ## Declarations that match -/

/-- Two declarations have the same name and refer to the same types. -/
structure Prepared.Matches (entry entry' : Prepared) : Prop where
  name_eq : entry'.name = entry.name
  references_eq : entry'.shape.references = entry.shape.references

/-- Two declarations have the same name and refer to the same keys in the same order, up to
repetitions. Which reference is the first to something that has failed does not differ but in the way
it is written. -/
structure Prepared.Corresponds (P : String → String → Prop) (entry entry' : Prepared) : Prop where
  name_eq : entry'.name = entry.name
  keys_eq : entry'.keys.eraseDups = entry.keys.eraseDups
  broken : ∀ failed,
    Option.Rel P (Generation.broken? failed entry) (Generation.broken? failed entry')

/-- Declarations that match correspond to each other with equal references. -/
theorem Prepared.Matches.corresponds {entry entry' : Prepared} (h : entry.Matches entry') :
    entry.Corresponds Eq entry' := by
  refine ⟨h.name_eq, by rw [keys, keys, h.references_eq], fun failed => ?_⟩
  rw [Generation.broken?, Generation.broken?, h.references_eq]
  cases entry.shape.references.find? fun path => failed.contains (typeKey path) with
  | none => exact .none
  | some path => exact .some rfl

/-! ## Cycles -/

namespace Cycle

variable {g g' : Graph} {way : List String}

/-- A name that has been met, or has no place in the graph, may be left out. -/
theorem foldl_meet_filter {a : String} {s : Search} (h : hasNode g a = true → a ∈ s.met)
    (names : List String) :
    (names.filter fun b => !b == a).foldl (Search.meet g way) s =
      names.foldl (Search.meet g way) s := by
  induction names generalizing s with
  | nil => rfl
  | cons b names ih =>
    rw [List.foldl_cons]
    by_cases hb : b = a
    · have hmeet : s.meet g way b = s := by
        rw [Search.meet, if_neg]
        simpa [hb] using h
      rw [List.filter_cons_of_neg (by simp [hb]), hmeet, ih h]
    · rw [List.filter_cons_of_pos (by simp [hb]), List.foldl_cons]
      refine ih fun hnode => ?_
      unfold Search.meet
      split
      · exact List.mem_cons_of_mem _ (h hnode)
      · exact h hnode

/-- A name is met once, however often it is referred to. -/
theorem foldl_meet_eraseDups (names : List String) (s : Search) :
    names.eraseDups.foldl (Search.meet g way) s = names.foldl (Search.meet g way) s := by
  induction names using eraseDups_induction generalizing s with
  | nil => rfl
  | cons a names ih =>
    rw [List.eraseDups_cons, List.foldl_cons, List.foldl_cons, ih]
    refine foldl_meet_filter (fun hnode => ?_) names
    unfold Search.meet
    split
    · exact List.mem_cons_self
    · rename_i hmet
      simpa [hnode] using hmet

/-- Two graphs have the same names, which refer to the same, up to repetitions. -/
def Graph.Same (g g' : Graph) : Prop :=
  List.Forall₂ (fun node node' => node'.1 = node.1 ∧ node'.2.eraseDups = node.2.eraseDups) g g'

/-- A name leads to the same names in both graphs, repetitions apart. -/
theorem Graph.Same.lookup (h : g.Same g') (a : String) :
    Option.Rel (fun names names' : List String => names'.eraseDups = names.eraseDups)
      (g.lookup a) (g'.lookup a) := by
  induction h with
  | nil => exact .none
  | @cons node node' g g' head _ ih =>
    obtain ⟨name, names⟩ := node
    obtain ⟨name', names'⟩ := node'
    obtain ⟨rfl, hnames⟩ : name' = name ∧ names'.eraseDups = names.eraseDups := head
    rw [List.lookup_cons, List.lookup_cons]
    cases a == name' with
    | true => exact .some hnames
    | false => exact ih

/-- What comes next after a name is the same in both graphs, repetitions apart. -/
theorem Graph.Same.next (h : g.Same g') (a : String) :
    (next g' a).eraseDups = (next g a).eraseDups := by
  have hlookup := h.lookup a
  unfold Cycle.next
  generalize g.lookup a = names?, g'.lookup a = names'? at hlookup
  cases hlookup with
  | none => rfl
  | some hnames => exact hnames

/-- Graphs that are the same up to repetitions have the same nodes. -/
theorem Graph.Same.hasNode (h : g.Same g') (a : String) : hasNode g' a = hasNode g a := by
  have hlookup := h.lookup a
  unfold Cycle.hasNode
  generalize g.lookup a = names?, g'.lookup a = names'? at hlookup
  cases hlookup <;> rfl

/-- Both graphs are searched in the same way. -/
theorem search_eq (h : g.Same g') (start : String) (rounds : Nat) (s : Search) :
    search g' start rounds s = search g start rounds s := by
  induction rounds generalizing s with
  | zero => rfl
  | succ rounds ih =>
    obtain ⟨met, _ | ⟨⟨name, way⟩, stack⟩⟩ := s
    · rfl
    · have hcontains : (next g' name).contains start = (next g name).contains start := by
        rw [Bool.eq_iff_iff, List.contains_iff_mem, List.contains_iff_mem, ← List.mem_eraseDups,
          h.next, List.mem_eraseDups]
      have hmeet : Search.meet g' way = Search.meet g way := by
        funext s b
        rw [Search.meet, Search.meet, h.hasNode]
      simp only [search, hcontains, hmeet, ih]
      rw [← foldl_meet_eraseDups (next g' name), h.next, foldl_meet_eraseDups]

end Cycle

section Lists

variable {R : Prepared → Prepared → Prop} {entries entries' : List Prepared}
  (matching : ∀ entry entry', R entry entry' → entry.Corresponds P entry')
  (h : List.Forall₂ R entries entries')

include matching h

/-- The graphs of declarations that match are the same up to repetitions. -/
theorem Cycle.graph_same : (graph entries).Same (graph entries') := by
  unfold graph Graph.Same
  rw [List.forall₂_map_left_iff, List.forall₂_map_right_iff]
  exact h.imp fun _ _ head => ⟨(matching _ _ head).name_eq, (matching _ _ head).keys_eq⟩

/-- Declarations that match have the same cycles and get the same diagnostics for them. -/
theorem Cycle.diagnostics_eq : diagnostics entries' = diagnostics entries := by
  have hsame := graph_same matching h
  have hdiagnostic : diagnostic? (graph entries') = diagnostic? (graph entries) := by
    funext name
    rw [diagnostic?, diagnostic?, wayBack?, wayBack?, search_eq hsame, hsame.length_eq]
  unfold diagnostics
  rw [hdiagnostic]
  generalize graph entries = g
  clear hsame hdiagnostic
  induction h with
  | nil => rfl
  | cons head _ ih =>
    rw [List.filterMap_cons, List.filterMap_cons, ih, (matching _ _ head).name_eq]

/-! ## Spreading -/

namespace Generation

/-- The spreading of failures leaves declarations that are related one by one, and has dropped and
reported the same, up to the types that are named. -/
structure Spread.Related (P : String → String → Prop) (R : Prepared → Prepared → Prop)
    (s s' : Spread) : Prop where
  left : List.Forall₂ R s.left s'.left
  failed_eq : s'.failed = s.failed
  dropped_eq : s'.dropped = s.dropped
  report : List.Forall₂ (Diagnostic.Related P) s.report s'.report

/-- One passage leaves related declarations related. -/
theorem sweep_related (failed : List String) :
    (sweep failed entries).Related P R (sweep failed entries') := by
  induction h generalizing failed with
  | nil => exact ⟨.nil, rfl, rfl, .nil⟩
  | @cons entry entry' entries entries' head _ ih =>
    have hmatch := matching _ _ head
    have hbroken := hmatch.broken failed
    simp only [sweep, hmatch.name_eq]
    by_cases hname : failed.contains entry.name = true
    · obtain ⟨hleft, hfailed, hdropped, hreport⟩ := ih failed
      simp only [hname, if_true]
      exact ⟨hleft, hfailed, congrArg (entry.name :: ·) hdropped, hreport⟩
    · simp only [hname, Bool.false_eq_true, if_false]
      generalize broken? failed entry = path?, broken? failed entry' = path'? at hbroken
      cases hbroken with
      | some hpath =>
        obtain ⟨hleft, hfailed, hdropped, hreport⟩ := ih (entry.name :: failed)
        exact ⟨hleft, hfailed, congrArg (_ :: ·) hdropped,
          .cons (.ofFault (.dependencyFailed hpath)) hreport⟩
      | none =>
        obtain ⟨hleft, hfailed, hdropped, hreport⟩ := ih failed
        exact ⟨.cons head hleft, hfailed, hdropped, hreport⟩

variable {failed : List String}

/-- Any number of passages leaves related declarations related. -/
theorem spread_related (rounds : Nat) :
    (spread rounds failed entries).Related P R (spread rounds failed entries') := by
  induction rounds generalizing failed entries entries' with
  | zero => exact ⟨h, rfl, rfl, .nil⟩
  | succ rounds ih =>
    have hpass := sweep_related matching h failed
    simp only [spread, forall₂_isEmpty hpass.report]
    by_cases hidle : (sweep failed entries).report.isEmpty = true
    · simp only [hidle, if_true]
      exact hpass
    · simp only [hidle, Bool.false_eq_true, if_false, hpass.failed_eq, hpass.dropped_eq]
      obtain ⟨hleft, hfailed, hdropped, hreport⟩ := ih hpass.left
      exact ⟨hleft, hfailed, congrArg (_ ++ ·) hdropped, List.rel_append hpass.report hreport⟩

/-! ## Samples -/

open Synthesis

variable {schema schema' : Schema} {targets targets' : Targets} {S : SampleSet → SampleSet → Prop}
  {C : Identifiers → Identifiers → Prop}

/-- Two results have sets that are related one by one, and the same failures and reports, up to the
types that are named; their counters are related. -/
structure Related (P : String → String → Prop) (C : Identifiers → Identifiers → Prop)
    (S : SampleSet → SampleSet → Prop) (g g' : Generation) : Prop where
  sets : List.Forall₂ S g.sets g'.sets
  failed_eq : g'.failed = g.failed
  report : List.Forall₂ (Diagnostic.Related P) g.report g'.report
  identifiers : C g.identifiers g'.identifiers

/-- Declarations whose sets are built in parallel give related generations, from counters that are related.
-/
theorem build_related
    (parallel : ∀ entry ∈ entries, ∀ entry' ∈ entries', R entry entry' →
      Parallel C S (buildSet schema targets failed entry) (buildSet schema' targets' failed entry'))
    {i j : Identifiers} (hij : C i j) :
    (build schema targets failed entries i).Related P C S
      (build schema' targets' failed entries' j) := by
  induction h generalizing i j with
  | nil => exact ⟨.nil, rfl, .nil, hij⟩
  | @cons entry entry' entries entries' head _ ih =>
    obtain ⟨hcounters, hresults⟩ :=
      parallel entry List.mem_cons_self entry' List.mem_cons_self head i j hij
    have hrest : ∀ a ∈ entries, ∀ b ∈ entries', R a b → _ := fun a ha b hb =>
      parallel a (List.mem_cons_of_mem _ ha) b (List.mem_cons_of_mem _ hb)
    rcases hrun : (buildSet schema targets failed entry).run i with ⟨fault | set, after⟩ <;>
      rcases hrun' : (buildSet schema' targets' failed entry').run j with ⟨fault' | set', after'⟩ <;>
      rw [hrun, hrun'] at hcounters hresults
    · obtain ⟨hsets, hfailed, hreport, hlast⟩ := ih hrest hcounters
      obtain rfl : fault = fault' := hresults
      simp only [build, hrun, hrun', (matching _ _ head).name_eq]
      exact ⟨hsets, congrArg (_ :: ·) hfailed, .cons (.refl _) hreport, hlast⟩
    · exact hresults.elim
    · exact hresults.elim
    · obtain ⟨hsets, hfailed, hreport, hlast⟩ := ih hrest hcounters
      simp only [build, hrun, hrun']
      exact ⟨.cons hresults hsets, hfailed, hreport, hlast⟩

omit h in
/-- Failures spread among related declarations in the same way. -/
theorem spreading_related
    (passed : List.Forall₂ R (checked schema).passed (checked schema').passed)
    (failed_eq : (checked schema').failed = (checked schema).failed) :
    (spreading schema).Related P R (spreading schema') := by
  have hcyclic : cyclic schema' = cyclic schema := Cycle.diagnostics_eq matching passed
  have houtset : outset schema' = outset schema := by rw [outset, outset, failed_eq, hcyclic]
  rw [spreading, spreading, houtset, ← passed.length_eq]
  exact spread_related matching passed _

omit h in
/-- If the declarations that pass match one by one in two runs, and the same others fail, all that
comes after the checks is the same, up to the types that are named and to what is allowed to differ in
sample sets. -/
theorem run_related (passed : List.Forall₂ R (checked schema).passed (checked schema').passed)
    (failed_eq : (checked schema').failed = (checked schema).failed)
    (parallel : ∀ entry ∈ (spreading schema).left, ∀ entry' ∈ (spreading schema').left,
      R entry entry' → Parallel C S (buildSet schema targets (spreading schema).failed entry)
        (buildSet schema' targets' (spreading schema).failed entry'))
    {i j : Identifiers} (hij : C i j) :
    List.Forall₂ S (run schema targets i).sets (run schema' targets' j).sets ∧
    (run schema' targets' j).failed = (run schema targets i).failed ∧
    C (run schema targets i).identifiers (run schema' targets' j).identifiers ∧
    ∃ rest rest', List.Forall₂ (Diagnostic.Related P) rest rest' ∧
      (run schema targets i).report = (checked schema).report ++ rest ∧
      (run schema' targets' j).report = (checked schema').report ++ rest' := by
  have hcyclic : cyclic schema' = cyclic schema := Cycle.diagnostics_eq matching passed
  have hspreading := spreading_related matching passed failed_eq
  have hbuilt : (built schema targets i).Related P C S (built schema' targets' j) := by
    rw [built, built, hspreading.failed_eq]
    exact build_related matching hspreading.left parallel hij
  rw [run_eq, run_eq]
  refine ⟨hbuilt.sets, ?_, hbuilt.identifiers,
    cyclic schema ++ ((spreading schema).report ++ (built schema targets i).report),
    cyclic schema' ++ ((spreading schema').report ++ (built schema' targets' j).report), ?_, ?_, ?_⟩
  · rw [failed_eq, hspreading.dropped_eq, hbuilt.failed_eq]
  · rw [hcyclic]
    exact List.rel_append (Diagnostic.related_refl _) (List.rel_append hspreading.report hbuilt.report)
  · simp only [List.append_assoc]
  · simp only [List.append_assoc]

omit h matching in
/-- If the types that are referred to are written the same in two runs, the reports are the same after
the checks, wherever the counters stand. -/
theorem run_matches (matching : ∀ entry entry', R entry entry' → entry.Matches entry')
    (passed : List.Forall₂ R (checked schema).passed (checked schema').passed)
    (failed_eq : (checked schema').failed = (checked schema).failed)
    (agree : ∀ failed entry entry', R entry entry' → Agree S (buildSet schema targets failed entry)
      (buildSet schema' targets' failed entry')) (i j : Identifiers) :
    List.Forall₂ S (run schema targets i).sets (run schema' targets' j).sets ∧
    (run schema' targets' j).failed = (run schema targets i).failed ∧
    ∃ rest, (run schema targets i).report = (checked schema).report ++ rest ∧
      (run schema' targets' j).report = (checked schema').report ++ rest := by
  obtain ⟨hsets, hfailed, _, rest, rest', hrest, hreport, hreport'⟩ :=
    run_related (P := Eq) (C := fun _ _ => True) (S := S)
      (fun _ _ h => (matching _ _ h).corresponds) passed failed_eq
      (fun entry _ entry' _ h => agree_iff_parallel.mp (agree _ entry entry' h))
      (i := i) (j := j) trivial
  obtain rfl : rest = rest' := by
    rw [← List.forall₂_eq_eq_eq]
    exact hrest.imp fun _ _ h => h.eq
  exact ⟨hsets, hfailed, rest, hreport, hreport'⟩

end Generation

end Lists

end Specimen
