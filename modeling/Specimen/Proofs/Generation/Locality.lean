import Mathlib.Data.List.Find
import Specimen.Proofs.Generation.Building
import Specimen.Proofs.Generation.Reference
import Specimen.Proofs.SampleSet.Likeness

/-!
# What a part of the declarations decides

A part of the declarations that refers to nothing outside (`SelfContained`) decides what becomes of
it: each phase of a run does to the part what it would do if there were nothing else.

For the search of ways back this is so because the search never leaves the part
(`Cycle.wayBack?_within`). The spreading of failures may take more passages when there are more
declarations, but the part is at rest then and the passages do nothing to it (`Settles.restricted`). When
samples are built, the counter may stand elsewhere, but nothing except the numbers of identifiers
depends on it (`build_within`).
-/

namespace Specimen

variable {P : String → Bool} {entries : List Prepared}

/-! ## Parts -/

/-- The declarations whose names are in a part. -/
def within (P : String → Bool) (entries : List Prepared) : List Prepared :=
  entries.filter fun entry => P entry.name

/-- What a report says about a part. -/
def reportOn (P : String → Bool) (report : List Diagnostic) : List Diagnostic :=
  report.filter fun x => P x.location.type

/-- What the declarations of a part refer to is in the part. -/
def SelfContained (P : String → Bool) (entries : List Prepared) : Prop :=
  ∀ entry ∈ entries, P entry.name = true → ∀ path ∈ entry.shape.references, P (typeKey path) = true

/-- The same names of a part are in two lists. -/
def SameOn (P : String → Bool) (names names' : List String) : Prop :=
  ∀ n, P n = true → (n ∈ names' ↔ n ∈ names)

theorem mem_within {entry : Prepared} :
    entry ∈ within P entries ↔ entry ∈ entries ∧ P entry.name = true := List.mem_filter

theorem within_cons_of_pos {entry : Prepared} (h : P entry.name = true) :
    within P (entry :: entries) = entry :: within P entries := List.filter_cons_of_pos h

theorem within_cons_of_neg {entry : Prepared} (h : ¬ P entry.name = true) :
    within P (entry :: entries) = within P entries := List.filter_cons_of_neg h

/-- A diagnostic at a name of a part is kept in the report on it. -/
theorem reportOn_ofFault_of_pos {fault : Fault} {name : String} {member : Option String}
    {report : List Diagnostic} (h : P name = true) :
    reportOn P (.ofFault fault ⟨name, member⟩ :: report) =
      .ofFault fault ⟨name, member⟩ :: reportOn P report := List.filter_cons_of_pos h

/-- A diagnostic outside a part is left out of the report on it. -/
theorem reportOn_ofFault_of_neg {fault : Fault} {name : String} {member : Option String}
    {report : List Diagnostic} (h : ¬ P name = true) :
    reportOn P (.ofFault fault ⟨name, member⟩ :: report) = reportOn P report :=
  List.filter_cons_of_neg h

/-- Names that agree on a part still do with one more name in front of both. -/
theorem SameOn.cons {names names' : List String} (h : SameOn P names names') (name : String) :
    SameOn P (name :: names) (name :: names') := by
  intro n hn
  rw [List.mem_cons, List.mem_cons, h n hn]

/-- Names outside a part do not matter to it. -/
theorem SameOn.cons_outside {names names' : List String} (h : SameOn P names names')
    {name : String} (outside : ¬ P name = true) : SameOn P (name :: names) names' := by
  intro n hn
  have hne : n ≠ name := fun heq => outside (heq ▸ hn)
  rw [List.mem_cons, h n hn, or_iff_right hne]

namespace Generation

/-! ## Checks of a part -/

/-- What passes in a part is what the declarations of the part are prepared as. -/
theorem within_passed (P : String → Bool) (schema : Schema) :
    within P (checked schema).passed =
      (schema.types.filter fun c => P c.name).filterMap fun c => (schema.prepare c).2 := by
  rw [checked, check_passed, within, List.filter_filterMap, List.filterMap_filter]
  refine List.filterMap_congr fun c _ => ?_
  cases hc : (schema.prepare c).2 with
  | none => simp
  | some entry =>
    have hname : entry.name = c.name := (Schema.ready_of_prepare hc).name_eq
    by_cases hP : P c.name = true <;> simp [hname, hP]

/-- What checking says about a part is what is said about the declarations of the part. -/
theorem reportOn_checked (P : String → Bool) (schema : Schema) :
    reportOn P (checked schema).report =
      (schema.types.filter fun c => P c.name).flatMap fun c => (schema.prepare c).1 := by
  have hown : ∀ c, ∀ x ∈ (schema.prepare c).1, x.location.type = c.name :=
    fun c x hx => (Schema.own_of_mem_prepare hx).1
  rw [checked, check_report, reportOn]
  induction schema.types with
  | nil => rfl
  | cons c types ih =>
    rw [List.flatMap_cons, List.filter_append, ih]
    by_cases hP : P c.name = true
    · rw [List.filter_cons_of_pos (by exact hP), List.flatMap_cons, List.filter_eq_self.mpr]
      intro x hx
      rw [hown c x hx, hP]
    · rw [List.filter_cons_of_neg (by exact hP), List.filter_eq_nil_iff.mpr, List.nil_append]
      intro x hx
      rw [hown c x hx]
      exact hP

end Generation

/-! ## Cycles -/

namespace Cycle

variable {g g' : Graph} {start : String}

/-- Two searches are the same as long as they only see what is the same in both graphs. -/
theorem Ends.congr (same : ∀ a, P a = true → g'.lookup a = g.lookup a)
    (closed : ∀ a, P a = true → ∀ b ∈ next g a, P b = true) {s : Search} {n : Nat}
    {result : Option (List String)} (h : Ends g start s n result)
    (inside : ∀ top ∈ s.stack, P top.1 = true) : Ends g' start s n result := by
  have hnext : ∀ a, P a = true → next g' a = next g a := fun a ha => by
    rw [next, next, same a ha]
  induction h with
  | exhausted => exact .exhausted
  | @found met name way stack h =>
    have hname : P name = true := inside _ List.mem_cons_self
    exact .found (by rw [Edge, hnext name hname]; exact h)
  | @round met name way stack n result h _ ih =>
    have hname : P name = true := inside _ List.mem_cons_self
    have hmeet : (next g' name).foldl (Search.meet g' way) ⟨met, stack⟩ =
        (next g name).foldl (Search.meet g way) ⟨met, stack⟩ := by
      rw [hnext name hname]
      refine List.foldl_ext _ _ _ fun s b hb => ?_
      rw [Search.meet, Search.meet, hasNode, hasNode, same b (closed name hname b hb)]
    have hinside : ∀ top ∈ ((next g name).foldl (Search.meet g way) ⟨met, stack⟩).stack,
        P top.1 = true := by
      obtain ⟨fresh, hfresh, heq⟩ := foldl_meet g way (next g name) ⟨met, stack⟩
      rw [heq]
      intro top htop
      rcases List.mem_append.mp htop with htop | htop
      · obtain ⟨b, hb, rfl⟩ := List.mem_map.mp htop
        exact closed name hname b (hfresh.mem b hb).1
      · exact inside top (List.mem_cons_of_mem _ htop)
    refine .round (by rw [Edge, hnext name hname]; exact h) ?_
    rw [hmeet]
    exact ih hinside

/-- In the graph of a part the same edges begin at the names of the part. -/
theorem lookup_graph_within {a : String} (h : P a = true) :
    (graph (within P entries)).lookup a = (graph entries).lookup a := by
  unfold graph
  induction entries with
  | nil => rfl
  | cons entry entries ih =>
    by_cases hP : P entry.name = true
    · rw [within_cons_of_pos hP, List.map_cons, List.map_cons, List.lookup_cons, List.lookup_cons, ih]
    · have hne : (a == entry.name) = false := by
        rw [beq_eq_false_iff_ne]
        rintro rfl
        exact hP h
      rw [within_cons_of_neg hP, ih, List.map_cons, List.lookup_cons, hne]

/-- The same way back is found in two graphs as long as the search only sees what is the same in
both. -/
theorem wayBack?_congr (same : ∀ a, P a = true → g'.lookup a = g.lookup a)
    (closed : ∀ a, P a = true → ∀ b ∈ next g a, P b = true) (h : P start = true) :
    wayBack? g' start = wayBack? g start := by
  obtain ⟨n, _, hends⟩ := ends_wayBack? g start
  obtain ⟨m, _, hends'⟩ := ends_wayBack? g' start
  have hinside : ∀ top ∈ [(start, [start])], P top.1 = true := by simpa using h
  have hsame := hends.congr same closed hinside
  rw [← hends'.search_eq (Nat.le_max_right n m), hsame.search_eq (Nat.le_max_left n m)]

/-- The search from a name of the part never leaves the part. -/
theorem wayBack?_within (closed : SelfContained P entries)
    (distinct : (entries.map Prepared.name).Nodup) (h : P start = true) :
    wayBack? (graph (within P entries)) start = wayBack? (graph entries) start := by
  refine wayBack?_congr (fun a ha => lookup_graph_within ha) (fun a ha b hb => ?_) h
  obtain ⟨entry, hentry, rfl, hkey⟩ := (Generation.edge_graph_iff distinct).mp hb
  obtain ⟨path, hpath, rfl⟩ := List.mem_map.mp hkey
  exact closed entry hentry ha path hpath

/-- What is said about cycles in the part does not depend on what is outside. -/
theorem diagnostics_within (closed : SelfContained P entries)
    (distinct : (entries.map Prepared.name).Nodup) :
    diagnostics (within P entries) = reportOn P (diagnostics entries) := by
  have hfilter : ∀ l : List Prepared,
      reportOn P (l.filterMap fun entry => diagnostic? (graph entries) entry.name) =
        (within P l).filterMap fun entry => diagnostic? (graph entries) entry.name := by
    intro l
    rw [reportOn, within, List.filter_filterMap, List.filterMap_filter]
    refine List.filterMap_congr fun entry _ => ?_
    rw [diagnostic?]
    cases wayBack? (graph entries) entry.name with
    | none => simp
    | some way => by_cases hP : P entry.name = true <;> simp [hP]
  rw [diagnostics, diagnostics, hfilter]
  refine List.filterMap_congr fun entry hentry => ?_
  rw [diagnostic?, diagnostic?, wayBack?_within closed distinct (mem_within.mp hentry).2]

end Cycle

/-! ## Spreading -/

namespace Generation

variable {failed failed' : List String}

/-- The spreading of failures does to a part what it does to it on its own. -/
structure Spread.Restricts (P : String → Bool) (s part : Spread) : Prop where
  left : part.left = within P s.left
  report : part.report = reportOn P s.report
  failed : SameOn P s.failed part.failed

/-- Whether an entry is broken depends on the failed names among its references only. -/
theorem broken?_congr {entry : Prepared}
    (same : ∀ path ∈ entry.shape.references, typeKey path ∈ failed' ↔ typeKey path ∈ failed) :
    broken? failed' entry = broken? failed entry := by
  refine List.find?_congr fun path hpath => ?_
  simpa using same path hpath

/-- A passage does to a part what it does to it on its own, if all that the part refers to is in the part.
-/
theorem sweep_within (closed : SelfContained P entries) (same : SameOn P failed failed') :
    (sweep failed entries).Restricts P (sweep failed' (within P entries)) := by
  induction entries generalizing failed failed' with
  | nil => exact ⟨rfl, rfl, same⟩
  | cons entry entries ih =>
    obtain ⟨hentry, hrest⟩ := List.forall_mem_cons.mp closed
    by_cases hP : P entry.name = true
    · rw [within_cons_of_pos hP]
      by_cases hname : entry.name ∈ failed
      · have hname' : entry.name ∈ failed' := (same _ hP).mpr hname
        simp only [sweep, List.contains_iff_mem.mpr hname, List.contains_iff_mem.mpr hname', if_true]
        obtain ⟨hleft, hreport, hfailed⟩ := ih hrest same
        exact ⟨hleft, hreport, hfailed⟩
      · have hname' : entry.name ∉ failed' := fun h => hname ((same _ hP).mp h)
        have hbroken : broken? failed' entry = broken? failed entry :=
          broken?_congr fun path hpath => same _ (hentry hP path hpath)
        simp only [sweep, List.contains_iff_mem, hname, hname', if_false, hbroken]
        cases broken? failed entry with
        | some path =>
          obtain ⟨hleft, hreport, hfailed⟩ := ih hrest (same.cons entry.name)
          refine ⟨hleft, ?_, hfailed⟩
          rw [reportOn_ofFault_of_pos hP, hreport]
        | none =>
          obtain ⟨hleft, hreport, hfailed⟩ := ih hrest same
          refine ⟨?_, hreport, hfailed⟩
          rw [within_cons_of_pos hP, hleft]
    · rw [within_cons_of_neg hP]
      by_cases hname : entry.name ∈ failed
      · simp only [sweep, List.contains_iff_mem.mpr hname, if_true]
        obtain ⟨hleft, hreport, hfailed⟩ := ih hrest same
        exact ⟨hleft, hreport, hfailed⟩
      · simp only [sweep, List.contains_iff_mem, hname, if_false]
        cases broken? failed entry with
        | some path =>
          obtain ⟨hleft, hreport, hfailed⟩ := ih hrest (same.cons_outside hP)
          refine ⟨hleft, ?_, hfailed⟩
          rw [reportOn_ofFault_of_neg hP, hreport]
        | none =>
          obtain ⟨hleft, hreport, hfailed⟩ := ih hrest same
          refine ⟨?_, hreport, hfailed⟩
          rw [within_cons_of_neg hP, hleft]

/-- A passage does nothing where nothing can fail any more. -/
theorem sweep_of_stable (h : Spread.Stable ⟨entries, failed, [], []⟩) :
    sweep failed entries = ⟨entries, failed, [], []⟩ := by
  induction entries with
  | nil => rfl
  | cons entry entries ih =>
    obtain ⟨⟨hname, hrefs⟩, hrest⟩ := List.forall_mem_cons.mp h
    have hbroken : broken? failed entry = none := by
      refine List.find?_eq_none.mpr fun path hpath => ?_
      simpa using hrefs path hpath
    simp only [sweep, List.contains_iff_mem, hname, if_false, hbroken, ih hrest]

/-- Spreading comes to rest in one way only. -/
theorem Settles.unique {n m : Nat} {s s' : Spread} (h : Settles failed entries n s)
    (h' : Settles failed entries m s') : s = s' := by
  rw [← h.spread_eq (Nat.le_max_left n m), h'.spread_eq (Nat.le_max_right n m)]

/-- A spreading that settles does so on a part that contains all that its declarations refer to, and it does
the same to the part there. -/
theorem Settles.restricted {n : Nat} {s : Spread} (h : Settles failed entries n s)
    (closed : SelfContained P entries) (same : SameOn P failed failed') :
    ∃ m part, Settles failed' (within P entries) m part ∧ s.Restricts P part := by
  induction h generalizing failed' with
  | @rest failed entries h =>
    have hpass := sweep_within closed same
    have hreport : (sweep failed' (within P entries)).report = [] := by
      rw [hpass.report, h]
      rfl
    exact ⟨1, _, .rest hreport, hpass⟩
  | @again failed entries n s h _ ih =>
    have hpass := sweep_within closed same
    have hclosed : SelfContained P (sweep failed entries).left :=
      fun entry hentry => closed entry ((sweep_sound failed entries).left_sublist.subset hentry)
    obtain ⟨m, part, hpart, hrest⟩ := ih hclosed hpass.failed
    rw [← hpass.left] at hpart
    by_cases hreport : (sweep failed' (within P entries)).report = []
    · -- the part is at rest already, and what comes after does nothing to it
      have hidle := sweep_of_stable (sweep_stable hreport)
      have hsettles := Settles.rest (congrArg Spread.report hidle)
      obtain rfl := (hpart.unique hsettles).trans hidle
      refine ⟨1, _, .rest hreport, hrest.left, ?_, hrest.failed⟩
      rw [Spread.followedBy, reportOn, List.filter_append, hpass.report]
      exact (List.append_nil _).symm.trans (congrArg _ hrest.report)
    · refine ⟨m + 1, _, .again hreport hpart, hrest.left, ?_, hrest.failed⟩
      rw [Spread.followedBy, Spread.followedBy, hpass.report, hrest.report, reportOn, reportOn,
        reportOn, List.filter_append]

end Generation

/-! ## Samples -/

open Synthesis

namespace Generation

variable {schema schema' : Schema} {targets : Targets} {failed failed' : List String}

/-- If the references of a declaration are in the same state, its sample sets are alike. -/
theorem buildSet_agree (targets : Targets) {entry : Prepared}
    (status_eq : ∀ path ∈ entry.shape.references,
      status schema' failed' path = status schema failed path) :
    Agree SampleSet.Alike (buildSet schema targets failed entry)
      (buildSet schema' targets failed' entry) :=
  SampleSet.build_alike (surroundings schema targets failed entry)
    (surroundings schema' targets failed' entry) rfl rfl status_eq _

/-- The sets of a part are alike wherever the counter stands and whatever is built besides. -/
theorem build_within (targets : Targets)
    (ready : ∀ entry ∈ entries, ∃ d, schema.Ready d entry)
    (same : ∀ entry ∈ entries, P entry.name = true → Agree SampleSet.Alike
      (buildSet schema targets failed entry) (buildSet schema' targets failed' entry))
    (i j : Identifiers) :
    ((build schema targets failed entries i).sets.filter fun set => P set.typeName).map
        SampleSet.unnumbered =
      (build schema' targets failed' (within P entries) j).sets.map SampleSet.unnumbered ∧
    reportOn P (build schema targets failed entries i).report =
      (build schema' targets failed' (within P entries) j).report := by
  induction entries generalizing i j with
  | nil => exact ⟨rfl, rfl⟩
  | cons entry entries ih =>
    obtain ⟨⟨d, hd⟩, hready⟩ := List.forall_mem_cons.mp ready
    obtain ⟨hentry, hsame⟩ := List.forall_mem_cons.mp same
    by_cases hP : P entry.name = true
    · have hagree := hentry hP i j
      rw [within_cons_of_pos hP]
      rcases hrun : (buildSet schema targets failed entry).run i with ⟨fault | set, after⟩ <;>
        rcases hrun' : (buildSet schema' targets failed' entry).run j with ⟨fault' | set', after'⟩ <;>
        rw [hrun, hrun'] at hagree
      · obtain ⟨hsets, hreport⟩ := ih hready hsame after after'
        obtain rfl : fault = fault' := hagree
        simp only [build, hrun, hrun']
        refine ⟨hsets, ?_⟩
        rw [reportOn_ofFault_of_pos hP, hreport]
      · exact hagree.elim
      · exact hagree.elim
      · obtain ⟨hsets, hreport⟩ := ih hready hsame after after'
        have hname : set.typeName = entry.name :=
          ((buildSet_meets targets failed hd).of_ok hrun).2.typeName_eq
        have hkept : P set.typeName = true := hname ▸ hP
        simp only [build, hrun, hrun']
        refine ⟨?_, hreport⟩
        rw [List.filter_cons_of_pos (by exact hkept), List.map_cons, List.map_cons, hsets]
        exact congrArg (· :: _) hagree
    · rw [within_cons_of_neg hP]
      rcases hrun : (buildSet schema targets failed entry).run i with ⟨fault | set, after⟩
      · obtain ⟨hsets, hreport⟩ := ih hready hsame after j
        simp only [build, hrun]
        refine ⟨hsets, ?_⟩
        rw [reportOn_ofFault_of_neg hP, hreport]
      · obtain ⟨hsets, hreport⟩ := ih hready hsame after j
        have hname : set.typeName = entry.name :=
          ((buildSet_meets targets failed hd).of_ok hrun).2.typeName_eq
        have hleft : ¬ P set.typeName = true := hname ▸ hP
        simp only [build, hrun]
        refine ⟨?_, hreport⟩
        rw [List.filter_cons_of_neg (by exact hleft)]
        exact hsets

/-- If the same is left of a part in two runs, the same is built of it, up to the numbers of
identifiers. -/
theorem build_eq_within (targets : Targets) {entries' : List Prepared}
    (ready : ∀ entry ∈ entries, ∃ d, schema.Ready d entry)
    (ready' : ∀ entry ∈ entries', ∃ d, schema'.Ready d entry)
    (left : within P entries' = within P entries)
    (same : ∀ entry ∈ entries, P entry.name = true → Agree SampleSet.Alike
      (buildSet schema targets failed entry) (buildSet schema' targets failed' entry))
    (i j : Identifiers) :
    ((build schema' targets failed' entries' j).sets.filter fun set => P set.typeName).map
        SampleSet.unnumbered =
      ((build schema targets failed entries i).sets.filter fun set => P set.typeName).map
        SampleSet.unnumbered ∧
    reportOn P (build schema' targets failed' entries' j).report =
      reportOn P (build schema targets failed entries i).report := by
  obtain ⟨hsets, hreport⟩ := build_within targets ready same i j
  obtain ⟨hsets', hreport'⟩ := build_within targets ready'
    (fun entry _ _ => buildSet_agree targets fun _ _ => rfl) j j
  rw [left] at hsets' hreport'
  exact ⟨hsets'.trans hsets.symm, hreport'.trans hreport.symm⟩

end Generation

end Specimen
