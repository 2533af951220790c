import Specimen.Proofs.Generation.Accounting
import Specimen.Proofs.Generation.Failure
import Specimen.Proofs.Generation.Locality

/-!
# The order of declarations

Declarations are checked, searched for cycles, dropped and sampled in the order of the schema. Which
of them have samples does not depend on it: a declaration is checked on its own, a search only asks
what names refer to, and the names that fail are a least set that knows no order
(`Spread.mem_failed_iff`). What the order decides is the order of the result, the numbers of
identifiers, and which of several failures a declaration is told about.

Main statement: `order_independence`.
-/

namespace Specimen

/-! ## Lists that names tell apart -/

section Lists

variable {α : Type} {f : α → String} {l l' : List α}

/-- What a name finds does not depend on the order. -/
theorem filter_eq_of_perm (perm : l'.Perm l) (distinct : (l.map f).Nodup) (n : String) :
    (l'.filter fun a => f a == n) = l.filter fun a => f a == n := by
  have hperm := perm.filter fun a => f a == n
  have hdistinct := ((List.filter_sublist (p := fun a => f a == n)).map f).nodup distinct
  have hname : ∀ a ∈ l.filter fun a => f a == n, f a = n :=
    fun a ha => beq_iff_eq.mp (List.mem_filter.mp ha).2
  rcases hl : l.filter fun a => f a == n with _ | ⟨a, _ | ⟨b, rest⟩⟩ <;> rw [hl] at hperm
  · exact hperm.eq_nil
  · exact List.perm_singleton.mp hperm
  · rw [hl] at hdistinct hname
    have hsame : f a = f b := (hname a (by simp)).trans (hname b (by simp)).symm
    simp [hsame] at hdistinct

/-- Lists in which each name finds the same are the same up to their order. -/
theorem perm_of_filter_eq
    (same : ∀ n, (l'.filter fun a => f a == n) = l.filter fun a => f a == n) :
    l'.Perm l := by
  classical
  refine List.perm_iff_count.mpr fun a => ?_
  have hcount : ∀ m : List α, (m.filter fun b => f b == f a).count a = m.count a :=
    fun m => List.count_filter (by simp)
  rw [← hcount, same, hcount]

end Lists

/-! ## Schemas -/

namespace Schema

variable {schema schema' : Schema}

/-- Two schemas have the same declarations, in whatever order. -/
structure Reordered (schema schema' : Schema) : Prop where
  defaults_eq : schema'.defaults = schema.defaults
  externalTypes_eq : schema'.externalTypes = schema.externalTypes
  types : schema'.types.Perm schema.types

namespace Reordered

variable (h : schema.Reordered schema')

include h

theorem knows_eq : schema'.knows = schema.knows :=
  knows_congr (fun _ => (h.types.map Declaration.name).mem_iff) h.externalTypes_eq

theorem prepare_eq : schema'.prepare = schema.prepare :=
  funext fun d => prepare_congr h.knows_eq (by rw [h.defaults_eq]) d

theorem refersTo_eq : schema'.RefersTo = schema.RefersTo := by
  funext d e
  rw [RefersTo, RefersTo, h.types.mem_iff, h.types.mem_iff]

theorem passes_eq : schema'.Passes = schema.Passes := by
  funext d
  rw [Passes, Passes, h.prepare_eq]

theorem onCycle_eq : schema'.OnCycle = schema.OnCycle := by
  have hstep : schema'.Step = schema.Step := by
    funext d e
    rw [Step, Step, h.refersTo_eq, h.passes_eq]
  funext d
  rw [OnCycle, OnCycle, hstep]

theorem bad_eq : schema'.Bad = schema.Bad := by
  funext d
  rw [Bad, Bad, h.passes_eq, h.onCycle_eq]

/-- Failures spread to the same declarations. -/
theorem blocked_eq : schema'.Blocked = schema.Blocked := by
  funext d
  rw [Blocked, Blocked, h.passes_eq, h.onCycle_eq, h.refersTo_eq, h.bad_eq]

end Reordered

end Schema

/-! ## Cycles -/

namespace Cycle

/-- A graph is looked up at the first node of a name. -/
theorem lookup_eq_filter (g : Graph) (a : String) :
    g.lookup a = (g.filter fun node => node.1 == a).head?.map Prod.snd := by
  induction g with
  | nil => rfl
  | cons node g ih =>
    obtain ⟨b, names⟩ := node
    by_cases h : b = a
    · simp [h]
    · have hne : (a == b) = false := beq_eq_false_iff_ne.mpr (Ne.symm h)
      simp [List.lookup_cons, hne, h, ih]

/-- The ways back do not depend on the order of the declarations. -/
theorem wayBack?_eq_of_perm {entries entries' : List Prepared} (perm : entries'.Perm entries)
    (distinct : (entries.map Prepared.name).Nodup) :
    wayBack? (graph entries') = wayBack? (graph entries) := by
  have hperm : (graph entries').Perm (graph entries) := perm.map _
  have hnames : ((graph entries).map Prod.fst).Nodup := by
    rw [graph, List.map_map]
    exact distinct
  have hsame : ∀ a, (graph entries').lookup a = (graph entries).lookup a := fun a => by
    rw [lookup_eq_filter, lookup_eq_filter, filter_eq_of_perm hperm hnames]
  funext start
  exact wayBack?_congr (P := fun _ => true) (fun a _ => hsame a) (fun _ _ _ _ => rfl) rfl

end Cycle

namespace Generation

variable {schema schema' : Schema} {d : Declaration}

/-! ## Phases of both runs -/

/-- What has failed when failures have spread, said of names. -/
theorem mem_spreading_failed {n : String} :
    n ∈ (spreading schema).failed ↔
      ∃ d ∈ schema.types, d.name = n ∧ (schema.Bad d ∨ schema.Blocked d) := by
  constructor
  · intro h
    obtain ⟨d, hd, hname, hreach⟩ := exists_of_doomed ((spreading_sound schema).doomed n h)
    exact ⟨d, hd, hname, Schema.bad_or_blocked_iff.mpr hreach⟩
  · rintro ⟨d, hd, rfl, hfails⟩
    exact (mem_spreading_failed_iff hd).mpr hfails

section Phases

variable (h : schema.Reordered schema')

include h

/-- The same declarations pass, in another order. -/
theorem passed_perm : (checked schema').passed.Perm (checked schema).passed := by
  rw [checked, checked, check_passed, check_passed, h.prepare_eq]
  exact h.types.filterMap _

/-- Checking says the same about each name. -/
theorem reportOn_checked_perm (n : String) :
    reportOn (· == n) (checked schema').report = reportOn (· == n) (checked schema).report := by
  rw [reportOn_checked, reportOn_checked, h.prepare_eq,
    filter_eq_of_perm h.types schema.distinct n]

/-- The search for cycles says the same about each name. -/
theorem reportOn_cyclic_perm (n : String) :
    reportOn (· == n) (cyclic schema') = reportOn (· == n) (cyclic schema) := by
  have hdiagnostic : Cycle.diagnostic? (Cycle.graph (checked schema').passed) =
      Cycle.diagnostic? (Cycle.graph (checked schema).passed) := by
    funext name
    rw [Cycle.diagnostic?, Cycle.diagnostic?,
      Cycle.wayBack?_eq_of_perm (passed_perm h) (passed_names_nodup schema)]
  have hperm : (cyclic schema').Perm (cyclic schema) := by
    rw [cyclic, cyclic, Cycle.diagnostics, Cycle.diagnostics, hdiagnostic]
    exact (passed_perm h).filterMap _
  exact filter_eq_of_perm hperm (cyclic_names_nodup schema) n

/-- The same names fail by spreading in any order. -/
theorem mem_spreading_failed_congr (n : String) :
    n ∈ (spreading schema').failed ↔ n ∈ (spreading schema).failed := by
  simp only [mem_spreading_failed, h.types.mem_iff, h.bad_eq, h.blocked_eq]

/-- The same declarations are left to be built, in another order. -/
theorem left_perm : (spreading schema').left.Perm (spreading schema).left := by
  have hnodup : ∀ schema, (spreading schema).left.Nodup := fun schema =>
    ((spreading_sound schema).left_sublist.nodup (passed_names_nodup schema).of_map)
  rw [List.perm_ext_iff_of_nodup (hnodup schema') (hnodup schema)]
  intro entry
  rw [mem_left_iff, mem_left_iff, (passed_perm h).mem_iff, mem_spreading_failed_congr h]

/-- Both runs build the same of each declaration, up to the numbers of identifiers. -/
theorem built_perm (targets : Targets) (identifiers identifiers' : Identifiers) (n : String) :
    ((built schema' targets identifiers').sets.filter fun set => set.typeName == n).map
        SampleSet.unnumbered =
      ((built schema targets identifiers).sets.filter fun set => set.typeName == n).map
        SampleSet.unnumbered ∧
    reportOn (· == n) (built schema' targets identifiers').report =
      reportOn (· == n) (built schema targets identifiers).report := by
  have hnames : ((spreading schema).left.map Prepared.name).Nodup :=
    ((spreading_sound schema).left_sublist.map _).nodup (passed_names_nodup schema)
  have hleft : within (· == n) (spreading schema').left = within (· == n) (spreading schema).left :=
    filter_eq_of_perm (left_perm h) hnames n
  exact build_eq_within targets exists_ready_of_mem_left exists_ready_of_mem_left hleft
    (fun _ _ _ => buildSet_agree targets fun _ _ =>
      status_congr h.knows_eq (mem_spreading_failed_congr h _)) identifiers identifiers'

end Phases

/-! ## Results -/

/-- The same is said about a declaration, except that another of the failed types that it refers to may
be named. -/
inductive Retold (d : Declaration) (failed : List String) : Diagnostic → Diagnostic → Prop
  | same (x : Diagnostic) : Retold d failed x x
  | dependency {shape : Shape} {path path' : String} (shape_eq : d.shape = .ok shape)
      (ref : path ∈ shape.references) (ref' : path' ∈ shape.references)
      (target : typeKey path ∈ failed) (target' : typeKey path' ∈ failed) :
      Retold d failed (.ofFault (.dependencyFailed path) ⟨d.name, none⟩)
        (.ofFault (.dependencyFailed path') ⟨d.name, none⟩)

theorem Retold.mono {failed failed' : List String} (sub : failed ⊆ failed') {x y : Diagnostic}
    (h : Retold d failed x y) : Retold d failed' x y := by
  cases h with
  | same => exact .same x
  | dependency shape_eq ref ref' target target' =>
    exact .dependency shape_eq ref ref' (sub target) (sub target')

theorem retold_of_eq {failed : List String} {report report' : List Diagnostic}
    (h : report' = report) : List.Forall₂ (Retold d failed) report report' :=
  h ▸ List.forall₂_same.mpr fun x _ => .same x

/-- What is said about a declaration to which failures spread is said in each order, but the failure
that is met first may be another. -/
theorem spreading_retold (h : schema.Reordered schema') (hd : d ∈ schema.types) :
    List.Forall₂ (Retold d (spreading schema).failed) (reportOn (· == d.name) (spreading schema).report)
      (reportOn (· == d.name) (spreading schema').report) := by
  have hd' : d ∈ schema'.types := h.types.mem_iff.mpr hd
  have hiff : schema'.Blocked d ↔ schema.Blocked d := by rw [h.blocked_eq]
  by_cases hblocked : schema.Blocked d
  · obtain ⟨shape, path, e, hshape, hpath, he, hkey, hfails, hreport⟩ := exists_broken hd hblocked
    obtain ⟨shape', path', e', hshape', hpath', he', hkey', hfails', hreport'⟩ :=
      exists_broken hd' (hiff.mpr hblocked)
    obtain rfl : shape = shape' := Except.ok.inj (hshape.symm.trans hshape')
    have hfailed := mem_spreading_failed.mpr ⟨e, he, hkey.symm, hfails⟩
    have hfailed' := mem_spreading_failed.mpr ⟨e', he', hkey'.symm, hfails'⟩
    rw [mem_spreading_failed_congr h] at hfailed'
    rw [reportOn, reportOn, hreport, hreport']
    exact .cons (.dependency hshape hpath hpath' hfailed hfailed') .nil
  · have hnone : ∀ {schema : Schema}, d ∈ schema.types → ¬ schema.Blocked d →
        reportOn (· == d.name) (spreading schema).report = [] := by
      intro schema hd hblocked
      rw [reportOn, List.filter_eq_nil_iff]
      intro x hx hname
      refine hblocked ((mem_reportNames_iff hd).mp (List.mem_map.mpr ⟨x, hx, ?_⟩))
      exact beq_iff_eq.mp hname
    rw [hnone hd hblocked, hnone hd' (mt hiff.mp hblocked)]
    exact .nil

/-- What fails by spreading has failed in the end. -/
theorem spreading_failed_subset (schema : Schema) (targets : Targets) (identifiers : Identifiers) :
    (spreading schema).failed ⊆ (run schema targets identifiers).failed := by
  intro n hn
  obtain ⟨d, hd, rfl, _⟩ := mem_spreading_failed.mp hn
  exact (mem_failed_iff hd).mpr (.inl hn)

/-- The same sets are emitted, in another order and with other numbers. -/
theorem sets_perm (h : schema.Reordered schema') (targets : Targets)
    (identifiers identifiers' : Identifiers) :
    ((run schema' targets identifiers').sets.map SampleSet.unnumbered).Perm
      ((run schema targets identifiers).sets.map SampleSet.unnumbered) := by
  refine perm_of_filter_eq (f := SampleSet.typeName) fun n => ?_
  rw [List.filter_map, List.filter_map]
  exact (built_perm h targets identifiers identifiers' n).1

/-- The order of declarations does not decide which of them have samples. They have the same samples
up to the numbers of identifiers, and the same is said about each of them, except that among several
failed types that a declaration refers to another one may be named. -/
theorem order_independence (h : schema.Reordered schema') (targets : Targets)
    (identifiers identifiers' : Identifiers) :
    (run schema' targets identifiers').failed.Perm (run schema targets identifiers).failed ∧
    ((run schema' targets identifiers').sets.map SampleSet.unnumbered).Perm
      ((run schema targets identifiers).sets.map SampleSet.unnumbered) ∧
    ∀ d ∈ schema.types, List.Forall₂ (Retold d (run schema targets identifiers).failed)
      ((run schema targets identifiers).report.filter fun x => x.location.type == d.name)
      ((run schema' targets identifiers').report.filter fun x => x.location.type == d.name) := by
  have hsets := sets_perm h targets identifiers identifiers'
  refine ⟨?_, hsets, fun d hd => ?_⟩
  · -- the declarations are those with samples and those without
    have hnames : ∀ sets : List SampleSet, (sets.map SampleSet.unnumbered).map SampleSet.typeName =
        sets.map SampleSet.typeName := fun sets => List.map_map ..
    have hemitted := hsets.map SampleSet.typeName
    rw [hnames, hnames] at hemitted
    refine (List.perm_append_left_iff ((run schema targets identifiers).sets.map
      SampleSet.typeName)).mp ?_
    calc (_ ++ (run schema' targets identifiers').failed).Perm
          ((run schema' targets identifiers').sets.map SampleSet.typeName ++ _) :=
          hemitted.symm.append_right _
      List.Perm _ schema'.typeNames := run_accounted schema' targets identifiers'
      List.Perm _ schema.typeNames := h.types.map _
      List.Perm _ _ := (run_accounted schema targets identifiers).symm
  · have hspreading := (spreading_retold h hd).imp fun _ _ =>
      Retold.mono (spreading_failed_subset schema targets identifiers)
    have hbuilt := (built_perm h targets identifiers identifiers' d.name).2
    have hcyclic := reportOn_cyclic_perm h d.name
    have hchecked := reportOn_checked_perm h d.name
    unfold reportOn at hspreading hbuilt hcyclic hchecked
    rw [run_eq, run_eq]
    simp only [List.filter_append]
    exact List.rel_append (List.rel_append (List.rel_append (retold_of_eq hchecked)
      (retold_of_eq hcyclic)) hspreading) (retold_of_eq hbuilt)

/-- A kitchen is never sampled. A dish comes from a kitchen, and a menu has both. -/
def kitchen : Declaration := Declaration.ofKind "Kitchen" .struct 0

def dish : Declaration :=
  (Declaration.ofKind "Dish" .struct 1).withMember { name := "kitchen", type := "Kitchen" }

def menu : Declaration where
  kind := .struct
  name := "Menu"
  members := [{ name := "dish", type := "Dish" }, { name := "kitchen", type := "Kitchen" }]
  sample := { count := 1 }

def table : Declaration where
  kind := .struct
  name := "Table"
  members := [{ name := "id", type := "Uuid" }]
  sample := { count := 2, mode := some .fixed }

def guest : Declaration where
  kind := .struct
  name := "Guest"
  members := [{ name := "id", type := "Uuid" }, { name := "table", type := "Table" }]
  sample := { count := 1, mode := some .fixed }

def restaurant : Schema where
  types := [menu, dish, kitchen, table, guest]
  distinct := by decide

def restaurantFromGuest : Schema where
  types := [guest, table, dish, menu, kitchen]
  distinct := by decide

/-- The menu is told about the kitchen if it comes before the dish, and else about the dish. -/
theorem order_independence_restaurant :
    restaurant.Reordered restaurantFromGuest ∧
    (run restaurantFromGuest .standard {}).failed.Perm (run restaurant .standard {}).failed ∧
    ((run restaurantFromGuest .standard {}).sets.map SampleSet.unnumbered).Perm
      ((run restaurant .standard {}).sets.map SampleSet.unnumbered) ∧
    (run restaurant .standard {}).failed = ["Kitchen", "Menu", "Dish"] ∧
    ((run restaurant .standard {}).report.filter fun x => x.location.type == "Menu") =
      [.ofFault (.dependencyFailed "Kitchen") ⟨"Menu", none⟩] ∧
    ((run restaurantFromGuest .standard {}).report.filter fun x => x.location.type == "Menu") =
      [.ofFault (.dependencyFailed "Dish") ⟨"Menu", none⟩] := by
  have hreordered : restaurant.Reordered restaurantFromGuest := ⟨rfl, rfl, by decide⟩
  obtain ⟨hfailed, hsets, _⟩ := order_independence hreordered .standard {} {}
  exact ⟨hreordered, hfailed, hsets, by decide +kernel, by decide +kernel, by decide +kernel⟩

end Generation

end Specimen
