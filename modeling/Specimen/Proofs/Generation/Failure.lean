import Specimen.Proofs.Generation.Run

/-!
# Which declarations fail before samples are built

Two of the phases of a run look at how declarations refer to each other, and both are exact.

* `cyclicReference_spec`: the search for cycles reports the declarations that lie on one, each with a
  way along references that leads back to it. What has samples is so free of cycles.
* `dependencyFailed_spec`: the spreading of failures reports the declarations that lead to a failure,
  each once and with a reference that has failed, and removes no others.
-/

namespace Specimen.Generation

open Relation (TransGen)

variable {schema : Schema} {targets : Targets} {identifiers : Identifiers} {d e : Declaration}

/-! ## Cycles -/

/-- A chain of names in the graph is one of declarations that pass. -/
theorem exists_chain {names : List String}
    (chain : List.IsChain (Cycle.Edge (Cycle.graph (checked schema).passed)) names)
    (last : ∀ a, names.getLast? = some a →
      Cycle.hasNode (Cycle.graph (checked schema).passed) a = true) :
    ∃ ds : List Declaration, ds.map Declaration.name = names ∧
      (∀ d ∈ ds, d ∈ schema.types ∧ schema.Passes d) ∧ List.IsChain schema.Step ds := by
  induction chain with
  | nil => exact ⟨[], rfl, by simp, .nil⟩
  | singleton a =>
    obtain ⟨d, hd, hpasses, rfl⟩ := exists_of_hasNode (last a rfl)
    exact ⟨[d], rfl, by simpa using ⟨hd, hpasses⟩, .singleton d⟩
  | cons_cons edge _ ih =>
    obtain ⟨ds, hnames, hall, hchain⟩ := ih fun a h => last a (by simpa using h)
    obtain ⟨e, ds, rfl, rfl, rfl⟩ := List.map_eq_cons_iff.mp hnames
    obtain ⟨d, hd, hpasses, rfl⟩ := exists_of_hasNode (Cycle.hasNode_of_edge edge)
    have he := hall e List.mem_cons_self
    have hstep := (edge_iff_step hd he.1 he.2).mp edge
    exact ⟨d :: e :: ds, rfl, List.forall_mem_cons.mpr ⟨⟨hd, hpasses⟩, hall⟩, hchain.cons_cons hstep⟩

/-- The way that is found for a declaration leads along references from it back to it, and passes no
declaration twice. -/
theorem exists_way (hd : d ∈ schema.types) (hpasses : schema.Passes d) {way : List String}
    (h : Cycle.wayBack? (Cycle.graph (checked schema).passed) d.name = some way) :
    ∃ inner : List Declaration, way = (d :: inner ++ [d]).map Declaration.name ∧
      List.IsChain schema.Step (d :: inner ++ [d]) ∧ inner.Nodup ∧ d ∉ inner := by
  obtain ⟨names, rfl, hnodup, hstart, hchain⟩ := Cycle.wayBack?_eq_some h
  have hlast : ∀ a, (d.name :: names ++ [d.name]).getLast? = some a →
      Cycle.hasNode (Cycle.graph (checked schema).passed) a = true := by
    intro a ha
    obtain rfl : d.name = a := Option.some.inj (List.getLast?_concat.symm.trans ha)
    obtain ⟨_, hedge, _⟩ := TransGen.head'_iff.mp
      (Cycle.wayBack?_isSome_iff.mp (by rw [h]; rfl))
    exact Cycle.hasNode_of_edge hedge
  obtain ⟨ds, hnames, hall, hsteps⟩ := exists_chain hchain hlast
  obtain ⟨front, back, rfl, hfront, hback⟩ := List.map_eq_append_iff.mp hnames
  obtain ⟨first, inner, rfl, hfirst, rfl⟩ := List.map_eq_cons_iff.mp hfront
  obtain ⟨final, rfl, hfinal⟩ := List.map_eq_singleton_iff.mp hback
  obtain rfl := Schema.eq_of_name_eq (hall first (by simp)).1 hd hfirst
  obtain rfl := Schema.eq_of_name_eq (hall final (by simp)).1 hd hfinal
  exact ⟨inner, by simp, hsteps, hnodup.of_map, fun hmem => hstart (List.mem_map_of_mem hmem)⟩

/-- An error about a cycle comes from the search for cycles. -/
theorem mem_report_and_cyclicReference_iff {x : Diagnostic} :
    x ∈ (run schema targets identifiers).report ∧ x.id = "cyclic_reference" ↔ x ∈ cyclic schema := by
  rw [Diagnostic.id_eq_cyclicReference_iff, mem_report_iff]
  constructor
  · rintro ⟨hx | hx | hx | hx, hphase⟩
    · exact absurd ((phase_of_mem_checked hx).symm.trans hphase) (by decide)
    · exact hx
    · exact absurd ((phase_of_mem_spreading hx).symm.trans hphase) (by decide)
    · exact absurd ((phase_of_mem_built hx).symm.trans hphase) (by decide)
  · exact fun hx => ⟨.inr (.inl hx), phase_of_mem_cyclic hx⟩

/-- The search for cycles is exact. It ends on every graph; it reports just the declarations that pass
their checks and lead back to themselves along such; what it reports is a way along references that
starts and ends with the declaration and passes no other twice; and no cycle is left among the
declarations with samples. -/
theorem cyclicReference_spec (schema : Schema) (targets : Targets) (identifiers : Identifiers) :
    (∀ g start, ∃ n ≤ g.length + 1,
      Cycle.Ends g start ⟨[], [(start, [start])]⟩ n (Cycle.wayBack? g start)) ∧
    (∀ d ∈ schema.types,
      (∃ x ∈ (run schema targets identifiers).report,
        x.id = "cyclic_reference" ∧ x.location.type = d.name) ↔
      schema.Passes d ∧ TransGen schema.Step d d) ∧
    (∀ x ∈ (run schema targets identifiers).report, x.id = "cyclic_reference" →
      ∃ d ∈ schema.types, ∃ inner : List Declaration,
        x = .ofFault (.cyclicReference d.name
          (" -> ".intercalate ((d :: inner ++ [d]).map Declaration.name))) ⟨d.name, none⟩ ∧
        List.IsChain schema.Step (d :: inner ++ [d]) ∧ inner.Nodup ∧ d ∉ inner) ∧
    ∀ d, ¬ TransGen (fun a b => schema.RefersTo a b ∧
      (run schema targets identifiers).Emits a ∧ (run schema targets identifiers).Emits b) d d := by
  refine ⟨Cycle.ends_wayBack?, fun d hd => ?_, fun x hx hid => ?_, fun d hcycle => ?_⟩
  · have honCycle : schema.Passes d ∧ TransGen schema.Step d d ↔ schema.OnCycle d :=
      ⟨fun h => h.2, fun h => ⟨h.passes, h⟩⟩
    rw [honCycle, ← mem_cyclic_names_iff hd, List.mem_map]
    constructor
    · rintro ⟨x, hx, hid, hname⟩
      exact ⟨x, mem_report_and_cyclicReference_iff.mp ⟨hx, hid⟩, hname⟩
    · rintro ⟨x, hx, hname⟩
      obtain ⟨hmem, hid⟩ := mem_report_and_cyclicReference_iff.mpr hx
      exact ⟨x, hmem, hid, hname⟩
  · obtain ⟨d, hd, hpasses, way, hway, rfl⟩ :=
      mem_cyclic_iff.mp (mem_report_and_cyclicReference_iff.mp ⟨hx, hid⟩)
    obtain ⟨inner, rfl, hchain, hnodup, hstart⟩ := exists_way hd hpasses hway
    exact ⟨d, hd, inner, rfl, hchain, hnodup, hstart⟩
  · have hsteps : schema.OnCycle d := hcycle.lift id fun a b ⟨href, ha, hb⟩ =>
      ⟨href, (ha.survives href.1).1, (hb.survives href.2.1).1⟩
    obtain ⟨_, ⟨href, hd, _⟩, _⟩ := TransGen.head'_iff.mp hcycle
    exact (hd.survives href.1).2.1 hsteps

/-! ## Spreading -/

/-- The names that the spreading of failures reports: what is blocked. -/
theorem mem_reportNames_iff (hd : d ∈ schema.types) :
    d.name ∈ reportNames (spreading schema).report ↔ schema.Blocked d := by
  have hsound := spreading_sound schema
  have hsplit := mem_spreading_failed_iff hd
  rw [hsound.failed_eq, List.mem_append, List.mem_reverse, mem_outset_iff hd] at hsplit
  constructor
  · intro h
    refine (hsplit.mp (.inl h)).resolve_left fun hbad => ?_
    exact hsound.fresh _ h ((mem_outset_iff hd).mpr hbad)
  · intro h
    refine (hsplit.mpr (.inr h)).resolve_right ?_
    rintro (hbad | hbad)
    · exact hbad h.1
    · exact h.2.1 hbad

/-- In a report that names no declaration twice, one diagnostic is all that is said about its
declaration. -/
theorem filter_eq_singleton {report : List Diagnostic} (nodup : (reportNames report).Nodup)
    {x : Diagnostic} (hx : x ∈ report) :
    (report.filter fun y => y.location.type == x.location.type) = [x] := by
  induction report with
  | nil => exact absurd hx List.not_mem_nil
  | cons y ys ih =>
    obtain ⟨hnew, hrest⟩ := List.nodup_cons.mp nodup
    rcases List.mem_cons.mp hx with rfl | hx
    · have hnone : (ys.filter fun y => y.location.type == x.location.type) = [] := by
        rw [List.filter_eq_nil_iff]
        intro z hz heq
        exact hnew (List.mem_map.mpr ⟨z, hz, beq_iff_eq.mp heq⟩)
      rw [List.filter_cons, if_pos (by simp), hnone]
    · have hne : ¬ (y.location.type == x.location.type) = true := fun heq =>
        hnew (List.mem_map.mpr ⟨x, hx, (beq_iff_eq.mp heq).symm⟩)
      rw [List.filter_cons, if_neg hne, ih hrest hx]

/-- What a run says about failures that spread to a declaration. -/
theorem filter_dependencyFailed (schema : Schema) (targets : Targets) (identifiers : Identifiers)
    (name : String) :
    ((run schema targets identifiers).report.filter fun x =>
      x.id == "dependency_failed" && x.location.type == name) =
    (spreading schema).report.filter fun x => x.location.type == name := by
  rw [← filter_spreading schema targets identifiers, List.filter_filter]
  refine List.filter_congr fun x _ => ?_
  rw [Bool.and_comm]
  congr 1
  exact Bool.eq_iff_iff.mpr (by simp [Diagnostic.id_eq_dependencyFailed_iff])

/-- Failures have spread to a declaration according to the report exactly when it is blocked. -/
theorem exists_dependencyFailed_iff (hd : d ∈ schema.types) :
    (∃ x ∈ (run schema targets identifiers).report,
      x.id = "dependency_failed" ∧ x.location.type = d.name) ↔ schema.Blocked d := by
  rw [← mem_reportNames_iff hd, reportNames, List.mem_map]
  constructor
  · rintro ⟨x, hx, hid, hname⟩
    refine ⟨x, ?_, hname⟩
    have hphase := Diagnostic.id_eq_dependencyFailed_iff.mp hid
    rw [← filter_spreading schema targets identifiers]
    exact List.mem_filter.mpr ⟨hx, by simp [hphase]⟩
  · rintro ⟨x, hx, hname⟩
    have hphase := phase_of_mem_spreading hx
    rw [← filter_spreading schema targets identifiers] at hx
    exact ⟨x, (List.mem_filter.mp hx).1, Diagnostic.id_eq_dependencyFailed_iff.mpr hphase, hname⟩

/-- What is said about a blocked declaration: one error, on a reference to a declaration that has
failed. -/
theorem exists_broken (hd : d ∈ schema.types) (hblocked : schema.Blocked d) :
    ∃ shape path e, d.shape = .ok shape ∧ path ∈ shape.references ∧
      e ∈ schema.types ∧ typeKey path = e.name ∧ (schema.Bad e ∨ schema.Blocked e) ∧
      ((spreading schema).report.filter fun x => x.location.type == d.name) =
        [.ofFault (.dependencyFailed path) ⟨d.name, none⟩] := by
  have hsound := spreading_sound schema
  obtain ⟨x, hx, hname⟩ := List.mem_map.mp ((mem_reportNames_iff hd).mpr hblocked)
  obtain ⟨entry, hentry, path, hpath, hfailed, rfl⟩ := hsound.reported x hx
  obtain ⟨d', hd', _, hready⟩ := exists_ready hentry
  obtain rfl := Schema.eq_of_name_eq hd' hd (hready.name_eq.symm.trans hname)
  obtain ⟨e, he, hkey, hreach⟩ := exists_of_doomed (hsound.doomed _ hfailed)
  refine ⟨entry.shape, path, e, hready.shape_eq, hpath, he, hkey.symm,
    Schema.bad_or_blocked_iff.mpr hreach, ?_⟩
  rw [← hready.name_eq]
  exact filter_eq_singleton hsound.nodup hx

/-- The spreading of failures is exact. It comes to rest; it reports just the declarations that pass
their checks, lie on no cycle, and lead to a declaration of which one of both does not hold; each of
these is reported once, with a reference to a declaration that has failed; and what is left for the
samples are all declarations but those that do not pass, those on cycles, and those reported. -/
theorem dependencyFailed_spec (schema : Schema) (targets : Targets) (identifiers : Identifiers) :
    (∃ n ≤ (checked schema).passed.length + 1,
      Settles (outset schema) (checked schema).passed n (spreading schema)) ∧
    ∀ d ∈ schema.types,
      ((∃ x ∈ (run schema targets identifiers).report,
          x.id = "dependency_failed" ∧ x.location.type = d.name) ↔
        schema.Passes d ∧ ¬ schema.OnCycle d ∧ ∃ e, TransGen schema.RefersTo d e ∧
          (¬ schema.Passes e ∨ schema.OnCycle e)) ∧
      (schema.Blocked d → ∃ shape path e, d.shape = .ok shape ∧ path ∈ shape.references ∧
        e ∈ schema.types ∧ typeKey path = e.name ∧
        e.name ∈ (run schema targets identifiers).failed ∧
        ((run schema targets identifiers).report.filter fun x =>
          x.id == "dependency_failed" && x.location.type == d.name) =
            [.ofFault (.dependencyFailed path) ⟨d.name, none⟩]) ∧
      ((∃ entry ∈ (spreading schema).left, entry.declaration = d) ↔
        schema.Passes d ∧ ¬ schema.OnCycle d ∧ ¬ schema.Blocked d) := by
  refine ⟨spreading_settles schema, fun d hd => ⟨?_, fun hblocked => ?_, ?_, ?_⟩⟩
  · exact exists_dependencyFailed_iff hd
  · obtain ⟨shape, path, e, hshape, hpath, he, hkey, hfails, hfilter⟩ := exists_broken hd hblocked
    refine ⟨shape, path, e, hshape, hpath, he, hkey, ?_, ?_⟩
    · exact (mem_failed_iff he).mpr (.inl ((mem_spreading_failed_iff he).mpr hfails))
    · rw [filter_dependencyFailed, hfilter]
  · rintro ⟨entry, hentry, rfl⟩
    obtain ⟨d', _, hready, hsurvives⟩ := exists_of_mem_left hentry
    exact hready.declaration_eq ▸ hsurvives
  · rintro ⟨hpasses, hcycle, hblocked⟩
    obtain ⟨entry, hentry, hready⟩ := exists_mem_left hd hpasses hcycle hblocked
    exact ⟨entry, hentry, hready.declaration_eq⟩

end Specimen.Generation
