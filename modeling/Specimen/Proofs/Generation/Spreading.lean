import Mathlib.Data.List.Nodup
import Mathlib.Data.List.Perm.Basic
import Specimen.Generation

/-!
# How failures spread

Failures spread by going through the declarations until a time at which nothing new fails. What has
failed then is what has to fail and no more: `Doomed` says which names have to, without a word on
rounds or orders, and `Spread.mem_failed_iff` equates the two.

One direction is an invariant (`Spread.Sound`), which holds after one passage (`sweep_sound`) and
carries over from one passage to the next (`Spread.Sound.trans`): what is named as failed is doomed,
every declaration is either left or dropped, and each failure is reported once. The other direction
is what a passage without a new failure leaves behind (`Spread.Stable`): no declaration that is left
refers to anything that has failed.

The passages are counted by `Settles`, which knows no bound. A passage that finds something drops a
declaration, so there is at most one passage more than there are declarations
(`exists_settles`).
-/

namespace Specimen.Generation

variable {failed : List String} {entries : List Prepared} {s : Spread}

/-- A name is doomed when it has failed from the outset, and when the declaration that it names
refers to a doomed one. -/
inductive Doomed (failed : List String) (entries : List Prepared) : String → Prop
  | failed {name : String} (h : name ∈ failed) : Doomed failed entries name
  | refers {entry : Prepared} {path : String} (mem : entry ∈ entries)
      (ref : path ∈ entry.shape.references) (target : Doomed failed entries (typeKey path)) :
      Doomed failed entries entry.name

/-- What is doomed by names that are doomed themselves is doomed. -/
theorem Doomed.trans {failed' : List String} {entries' : List Prepared} {name : String}
    (h : Doomed failed' entries' name) (names : ∀ n ∈ failed', Doomed failed entries n)
    (sub : entries' ⊆ entries) : Doomed failed entries name := by
  induction h with
  | failed h => exact names _ h
  | refers mem ref _ ih => exact .refers (sub mem) ref ih

/-- The names that a report is about. -/
def reportNames (report : List Diagnostic) : List String := report.map fun d => d.location.type

/-! ## One passage -/

/-- What spreading from names that have failed leaves behind. -/
structure Spread.Sound (failed : List String) (entries : List Prepared) (s : Spread) : Prop where
  /-- What is left keeps its order. -/
  left_sublist : s.left.Sublist entries
  /-- Every declaration is left or has been dropped. -/
  accounted : (s.left.map Prepared.name ++ s.dropped).Perm (entries.map Prepared.name)
  /-- The names that have failed meanwhile are those that are reported. -/
  failed_eq : s.failed = (reportNames s.report).reverse ++ failed
  dropped_failed : ∀ n ∈ s.dropped, n ∈ s.failed
  reported_dropped : ∀ n ∈ reportNames s.report, n ∈ s.dropped
  /-- A report names a reference to something that has failed. -/
  reported : ∀ d ∈ s.report, ∃ entry ∈ entries, ∃ path ∈ entry.shape.references,
    typeKey path ∈ s.failed ∧ d = .ofFault (.dependencyFailed path) ⟨entry.name, none⟩
  /-- No name is reported twice. -/
  nodup : (reportNames s.report).Nodup
  /-- No name is reported that had failed before. -/
  fresh : ∀ n ∈ reportNames s.report, n ∉ failed
  doomed : ∀ n ∈ s.failed, Doomed failed entries n

/-- Names that have failed stay so. -/
theorem Spread.Sound.failed_subset (h : s.Sound failed entries) : failed ⊆ s.failed := by
  rw [h.failed_eq]
  exact List.subset_append_right _ _

/-- The reference that is found has failed. -/
theorem of_broken?_eq_some {entry : Prepared} {path : String}
    (h : broken? failed entry = some path) :
    path ∈ entry.shape.references ∧ typeKey path ∈ failed :=
  ⟨List.mem_of_find?_eq_some h, by simpa using List.find?_some h⟩

/-- If no reference is found, none has failed. -/
theorem of_broken?_eq_none {entry : Prepared} (h : broken? failed entry = none) {path : String}
    (ref : path ∈ entry.shape.references) : typeKey path ∉ failed := by
  simpa using List.find?_eq_none.mp h path ref

/-- One passage is sound. -/
theorem sweep_sound (failed : List String) (entries : List Prepared) :
    (sweep failed entries).Sound failed entries := by
  induction entries generalizing failed with
  | nil =>
    exact ⟨.slnil, .nil, rfl, by simp [sweep], by simp [sweep, reportNames], by simp [sweep],
      List.nodup_nil, by simp [sweep, reportNames], fun _ h => .failed h⟩
  | cons entry entries ih =>
    have hsub : entries ⊆ entry :: entries := List.subset_cons_self _ _
    by_cases hname : entry.name ∈ failed
    · -- it is dropped without a word, since its failure has been reported
      have hs := ih failed
      simp only [sweep, List.contains_iff_mem.mpr hname, if_true]
      refine ⟨hs.left_sublist.cons _, ?_, hs.failed_eq, ?_, ?_, ?_, hs.nodup, hs.fresh, ?_⟩
      · exact List.perm_middle.trans (hs.accounted.cons _)
      · exact List.forall_mem_cons.mpr ⟨hs.failed_subset hname, hs.dropped_failed⟩
      · exact fun n hn => List.mem_cons_of_mem _ (hs.reported_dropped n hn)
      · intro d hd
        obtain ⟨other, hother, rest⟩ := hs.reported d hd
        exact ⟨other, hsub hother, rest⟩
      · exact fun n hn => (hs.doomed n hn).trans (fun _ => .failed) hsub
    · have hnot : ¬ failed.contains entry.name = true := fun h =>
        hname (List.contains_iff_mem.mp h)
      simp only [sweep, if_neg hnot]
      cases hbroken : broken? failed entry with
      | some path =>
        -- it fails now, and counts as failed for those behind it
        obtain ⟨href, hfailed⟩ := of_broken?_eq_some hbroken
        have hs := ih (entry.name :: failed)
        have hnames : ∀ n ∈ entry.name :: failed, Doomed failed (entry :: entries) n :=
          List.forall_mem_cons.mpr
            ⟨.refers List.mem_cons_self href (.failed hfailed), fun _ => .failed⟩
        refine ⟨hs.left_sublist.cons _, ?_, ?_, ?_, ?_, ?_, ?_, ?_, ?_⟩
        · exact List.perm_middle.trans (hs.accounted.cons _)
        · simp only [hs.failed_eq, reportNames, Diagnostic.ofFault, List.map_cons,
            List.reverse_cons, List.append_assoc, List.cons_append, List.nil_append]
        · exact List.forall_mem_cons.mpr
            ⟨hs.failed_subset List.mem_cons_self, hs.dropped_failed⟩
        · refine List.forall_mem_cons.mpr ⟨List.mem_cons_self, fun n hn => ?_⟩
          exact List.mem_cons_of_mem _ (hs.reported_dropped n hn)
        · refine List.forall_mem_cons.mpr ⟨?_, fun d hd => ?_⟩
          · exact ⟨entry, List.mem_cons_self, path, href,
              hs.failed_subset (List.mem_cons_of_mem _ hfailed), rfl⟩
          · obtain ⟨other, hother, rest⟩ := hs.reported d hd
            exact ⟨other, hsub hother, rest⟩
        · refine List.nodup_cons.mpr ⟨fun hmem => ?_, hs.nodup⟩
          exact hs.fresh entry.name hmem List.mem_cons_self
        · refine List.forall_mem_cons.mpr ⟨hname, fun n hn hfail => ?_⟩
          exact hs.fresh n hn (List.mem_cons_of_mem _ hfail)
        · exact fun n hn => (hs.doomed n hn).trans hnames hsub
      | none =>
        have hs := ih failed
        refine ⟨hs.left_sublist.cons_cons _, hs.accounted.cons _, hs.failed_eq, hs.dropped_failed,
          hs.reported_dropped, ?_, hs.nodup, hs.fresh, ?_⟩
        · intro d hd
          obtain ⟨other, hother, rest⟩ := hs.reported d hd
          exact ⟨other, hsub hother, rest⟩
        · exact fun n hn => (hs.doomed n hn).trans (fun _ => .failed) hsub

/-! ## One passage after the other -/

/-- A passage and what comes after it, taken together. -/
def Spread.followedBy (pass rest : Spread) : Spread :=
  { rest with dropped := pass.dropped ++ rest.dropped, report := pass.report ++ rest.report }

/-- What is sound after a sound passage is sound. -/
theorem Spread.Sound.trans {pass rest : Spread} (hp : pass.Sound failed entries)
    (hr : rest.Sound pass.failed pass.left) : (pass.followedBy rest).Sound failed entries := by
  have hnames : reportNames (pass.followedBy rest).report =
      reportNames pass.report ++ reportNames rest.report := List.map_append
  have hsub : pass.left ⊆ entries := hp.left_sublist.subset
  refine ⟨hr.left_sublist.trans hp.left_sublist, ?_, ?_, ?_, ?_, ?_, ?_, ?_, ?_⟩
  · -- what is left after the passage is what is left at last and what drops out later
    have hmiddle : (rest.left.map Prepared.name ++ (pass.dropped ++ rest.dropped)).Perm
        ((rest.left.map Prepared.name ++ rest.dropped) ++ pass.dropped) := by
      rw [List.append_assoc]
      exact List.perm_append_comm.append_left _
    exact hmiddle.trans ((hr.accounted.append_right _).trans hp.accounted)
  · rw [hnames, List.reverse_append, List.append_assoc, ← hp.failed_eq]
    exact hr.failed_eq
  · intro n hn
    rcases List.mem_append.mp hn with hn | hn
    · exact hr.failed_subset (hp.dropped_failed n hn)
    · exact hr.dropped_failed n hn
  · intro n hn
    rw [hnames] at hn
    rcases List.mem_append.mp hn with hn | hn
    · exact List.mem_append_left _ (hp.reported_dropped n hn)
    · exact List.mem_append_right _ (hr.reported_dropped n hn)
  · intro d hd
    rcases List.mem_append.mp hd with hd | hd
    · obtain ⟨entry, hentry, path, href, hfailed, heq⟩ := hp.reported d hd
      exact ⟨entry, hentry, path, href, hr.failed_subset hfailed, heq⟩
    · obtain ⟨entry, hentry, others⟩ := hr.reported d hd
      exact ⟨entry, hsub hentry, others⟩
  · rw [hnames]
    refine List.nodup_append.mpr ⟨hp.nodup, hr.nodup, ?_⟩
    rintro a ha b hb rfl
    refine hr.fresh a hb ?_
    rw [hp.failed_eq]
    exact List.mem_append_left _ (List.mem_reverse.mpr ha)
  · intro n hn
    rw [hnames] at hn
    rcases List.mem_append.mp hn with hn | hn
    · exact hp.fresh n hn
    · exact fun hfail => hr.fresh n hn (hp.failed_subset hfail)
  · exact fun n hn => (hr.doomed n hn).trans hp.doomed hsub

/-- Nothing that is left has failed or refers to anything that has. -/
def Spread.Stable (s : Spread) : Prop :=
  ∀ entry ∈ s.left, entry.name ∉ s.failed ∧
    ∀ path ∈ entry.shape.references, typeKey path ∉ s.failed

/-- A passage without a new failure leaves nothing that could fail. -/
theorem sweep_stable (h : (sweep failed entries).report = []) : (sweep failed entries).Stable := by
  have hfailed : (sweep failed entries).failed = failed := by
    simpa [h, reportNames] using (sweep_sound failed entries).failed_eq
  unfold Spread.Stable
  rw [hfailed]
  clear hfailed
  induction entries with
  | nil => exact fun _ hmem => absurd hmem List.not_mem_nil
  | cons entry entries ih =>
    by_cases hname : entry.name ∈ failed
    · simp only [sweep, List.contains_iff_mem.mpr hname, if_true] at h ⊢
      exact ih h
    · have hnot : ¬ failed.contains entry.name = true := fun hc =>
        hname (List.contains_iff_mem.mp hc)
      simp only [sweep, if_neg hnot] at h ⊢
      cases hbroken : broken? failed entry with
      | some path => simp [hbroken] at h
      | none =>
        simp only [hbroken] at h ⊢
        refine List.forall_mem_cons.mpr ⟨⟨hname, fun path href => ?_⟩, ih h⟩
        exact of_broken?_eq_none hbroken href

/-- Spreading comes to rest after a number of passages. No bound on them is known to it. -/
inductive Settles : List String → List Prepared → Nat → Spread → Prop
  | rest {failed : List String} {entries : List Prepared}
      (h : (sweep failed entries).report = []) : Settles failed entries 1 (sweep failed entries)
  | again {failed : List String} {entries : List Prepared} {n : Nat} {s : Spread}
      (h : (sweep failed entries).report ≠ [])
      (after : Settles (sweep failed entries).failed (sweep failed entries).left n s) :
      Settles failed entries (n + 1) ((sweep failed entries).followedBy s)

/-- Spreading that may take as many passages as it needs ends where it comes to rest. -/
theorem Settles.spread_eq {n rounds : Nat} (h : Settles failed entries n s) (hn : n ≤ rounds) :
    spread rounds failed entries = s := by
  induction h generalizing rounds with
  | rest h =>
    obtain ⟨k, rfl⟩ := Nat.exists_eq_add_of_le' hn
    simp [spread, h]
  | again h _ ih =>
    obtain ⟨k, rfl⟩ := Nat.exists_eq_add_of_le' (Nat.le_trans (Nat.le_add_left 1 _) hn)
    have hne : ¬ (sweep _ _).report.isEmpty = true := fun he => h (List.isEmpty_iff.mp he)
    simp only [spread, if_neg hne, ih (Nat.le_of_add_le_add_right hn)]
    rfl

/-- Where spreading comes to rest, it is sound and stable. -/
theorem Settles.sound {n : Nat} (h : Settles failed entries n s) : s.Sound failed entries := by
  induction h with
  | rest => exact sweep_sound _ _
  | again _ _ ih => exact (sweep_sound _ _).trans ih

/-- Where spreading comes to rest nothing refers to a failure any more. -/
theorem Settles.stable {n : Nat} (h : Settles failed entries n s) : s.Stable := by
  induction h with
  | rest h => exact sweep_stable h
  | again _ _ ih => exact ih

/-- A passage that reports something leaves fewer declarations than there were. -/
theorem length_left_lt (h : (sweep failed entries).report ≠ []) :
    (sweep failed entries).left.length < entries.length := by
  have hs := sweep_sound failed entries
  obtain ⟨d, hd⟩ := List.exists_mem_of_ne_nil _ h
  have hdropped := List.length_pos_of_mem (hs.reported_dropped _ (List.mem_map_of_mem hd))
  have hlength := hs.accounted.length_eq
  simp only [List.length_append, List.length_map] at hlength
  omega

/-- Spreading comes to rest after at most one passage more than there are declarations. -/
theorem exists_settles (failed : List String) (entries : List Prepared) :
    ∃ n ≤ entries.length + 1, ∃ s, Settles failed entries n s := by
  induction hlen : entries.length using Nat.strongRecOn generalizing failed entries with
  | ind len ih =>
    by_cases h : (sweep failed entries).report = []
    · exact ⟨1, by omega, _, .rest h⟩
    · have hlt := length_left_lt h
      obtain ⟨n, hn, s, hs⟩ := ih _ (hlen ▸ hlt) (sweep failed entries).failed _ rfl
      exact ⟨n + 1, by omega, _, .again h hs⟩

/-! ## Where spreading comes to rest -/

section Rest

variable (sound : s.Sound failed entries) (stable : s.Stable)
  (distinct : (entries.map Prepared.name).Nodup)

include sound stable

/-- What drops out is what is named as failed. -/
theorem Spread.mem_dropped_iff {entry : Prepared} (mem : entry ∈ entries) :
    entry.name ∈ s.dropped ↔ entry.name ∈ s.failed := by
  refine ⟨sound.dropped_failed _, fun h => ?_⟩
  have hsplit := sound.accounted.mem_iff.mpr (List.mem_map_of_mem mem)
  refine (List.mem_append.mp hsplit).resolve_left fun hleft => ?_
  obtain ⟨other, hother, heq⟩ := List.mem_map.mp hleft
  exact (stable other hother).1 (heq ▸ h)

include distinct

/-- What is left is what has not failed. -/
theorem Spread.mem_left_iff {entry : Prepared} :
    entry ∈ s.left ↔ entry ∈ entries ∧ entry.name ∉ s.failed := by
  constructor
  · exact fun h => ⟨sound.left_sublist.subset h, (stable entry h).1⟩
  · rintro ⟨hmem, hname⟩
    have hsplit := sound.accounted.mem_iff.mpr (List.mem_map_of_mem hmem)
    rcases List.mem_append.mp hsplit with hleft | hdropped
    · obtain ⟨other, hother, heq⟩ := List.mem_map.mp hleft
      have hsame : other = entry :=
        List.inj_on_of_nodup_map distinct (sound.left_sublist.subset hother) hmem heq
      exact hsame ▸ hother
    · exact absurd (sound.dropped_failed _ hdropped) hname

/-- What has failed is exactly what had to fail. -/
theorem Spread.mem_failed_iff {name : String} : name ∈ s.failed ↔ Doomed failed entries name := by
  refine ⟨sound.doomed name, fun h => ?_⟩
  induction h with
  | failed h => exact sound.failed_subset h
  | @refers entry path mem ref _ ih =>
    by_contra hname
    have hleft := (Spread.mem_left_iff sound stable distinct).mpr ⟨mem, hname⟩
    exact (stable entry hleft).2 path ref ih

end Rest

end Specimen.Generation
