import Specimen.Proofs.Generation.Accounting
import Specimen.Proofs.Generation.Closure
import Specimen.Proofs.SampleSet.Succession
import Specimen.Proofs.Source.Respelling

/-!
# Paths with more than one sample set

Each sample set becomes a block of its own in the generated file, for the path that the name of its
declaration spells. A schema keeps the names apart as texts. If two declarations that get sample sets
have names that spell the same path, then the path gets two blocks, and both declare the same function
(`paths_doubled`). Nothing else doubles a path: as long as no two names spell the same path the paths are
different, as they are if all names are texts of paths of plain names (`paths_nodup_iff`).
-/

namespace Specimen

open Source

/-- The paths that are read for samples are the ones that a text consists of. -/
theorem readPath_eq_ok_iff {text : String} {path : Path} :
    readPath text = .ok path ↔ path? text = some path := by
  unfold readPath
  split
  · rename_i path' hread
    rw [hread, Except.ok.injEq, Option.some.injEq]
  · rename_i hread
    rw [hread]
    constructor <;> rintro ⟨⟩

namespace Generation

variable {schema : Schema} {targets : Targets} {identifiers : Identifiers} {set : SampleSet}

/-- The paths that get blocks, as tokens. -/
def paths (g : Generation) : List (List Token) := g.sets.map fun set => set.typePath.tokens

/-- A sample set gives a function, always of the same name, to the path that the name of its declaration
spells. -/
theorem exists_origin (h : set ∈ (run schema targets identifiers).sets) :
    ∃ d ∈ schema.types, set.typeName = d.name ∧ path? d.name = some set.typePath ∧
      set.member = targets.member := by
  obtain ⟨d, hd, entry, _, hready, hname, before, hrun⟩ := exists_run_of_mem_run h
  obtain ⟨_, samples, typePath, _, hpath, rfl⟩ := SampleSet.run_build_eq_ok_iff.mp (Prod.ext hrun rfl)
  have hread : readPath d.name = .ok typePath := by
    rw [← hready.name_eq, ← hready.shape_name]
    exact hpath
  exact ⟨d, hd, hname, readPath_eq_ok_iff.mp hread, rfl⟩

/-- No two sample sets of a run are for the same name. -/
theorem nodup_typeNames (schema : Schema) (targets : Targets) (identifiers : Identifiers) :
    ((run schema targets identifiers).sets.map SampleSet.typeName).Nodup :=
  (run_sets_sublist schema targets identifiers).nodup schema.distinct

/-- The paths of a run are different if and only if no two declarations that get sample sets have names
that spell the same path. -/
theorem nodup_paths_iff (schema : Schema) (targets : Targets) (identifiers : Identifiers) :
    (run schema targets identifiers).paths.Nodup ↔
      ∀ d ∈ schema.types, ∀ e ∈ schema.types, (run schema targets identifiers).Emits d →
        (run schema targets identifiers).Emits e → SamePath d.name e.name → d = e := by
  have hnames := nodup_typeNames schema targets identifiers
  rw [paths, List.nodup_map_iff_inj_on hnames.of_map]
  constructor
  · rintro hpaths d hd e he ⟨set, hset, hname⟩ ⟨set', hset', hname'⟩ ⟨path, path', hpath, hpath', heq⟩
    obtain ⟨_, _, horigin, hread, _⟩ := exists_origin hset
    obtain ⟨_, _, horigin', hread', _⟩ := exists_origin hset'
    rw [← horigin, hname, hpath, Option.some.injEq] at hread
    rw [← horigin', hname', hpath', Option.some.injEq] at hread'
    obtain rfl := hpaths set hset set' hset' (by rw [← hread, ← hread', heq])
    exact Schema.eq_of_name_eq hd he (hname.symm.trans hname')
  · intro hdistinct set hset set' hset' heq
    obtain ⟨d, hd, hname, hread, _⟩ := exists_origin hset
    obtain ⟨e, he, hname', hread', _⟩ := exists_origin hset'
    obtain rfl := hdistinct d hd e he ⟨set, hset, hname⟩ ⟨set', hset', hname'⟩
      ⟨_, _, hread, hread', heq⟩
    exact List.inj_on_of_nodup_map hnames hset hset' (hname.trans hname'.symm)

/-- All sample sets give a function of the same name. The paths that they give it to are different if and
only if no two declarations that survive and can be written have names that spell the same path. Where
a name is read as a path of plain names, the texts that spell the same path are those that are cut into the
same tokens; so if all names are texts of such paths, the paths are different. -/
theorem paths_nodup_iff (schema : Schema) (targets : Targets) (identifiers : Identifiers) :
    (∀ set ∈ (run schema targets identifiers).sets, set.member = targets.member) ∧
    ((run schema targets identifiers).paths.Nodup ↔
      ∀ d ∈ schema.types, ∀ e ∈ schema.types, schema.Survives d ∧ d.Writable →
        schema.Survives e ∧ e.Writable → SamePath d.name e.name → d = e) ∧
    (∀ d ∈ schema.types, ∀ leading names, path? d.name = some ⟨leading, plain names⟩ → ∀ text,
      SamePath d.name text ↔ Token.lex? d.name.toList = Token.lex? text.toList) ∧
    ((∀ d ∈ schema.types, IsPathText d.name) → (run schema targets identifiers).paths.Nodup) := by
  refine ⟨fun set hset => ?_, ?_, fun d _ leading names hread text => samePath_iff_lex?_eq hread,
    fun htexts => (nodup_paths_iff schema targets identifiers).mpr fun d hd e he _ _ hsame => ?_⟩
  · obtain ⟨_, _, _, _, hmember⟩ := exists_origin hset
    exact hmember
  · rw [nodup_paths_iff]
    refine forall₂_congr fun d hd => forall₂_congr fun e he => ?_
    rw [emits_iff hd, emits_iff he]
  · exact Schema.eq_of_name_eq hd he (eq_of_samePath (htexts d hd) (htexts e he) hsame)

/-- Two structs whose names differ in a blank at the end. -/
def twins : Schema where
  types := [Declaration.ofKind "Frame" .struct 1, Declaration.ofKind "Frame " .struct 2]
  distinct := by decide

/-- Both get a sample set, for one path. -/
theorem paths_doubled : Schema.ofTypes twins.types = .ok twins ∧
    ¬ (run twins Targets.standard {}).paths.Nodup := by
  have hschema : Schema.ofTypes twins.types = .ok twins := by
    rw [Schema.ofTypes, Schema.ofParts, dif_pos twins.distinct]
    rfl
  have hemits : ∀ d ∈ twins.types, (run twins Targets.standard {}).Emits d := by
    unfold Emits
    decide +kernel
  have hword : IsWord "Frame".toList := .plain (by decide) (List.all_eq_true.mp (by decide))
  have htext : IsPathText "Frame" :=
    ⟨false, ["Frame"], by simp, List.forall_mem_singleton.mpr ⟨hword, by decide⟩, rfl⟩
  refine ⟨hschema, fun hnodup => ?_⟩
  have heq := (nodup_paths_iff _ _ _).mp hnodup _ (List.mem_cons_self) _
    (List.mem_cons_of_mem _ List.mem_cons_self) (hemits _ (by decide)) (hemits _ (by decide))
    (samePath_blank htext)
  exact absurd heq (by decide)

end Generation

end Specimen
