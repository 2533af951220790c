import Specimen.Proofs.Generation.Run
import Specimen.Proofs.TypeRef.Reference

/-!
# Where the samples of a run lead

A sample may take the first sample of another type, so that type has to have samples: they are made
in the same run, or elsewhere for a type that the schema lists as external (`Closed`).

The first three phases see to it: what is left refers to external types and to declarations that are
left as well (`survives_of_uses`). But the last phase asks for more. It finds out which texts are no
names in generated source (`Declaration.Writable`), and by then failures have ceased to spread. So a
run is closed exactly when no declaration that gets its sample set uses one that survives and cannot
be written (`closed_iff`), and not every run is (`not_closed`).
-/

namespace Specimen

open Source

/-- The key of the type that a path stands for. -/
def Source.Path.key (path : Path) : String := typeKey (pathText path.leading path.segments)

/-- The key of a path that is read is the key of its text. -/
theorem key_eq_of_readPath {text : String} {path : Path} (htext : IsPathText text)
    (h : readPath text = .ok path) : path.key = typeKey text := by
  obtain ⟨path', hpath', heq⟩ := htext.exists_readPath
  obtain rfl : path' = path := Except.ok.inj (hpath'.symm.trans h)
  rw [Path.key, heq]

namespace Schema

/-- What the first three phases of a run leave of a schema. -/
def Survives (schema : Schema) (d : Declaration) : Prop :=
  schema.Passes d ∧ ¬ schema.OnCycle d ∧ ¬ schema.Blocked d

/-- A key is that of a type that has samples already. -/
def Covers (schema : Schema) (key : String) : Prop :=
  ∃ external ∈ schema.externalTypes, typeKey external = key

instance (schema : Schema) (key : String) : Decidable (schema.Covers key) :=
  inferInstanceAs (Decidable (∃ external ∈ schema.externalTypes, typeKey external = key))

end Schema

namespace Declaration

/-- All texts that the samples of a declaration are written with can be written: the names of its
constructors, cases and fields are names, and its own name is a path. -/
def Writable (d : Declaration) : Prop :=
  ∃ shape, d.shape = .ok shape ∧ Pathlike d.name ∧
    ∀ r ∈ shape.recipes d.sample.count.toNat, ∀ name ∈ r.names, Nameable name

/-- The samples of a declaration are made with samples of a type. -/
def Uses (d : Declaration) (key : String) : Prop :=
  ∃ shape, d.shape = .ok shape ∧
    ∃ r ∈ shape.recipes d.sample.count.toNat, ∃ path ∈ r.references, typeKey path = key

end Declaration

namespace Generation

variable {schema : Schema} {targets : Targets} {identifiers : Identifiers} {d e : Declaration}
  {entry : Prepared}

/-- Whatever a sample takes the first sample of is a declaration that has samples in the same run, or a
type that has samples already. -/
def Closed (schema : Schema) (g : Generation) : Prop :=
  ∀ set ∈ g.sets, ∀ sample ∈ set.samples, ∀ type ∈ sample.sampled,
    (∃ d ∈ schema.types, d.name = type.key ∧
      ∃ target ∈ g.sets, target.typeName = d.name ∧ 0 < target.samples.length) ∨
    schema.Covers type.key

instance (schema : Schema) (g : Generation) : Decidable (Closed schema g) := by
  unfold Closed
  infer_instance

/-! ## References of declarations -/

/-- The references of a declaration that is ready are texts of paths. -/
theorem isPathText_of_ready (ready : schema.Ready d entry) {path : String}
    (hpath : path ∈ entry.shape.references) : IsPathText path := by
  obtain ⟨p, hp, hpath⟩ := Schema.mem_references_iff.mp hpath
  obtain ⟨text, hread⟩ := (Declaration.shaped_of_shape ready.shape_eq).exists_read p hp
  exact (TypeRef.pathed_of_read hread path hpath).isPathText

/-- What a declaration that is ready uses is declared or has samples already. -/
theorem exists_of_uses (ready : schema.Ready d entry) {key : String} (h : d.Uses key) :
    (∃ e ∈ schema.types, e.name = key) ∨ schema.Covers key := by
  obtain ⟨shape, hshape, r, hr, path, hpath, rfl⟩ := h
  obtain rfl := ready.eq_shape hshape
  have hknown := ready.known path (Shape.mem_references_of_recipe hr hpath)
  rcases Bool.or_eq_true_iff.mp hknown with hfound | hexternal
  · obtain ⟨e, he⟩ := Option.isSome_iff_exists.mp hfound
    exact .inl ⟨e, List.mem_of_find?_eq_some he, by simpa using List.find?_some he⟩
  · obtain ⟨external, hmem, hkey⟩ := List.any_eq_true.mp hexternal
    exact .inr ⟨external, hmem, by simpa using hkey⟩

/-- What a surviving declaration uses survives as well, if it is declared. -/
theorem survives_of_uses (hd : d ∈ schema.types) (he : e ∈ schema.types) (h : schema.Survives d)
    (uses : d.Uses e.name) : schema.Survives e := by
  obtain ⟨hpasses, hcycle, hblocked⟩ := h
  obtain ⟨shape, hshape, r, hr, path, hpath, hkey⟩ := uses
  have hrefers : schema.RefersTo d e :=
    ⟨hd, he, shape, hshape, path, Shape.mem_references_of_recipe hr hpath, hkey⟩
  have hsound : ¬ (schema.Bad e ∨ schema.Blocked e) := by
    intro hbad
    obtain ⟨f, hreach, hbad⟩ := Schema.bad_or_blocked_iff.mp hbad
    exact hblocked ⟨hpasses, hcycle, f, .head' hrefers hreach, hbad⟩
  rw [not_or, Schema.Bad, not_or, not_not] at hsound
  exact ⟨hsound.1.1, hsound.1.2, hsound.2⟩

/-! ## Sample sets of declarations -/

/-- The samples of a declaration that is left can be made exactly when it can be written. -/
theorem constructible_iff (targets : Targets) (h : entry ∈ (spreading schema).left)
    (ready : schema.Ready d entry) :
    entry.Constructible (surroundings schema targets (spreading schema).failed entry) ↔
      d.Writable := by
  have hcount := ready.declaration_eq
  constructor
  · rintro ⟨hpossible, hname⟩
    refine ⟨entry.shape, ready.shape_eq, ready.name_eq ▸ hname, fun r hr => ?_⟩
    exact (hpossible r (by rwa [Prepared.recipes, hcount])).1
  · rintro ⟨shape, hshape, hname, hnames⟩
    obtain rfl := ready.eq_shape hshape
    refine ⟨fun r hr => ?_, ready.name_eq ▸ hname⟩
    rw [Prepared.recipes, hcount] at hr
    refine ⟨hnames r hr, fun path hpath => ?_⟩
    have hmem := Shape.mem_references_of_recipe hr hpath
    obtain ⟨type, htype, _⟩ := (isPathText_of_ready ready hmem).exists_readPath
    exact ⟨status_eq_available h hmem, type, htype⟩

/-- A declaration gets its sample set exactly when it survives and can be written. -/
theorem emits_iff (hd : d ∈ schema.types) :
    (run schema targets identifiers).Emits d ↔ schema.Survives d ∧ d.Writable := by
  constructor
  · intro h
    obtain ⟨entry, hentry, hready, hconstructible⟩ := h.exists_left hd
    exact ⟨survives_of_mem_left hentry hready,
      (constructible_iff targets hentry hready).mp hconstructible⟩
  · rintro ⟨⟨hpasses, hcycle, hblocked⟩, hwritable⟩
    obtain ⟨entry, hentry, hready⟩ := exists_mem_left hd hpasses hcycle hblocked
    have hconstructible := (constructible_iff targets hentry hready).mpr hwritable
    obtain ⟨set, hset, hmakes⟩ :=
      (built_built schema targets identifiers).exists_set hentry hconstructible
    exact ⟨set, hset, hmakes.typeName_eq.trans hready.name_eq⟩

/-! ## What samples take -/

/-- What a sample takes the first sample of is used by its declaration, which survives and can be
written. -/
theorem exists_of_sampled {set : SampleSet} (hset : set ∈ (run schema targets identifiers).sets)
    {sample : Expr} (hsample : sample ∈ set.samples) {type : Path} (htype : type ∈ sample.sampled) :
    ∃ d ∈ schema.types, ∃ entry, schema.Ready d entry ∧ schema.Survives d ∧ d.Writable ∧
      d.Uses type.key := by
  obtain ⟨entry, hentry, hconstructible, hmakes⟩ := exists_of_mem_sets hset
  obtain ⟨d, hd, hready, hsurvives⟩ := exists_of_mem_left hentry
  obtain ⟨r, hr, hmade⟩ := exists_of_mem_forall₂ hmakes.samples hsample
  obtain ⟨path, hpath, hread⟩ := exists_of_mem_forall₂ hmade htype
  rw [Prepared.recipes, hready.declaration_eq] at hr
  have htext := isPathText_of_ready hready (Shape.mem_references_of_recipe hr hpath)
  have hkey := key_eq_of_readPath htext hread
  exact ⟨d, hd, entry, hready, hsurvives, (constructible_iff targets hentry hready).mp hconstructible,
    entry.shape, hready.shape_eq, r, hr, path, hpath, hkey.symm⟩

/-- What a declaration uses that survives and can be written, one of its samples takes. -/
theorem exists_sampled (hd : d ∈ schema.types) (hsurvives : schema.Survives d)
    (hwritable : d.Writable) {key : String} (huses : d.Uses key) :
    ∃ set ∈ (run schema targets identifiers).sets, ∃ sample ∈ set.samples,
      ∃ type ∈ sample.sampled, type.key = key := by
  obtain ⟨entry, hentry, hready⟩ :=
    exists_mem_left hd hsurvives.1 hsurvives.2.1 hsurvives.2.2
  have hconstructible := (constructible_iff targets hentry hready).mpr hwritable
  obtain ⟨set, hset, hmakes⟩ :=
    (built_built schema targets identifiers).exists_set hentry hconstructible
  obtain ⟨shape, hshape, r, hr, path, hpath, rfl⟩ := huses
  obtain rfl := hready.eq_shape hshape
  have hmem : r ∈ entry.recipes := by rwa [Prepared.recipes, hready.declaration_eq]
  obtain ⟨sample, hsample, hmade⟩ := exists_of_mem_forall₂ hmakes.samples.flip hmem
  obtain ⟨type, htype, hread⟩ := exists_of_mem_forall₂ hmade.flip hpath
  have htext := isPathText_of_ready hready (Shape.mem_references_of_recipe hr hpath)
  exact ⟨set, hset, sample, hsample, type, htype, key_eq_of_readPath htext hread⟩

/-- A declaration that gets its sample set gets some samples. -/
theorem Emits.exists_samples (h : (run schema targets identifiers).Emits d) :
    ∃ target ∈ (run schema targets identifiers).sets, target.typeName = d.name ∧
      0 < target.samples.length := by
  obtain ⟨target, htarget, hname⟩ := h
  obtain ⟨_, _, _, hpos, hlength⟩ := length_samples htarget
  exact ⟨target, htarget, hname, by omega⟩

/-- Before samples are built, nothing is left that refers to a failure: what a sample takes the first
sample of is declared and survives, or has samples already. A run is closed exactly when, beyond that,
whatever is used by a declaration that survives and can be written can be written itself, unless it
has samples already. -/
theorem closed_iff (schema : Schema) (targets : Targets) (identifiers : Identifiers) :
    (∀ set ∈ (run schema targets identifiers).sets, ∀ sample ∈ set.samples,
      ∀ type ∈ sample.sampled,
        (∃ d ∈ schema.types, d.name = type.key ∧ schema.Survives d) ∨ schema.Covers type.key) ∧
    (Closed schema (run schema targets identifiers) ↔
      ∀ d ∈ schema.types, ∀ e ∈ schema.types, schema.Survives d → d.Writable → d.Uses e.name →
        ¬ schema.Covers e.name → e.Writable) := by
  have hleft : ∀ set ∈ (run schema targets identifiers).sets, ∀ sample ∈ set.samples,
      ∀ type ∈ sample.sampled,
        (∃ d ∈ schema.types, d.name = type.key ∧ schema.Survives d) ∨ schema.Covers type.key := by
    intro set hset sample hsample type htype
    obtain ⟨d, hd, entry, hready, hsurvives, _, huses⟩ := exists_of_sampled hset hsample htype
    refine (exists_of_uses hready huses).imp_left ?_
    rintro ⟨e, he, hkey⟩
    exact ⟨e, he, hkey, survives_of_uses hd he hsurvives (hkey ▸ huses)⟩
  refine ⟨hleft, fun hclosed d hd e he hsurvives hwritable huses hexternal => ?_, ?_⟩
  · obtain ⟨set, hset, sample, hsample, type, htype, hkey⟩ :=
      exists_sampled hd hsurvives hwritable huses
    rcases hclosed set hset sample hsample type htype with ⟨e', he', hname, target, hemits⟩ | hcovers
    · obtain rfl : e' = e := Schema.eq_of_name_eq he' he (hname.trans hkey)
      exact ((emits_iff he').mp ⟨target, hemits.1, hemits.2.1⟩).2
    · exact absurd (hkey ▸ hcovers) hexternal
  · intro hcondition set hset sample hsample type htype
    obtain ⟨d, hd, _, _, hsurvives, hwritable, huses⟩ := exists_of_sampled hset hsample htype
    by_cases hcovers : schema.Covers type.key
    · exact .inr hcovers
    · rcases hleft set hset sample hsample type htype with ⟨e, he, hkey, hleft⟩ | h
      · have hwritten : e.Writable :=
          hcondition d hd e he hsurvives hwritable (hkey ▸ huses) (hkey ▸ hcovers)
        exact .inl ⟨e, he, hkey, ((emits_iff he).mpr ⟨hleft, hwritten⟩).exists_samples⟩
      · exact absurd h hcovers

/-- Two structs, of which the second holds the first. The field of the first has a name that is a
keyword. -/
def misnamed : Schema where
  types := [
    { kind := .struct, name := "A", members := [{ name := "type", type := "u8" }]
      sample := { count := 1 } },
    { kind := .struct, name := "B", members := [{ name := "f", type := "A" }]
      sample := { count := 1 } }]
  distinct := by decide

/-- A sample of the second struct takes the first sample of the first, which has none. -/
theorem not_closed : ¬ Closed misnamed (run misnamed Targets.standard {}) := by
  decide +kernel

end Generation

end Specimen
