import Specimen.Proofs.Synthesis
import Specimen.SampleSet

/-!
# What sample sets are made of

A sample is written with some names and filled from some parameters: its `Recipe`. A shape has one
recipe for each of its samples, for an enum those of its cases in turn (`Shape.recipes`).

The samples of a shape can be made exactly when all names of their recipes are names in generated
source and all references have samples and are paths. Then there are as many as are asked for, each
takes the first samples of the references of its recipe, in their order, and no others
(`SampleSet.build_meets`). Otherwise a name or a reference of a recipe is to blame.
-/

namespace Specimen

/-! ## Recipes -/

/-- What one sample is made from. -/
structure Recipe where
  /-- The texts that have to be names. -/
  names : List String
  parameters : List Parameter

/-- A text can stand as a name in generated source. -/
def Nameable (text : String) : Prop := ∃ name, readName text = .ok name

/-- A text can stand as a path in generated source. -/
def Pathlike (text : String) : Prop := ∃ path, readPath text = .ok path

namespace Recipe

variable {surroundings : Surroundings} {r : Recipe}

/-- The references that a sample is made from, from left to right. -/
def references (r : Recipe) : List String := r.parameters.flatMap fun p => p.type.references

/-- A recipe can be followed. -/
def Possible (surroundings : Surroundings) (r : Recipe) : Prop :=
  (∀ name ∈ r.names, Nameable name) ∧ ∀ path ∈ r.references, surroundings.Offers path

/-- A fault comes from a name or from a reference of a recipe. -/
def Blames (surroundings : Surroundings) (r : Recipe) (fault : Fault) : Prop :=
  (∃ name ∈ r.names, readName name = .error fault) ∨
    ∃ path ∈ r.references, referenceExpr path surroundings = .error fault

/-- An expression takes the first samples of the references of a recipe, and no others. -/
def Makes (r : Recipe) (e : Expr) : Prop :=
  List.Forall₂ (fun path type => readPath path = .ok type) r.references e.sampled

end Recipe

/-- The labels of parameters. -/
def labels (parameters : List Parameter) : List String := parameters.filterMap Parameter.name

/-- The recipe of the samples of a struct. -/
def Construction.recipe (source : Construction) (parameters : List Parameter) : Recipe :=
  match source with
  | .constructor name => ⟨[name], parameters⟩
  | .fields true => ⟨[], parameters⟩
  | .fields false => ⟨labels parameters, parameters⟩

/-- The recipe of the samples of a case. -/
def CaseShape.recipe (c : CaseShape) : Recipe := ⟨c.name :: labels c.payload, c.payload⟩

/-- The recipes of the first `count` samples of a shape. -/
def Shape.recipes (shape : Shape) (count : Nat) : List Recipe :=
  match shape with
  | .struct _ source parameters => List.replicate count (source.recipe parameters)
  | .enum _ cases =>
    ((List.range count).filterMap fun i => cases[i % cases.length]?).map CaseShape.recipe

/-- Taken in turn, the cases of an enum never run out. -/
theorem CaseShape.cycled_eq_map {cases : List CaseShape} (nonempty : 0 < cases.length)
    (count : Nat) :
    ((List.range count).filterMap fun i => cases[i % cases.length]?) =
      (List.range count).map fun i =>
        cases.get ⟨i % cases.length, Nat.mod_lt i nonempty⟩ := by
  rw [← List.filterMap_eq_map]
  refine List.filterMap_congr fun i _ => ?_
  rw [List.getElem?_eq_getElem (Nat.mod_lt i nonempty)]
  rfl

/-- If an enum has a case, there is a recipe for each sample. -/
theorem Shape.length_recipes {shape : Shape}
    (cases_ne_nil : ∀ name cases, shape = .enum name cases → cases ≠ []) (count : Nat) :
    (shape.recipes count).length = count := by
  cases shape with
  | struct => exact List.length_replicate
  | enum name cases =>
    have hpos : 0 < cases.length := List.length_pos_iff.mpr (cases_ne_nil name cases rfl)
    rw [recipes, CaseShape.cycled_eq_map hpos, List.length_map, List.length_map, List.length_range]

/-- A recipe of an enum is that of a case. -/
theorem CaseShape.mem_of_mem_cycled {cases : List CaseShape} {count : Nat} {c : CaseShape}
    (h : c ∈ (List.range count).filterMap fun i => cases[i % cases.length]?) : c ∈ cases := by
  obtain ⟨i, _, hc⟩ := List.mem_filterMap.mp h
  exact List.mem_of_getElem? hc

/-- Every reference of a recipe is one of the shape. -/
theorem Shape.mem_references_of_recipe {shape : Shape} {count : Nat} {r : Recipe} {path : String}
    (hr : r ∈ shape.recipes count) (hpath : path ∈ r.references) : path ∈ shape.references := by
  obtain ⟨p, hp, hpath⟩ := List.mem_flatMap.mp hpath
  refine List.mem_eraseDups.mpr (List.mem_flatMap.mpr ⟨p, ?_, hpath⟩)
  cases shape with
  | struct name source parameters =>
    obtain rfl := List.eq_of_mem_replicate hr
    rcases source with constructor | (_ | _) <;> exact hp
  | enum name cases =>
    obtain ⟨c, hc, rfl⟩ := List.mem_map.mp hr
    exact List.mem_flatMap.mpr ⟨c, CaseShape.mem_of_mem_cycled hc, hp⟩

namespace SampleSet

open Synthesis

variable {surroundings : Surroundings}

/-! ## One sample -/

/-- The item of a name can be had exactly when the name is one. -/
theorem selfItem_meets (name : String) :
    (ofExcept (selfItem name)).Meets (Nameable name) (fun _ => True)
      (fun fault => readName name = .error fault) := by
  refine (meets_ofExcept _).mono ?_ (fun _ _ => trivial) (fun _ => map_eq_error_iff.mp)
  simp only [selfItem, map_eq_ok_iff]
  exact ⟨fun ⟨_, text, htext, _⟩ => ⟨text, htext⟩, fun ⟨text, htext⟩ => ⟨_, text, htext, rfl⟩⟩

/-- The name of a field can be had exactly when its label, if it has one, is a name. -/
theorem fieldName_meets (label : Option String) (index : Nat) :
    (ofExcept (fieldName label index)).Meets (∀ name ∈ label, Nameable name) (fun _ => True)
      (fun fault => ∃ name ∈ label, readName name = .error fault) := by
  cases label with
  | none =>
    refine (meets_ofExcept _).mono (iff_of_true ⟨_, rfl⟩ (by simp)) (fun _ _ => trivial) ?_
    exact fun _ h => by cases h
  | some label =>
    refine (meets_ofExcept _).mono ?_ (fun _ _ => trivial) ?_
    · simp only [fieldName, map_eq_ok_iff, Option.mem_some_iff, forall_eq']
      exact ⟨fun ⟨_, text, htext, _⟩ => ⟨text, htext⟩, fun ⟨text, htext⟩ => ⟨_, text, htext, rfl⟩⟩
    · exact fun fault h => ⟨label, rfl, map_eq_error_iff.mp h⟩

/-- The parameters of a recipe as arguments of a call. -/
theorem withArguments_meets (path : Source.Path) (parameters : List Parameter) :
    (withArguments surroundings path parameters).Meets
      (Recipe.Possible surroundings ⟨[], parameters⟩) (Recipe.Makes ⟨[], parameters⟩)
      (Recipe.Blames surroundings ⟨[], parameters⟩) := by
  have hall := meets_mapM (E := Recipe.Blames surroundings ⟨[], parameters⟩) parameters
    fun p hp => (p.synthesize_meets surroundings).imp_fault fun fault => by
      rintro ⟨path, hpath, hfault⟩
      exact .inr ⟨path, List.mem_flatMap.mpr ⟨p, hp, hpath⟩, hfault⟩
  refine (hall.bind fun es hes => meets_pure ?_).congr ?_
  · unfold Recipe.Makes
    rw [Expr.sampled, Expr.listSampled_eq_flatMap]
    exact forall₂_flatMap hes
  · simp [Recipe.Possible, Recipe.references, List.mem_flatMap]
    exact ⟨fun h path p hp => h p hp path, fun h p hp path => h path p hp⟩

/-- A recipe with labels can be followed when each of its parameters can be. -/
theorem possible_labels_iff (parameters : List Parameter) :
    Recipe.Possible surroundings ⟨labels parameters, parameters⟩ ↔
      ∀ p ∈ parameters, (∀ name ∈ p.name, Nameable name) ∧
        ∀ path ∈ p.type.references, surroundings.Offers path := by
  constructor
  · rintro ⟨hnames, hpaths⟩ p hp
    refine ⟨fun name hname => hnames name (List.mem_filterMap.mpr ⟨p, hp, hname⟩), ?_⟩
    exact fun path hpath => hpaths path (List.mem_flatMap.mpr ⟨p, hp, hpath⟩)
  · intro h
    refine ⟨fun name hname => ?_, fun path hpath => ?_⟩
    · obtain ⟨p, hp, hname⟩ := List.mem_filterMap.mp hname
      exact (h p hp).1 name hname
    · obtain ⟨p, hp, hpath⟩ := List.mem_flatMap.mp hpath
      exact (h p hp).2 path hpath

/-- What holds of the elements of a list holds of them with their positions. -/
theorem forall_mem_zipIdx {α : Type} {P : α → Prop} {l : List α} :
    (∀ entry ∈ l.zipIdx, P entry.1) ↔ ∀ a ∈ l, P a := by
  have h : (∀ a ∈ l.zipIdx.map Prod.fst, P a) ↔ ∀ entry ∈ l.zipIdx, P entry.1 := List.forall_mem_map
  rw [← h, List.zipIdx_map_fst]

/-- The positions of the elements do not matter to what is put together from the elements. -/
theorem flatMap_zipIdx {α β : Type} (f : α → List β) (l : List α) :
    (l.zipIdx.flatMap fun entry => f entry.1) = l.flatMap f := by
  have h : (l.zipIdx.map Prod.fst).flatMap f = l.zipIdx.flatMap fun entry => f entry.1 :=
    List.flatMap_map _ _ _
  rw [← h, List.zipIdx_map_fst]

/-- One parameter as a field. -/
theorem field_meets (surroundings : Surroundings) (parameter : Parameter) (index : Nat) :
    (field surroundings parameter index).Meets
      ((∀ name ∈ parameter.name, Nameable name) ∧
        ∀ path ∈ parameter.type.references, surroundings.Offers path)
      (fun f => List.Forall₂ (fun path type => readPath path = .ok type)
        parameter.type.references f.2.sampled)
      (Recipe.Blames surroundings ⟨labels [parameter], [parameter]⟩) := by
  refine Meets.congr (p := _ ∧ _ ∧ True)
    (((fieldName_meets parameter.name index).imp_fault ?_).bind fun name _ =>
      ((parameter.synthesize_meets surroundings).imp_fault ?_).bind fun e he => meets_pure he)
    (by rw [and_true])
  · rintro fault ⟨name, hname, hfault⟩
    refine .inl ⟨name, ?_, hfault⟩
    exact List.mem_filterMap.mpr ⟨parameter, List.mem_singleton.mpr rfl, hname⟩
  · rintro fault ⟨path, hpath, hfault⟩
    exact .inr ⟨path, by simpa [Recipe.references] using hpath, hfault⟩

/-- The parameters of a recipe as fields, written with their labels. -/
theorem withFields_meets (path : Source.Path) (parameters : List Parameter) :
    (withFields surroundings path parameters).Meets
      (Recipe.Possible surroundings ⟨labels parameters, parameters⟩)
      (Recipe.Makes ⟨labels parameters, parameters⟩)
      (Recipe.Blames surroundings ⟨labels parameters, parameters⟩) := by
  have hall := meets_mapM (E := Recipe.Blames surroundings ⟨labels parameters, parameters⟩)
    parameters.zipIdx fun entry hentry =>
      (field_meets surroundings entry.1 entry.2).imp_fault fun fault => by
          have hp : entry.1 ∈ parameters := List.fst_mem_of_mem_zipIdx hentry
          rintro (⟨name, hname, hfault⟩ | ⟨path, hpath, hfault⟩)
          · refine .inl ⟨name, ?_, hfault⟩
            have hlabel : entry.1.name = some name := by simpa [labels] using hname
            exact List.mem_filterMap.mpr ⟨entry.1, hp, hlabel⟩
          · refine .inr ⟨path, ?_, hfault⟩
            exact List.mem_flatMap.mpr ⟨entry.1, hp, by simpa [Recipe.references] using hpath⟩
  refine (hall.bind fun fields hfields => meets_pure ?_).congr ?_
  · unfold Recipe.Makes
    rw [Expr.sampled, Expr.fieldsSampled_eq_flatMap]
    have hflat := forall₂_flatMap hfields
    rwa [flatMap_zipIdx fun p : Parameter => p.type.references] at hflat
  · rw [and_true, forall_mem_zipIdx (P := fun p : Parameter =>
      (∀ name ∈ p.name, Nameable name) ∧ ∀ path ∈ p.type.references, surroundings.Offers path)]
    exact (possible_labels_iff parameters).symm

/-- A sample of a struct follows its recipe. -/
theorem structSample_meets (surroundings : Surroundings) (source : Construction)
    (parameters : List Parameter) :
    (structSample surroundings source parameters).Meets
      ((source.recipe parameters).Possible surroundings) (source.recipe parameters).Makes
      ((source.recipe parameters).Blames surroundings) := by
  rcases source with name | (_ | _)
  · refine Meets.congr (((selfItem_meets name).imp_fault ?_).bind fun path _ =>
      (withArguments_meets path parameters).imp_fault ?_) ?_
    · exact fun fault h => .inl ⟨name, List.mem_singleton.mpr rfl, h⟩
    · exact fun fault h => h.imp_left fun ⟨_, h, _⟩ => absurd h List.not_mem_nil
    · simp [Construction.recipe, Recipe.Possible, Recipe.references]
  · exact withFields_meets _ parameters
  · exact withArguments_meets _ parameters

/-- A payload is written with its labels where it has some, and by position otherwise. -/
theorem payload_meets (path : Source.Path) (payload : List Parameter) :
    Meets
      (if payload.isEmpty then return .path path
        else if payload.any fun slot => slot.name.isSome then
          withFields surroundings path payload
        else withArguments surroundings path payload)
      (Recipe.Possible surroundings ⟨labels payload, payload⟩)
      (Recipe.Makes ⟨labels payload, payload⟩)
      (Recipe.Blames surroundings ⟨labels payload, payload⟩) := by
  split
  · rename_i hempty
    obtain rfl := List.isEmpty_iff.mp hempty
    refine (meets_pure ?_).congr ?_
    · simp [Recipe.Makes, Recipe.references, Expr.sampled]
    · simp [Recipe.Possible, Recipe.references, labels]
  · split
    · exact withFields_meets path payload
    · rename_i hany
      have hnone : labels payload = [] := by
        rw [labels, List.filterMap_eq_nil_iff]
        simpa using hany
      rw [hnone]
      exact withArguments_meets path payload

/-- A sample of a case follows its recipe. -/
theorem caseSample_meets (c : CaseShape) :
    (caseSample surroundings c).Meets (c.recipe.Possible surroundings) c.recipe.Makes
      (c.recipe.Blames surroundings) := by
  refine Meets.congr (((selfItem_meets c.name).imp_fault ?_).bind fun path _ =>
    (payload_meets path c.payload).imp_fault ?_) ?_
  · exact fun fault h => .inl ⟨c.name, List.mem_cons_self, h⟩
  · exact fun fault h => h.imp_left fun ⟨name, hmem, h⟩ => ⟨name, List.mem_cons_of_mem _ hmem, h⟩
  · simp [CaseShape.recipe, Recipe.Possible, Recipe.references, and_assoc]

/-! ## All samples -/

/-- The samples of a shape follow its recipes, one after the other. -/
theorem samplesOf_meets (shape : Shape) (count : Nat)
    (cases_ne_nil : ∀ name cases, shape = .enum name cases → cases ≠ []) :
    (samplesOf surroundings shape count).Meets
      (∀ r ∈ shape.recipes count, r.Possible surroundings)
      (List.Forall₂ Recipe.Makes (shape.recipes count))
      (fun fault => ∃ r ∈ shape.recipes count, r.Blames surroundings fault) := by
  cases shape with
  | struct name source parameters =>
    have hall := meets_mapM (R := fun _ => (source.recipe parameters).Makes)
      (E := fun fault => ∃ r ∈ List.replicate count (source.recipe parameters),
        r.Blames surroundings fault) (List.replicate count ())
      fun u hu => (structSample_meets surroundings source parameters).imp_fault fun fault h => by
          have hcount := (List.mem_replicate.mp hu).1
          exact ⟨_, List.mem_replicate.mpr ⟨hcount, rfl⟩, h⟩
    refine hall.mono ?_ ?_ (fun _ => id)
    · simp [Shape.recipes]
    · intro es h
      have hmap : List.replicate count (source.recipe parameters) =
          (List.replicate count ()).map fun _ => source.recipe parameters := by simp
      rw [Shape.recipes, hmap, List.forall₂_map_left_iff]
      exact h
  | enum name cases =>
    have hne : cases.isEmpty = false := by simpa using cases_ne_nil name cases rfl
    simp only [samplesOf, hne, Bool.false_eq_true, if_false]
    refine (meets_mapM _ fun c hc => (caseSample_meets c).imp_fault ?_).mono ?_ ?_
      (fun _ => id)
    · exact fun fault h => ⟨c.recipe, List.mem_map_of_mem hc, h⟩
    · rw [Shape.recipes, List.forall_mem_map]
    · intro es h
      rw [Shape.recipes, List.forall₂_map_left_iff]
      exact h

/-- The samples of a shape that asks for some can be made exactly when all its recipes can be followed
and its name is a path. -/
theorem build_meets (shape : Shape) {count : Int} (count_pos : 0 < count)
    (cases_ne_nil : ∀ name cases, shape = .enum name cases → cases ≠ []) :
    (build surroundings shape count).Meets
      ((∀ r ∈ shape.recipes count.toNat, r.Possible surroundings) ∧ Pathlike shape.name)
      (fun set => set.typeName = shape.name ∧ readPath shape.name = .ok set.typePath ∧
        List.Forall₂ Recipe.Makes (shape.recipes count.toNat) set.samples)
      (fun fault => (∃ r ∈ shape.recipes count.toNat, r.Blames surroundings fault) ∨
        readPath shape.name = .error fault) := by
  unfold build
  simp only [Int.not_le.mpr count_pos, if_false]
  refine Meets.congr
    (((samplesOf_meets shape count.toNat cases_ne_nil).imp_fault ?_).bind
      fun samples hsamples =>
        ((meets_ofExcept (readPath shape.name)).imp_fault ?_).bind
          fun typePath htypePath => meets_pure ⟨rfl, htypePath, hsamples⟩)
    (by rw [and_true]; rfl)
  · exact fun fault => .inl
  · exact fun fault => .inr

end SampleSet

end Specimen
