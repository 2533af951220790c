import Specimen.Proofs.Expr.Numbering
import Specimen.Proofs.SampleSet
import Specimen.Proofs.Shape
import Specimen.Proofs.Synthesis.Agreement
import Specimen.Proofs.Synthesis.Yield

/-!
# Samples as constructions

Every sample is a construction on the type itself: a call of a constructor, of the type or of one of
its cases, or one of these in braces, with a value for each parameter (`Construction.Writes`,
`CaseShape.Writes`). Which parameters these are depends on the shape and, for an enum, on the position
of the sample, since the cases take turns (`Shape.WritesAt`).

So whatever holds of the values of parameters carries over to samples: with the numbers that are taken
on the way (`SampleSet.build_yields`), and between two ways to make the values, of one shape
(`SampleSet.build_agree`) or of two shapes that differ in their parameters
(`SampleSet.build_parallel`). All rest on one form of the samples of a shape, in which each is made on
its own by its position (`SampleSet.samplesOf_eq_mapM`).
-/

namespace Specimen

open Source (Path)

/-! ## How samples are written -/

/-- A path that stands for the type whose samples are made, or for an item of it. -/
def Source.Path.IsSelf (p : Path) : Prop :=
  p = Expr.selfPath ∨ ∃ name, p = Expr.selfPath.join [name]

/-- A field has the label of its parameter, or else its position. -/
inductive FieldName.Labels : FieldName → Option String → Nat → Prop
  | named {text name : String} {index : Nat} (h : readName text = .ok name) :
      Labels (.named name) (some text) index
  | position {index : Nat} : Labels (.position index) none index

/-- There is one field for each parameter, under its label. -/
def Labelled (parameters : List Parameter) (fields : List (FieldName × Expr)) : Prop :=
  List.Forall₂ (fun entry field => field.1.Labels entry.1.name entry.2) parameters.zipIdx fields

/-- An expression constructs a struct from some values. -/
inductive Construction.Writes (parameters : List Parameter) :
    Construction → List Expr → Expr → Prop
  | constructor {text name : String} {values : List Expr} (h : readName text = .ok name) :
      Writes parameters (.constructor text) values (.call (Expr.selfPath.join [name]) values)
  | tuple {values : List Expr} :
      Writes parameters (.fields true) values (.call Expr.selfPath values)
  | named {fields : List (FieldName × Expr)} (labelled : Labelled parameters fields) :
      Writes parameters (.fields false) (fields.map Prod.snd) (.braces Expr.selfPath fields)

/-- An expression constructs a case from some values. A case without a payload is a path, one with a
label in its payload is written in braces, and any other is a call. -/
inductive CaseShape.Writes (c : CaseShape) : List Expr → Expr → Prop
  | alone {name : String} (h : readName c.name = .ok name) (empty : c.payload = []) :
      Writes c [] (.path (Expr.selfPath.join [name]))
  | tuple {name : String} {values : List Expr} (h : readName c.name = .ok name)
      (nonempty : c.payload ≠ []) (unlabelled : ∀ slot ∈ c.payload, slot.name = none) :
      Writes c values (.call (Expr.selfPath.join [name]) values)
  | named {name : String} {fields : List (FieldName × Expr)} (h : readName c.name = .ok name)
      (label : ∃ slot ∈ c.payload, slot.name ≠ none) (labelled : Labelled c.payload fields) :
      Writes c (fields.map Prod.snd) (.braces (Expr.selfPath.join [name]) fields)

/-- An expression is the sample of a shape at a position, made from the values of some parameters. The
cases of an enum take turns. -/
inductive Shape.WritesAt (i : Nat) : Shape → List Parameter → List Expr → Expr → Prop
  | struct {name : String} {source : Construction} {parameters : List Parameter}
      {values : List Expr} {e : Expr} (h : source.Writes parameters values e) :
      WritesAt i (.struct name source parameters) parameters values e
  | enum {name : String} {cases : List CaseShape} {c : CaseShape} {values : List Expr} {e : Expr}
      (turn : cases[i % cases.length]? = some c) (h : c.Writes values e) :
      WritesAt i (.enum name cases) c.payload values e

/-- The parameters that a sample is made from are parameters of its shape. -/
theorem Shape.WritesAt.subset {i : Nat} {shape : Shape} {parameters : List Parameter}
    {values : List Expr} {e : Expr} (h : shape.WritesAt i parameters values e) :
    parameters ⊆ shape.parameters := by
  cases h with
  | struct => exact fun _ => id
  | enum turn _ =>
    intro p hp
    exact List.mem_flatMap.mpr ⟨_, List.mem_of_getElem? turn, hp⟩

/-! ## What constructions have in common -/

namespace Expr

/-- A path on its own, or called with some values, or with fields that have these values. -/
inductive Constructs (p : Path) : List Expr → Expr → Prop
  | path : Constructs p [] (.path p)
  | call {values : List Expr} : Constructs p values (.call p values)
  | braces {fields : List (FieldName × Expr)} :
      Constructs p (fields.map Prod.snd) (.braces p fields)

/-- A path to the type itself makes no identifier. -/
theorem makesIdentifier_eq_false {p : Path} (h : p.IsSelf) : p.makesIdentifier = false := by
  rcases h with rfl | ⟨name, rfl⟩
  · decide
  · have hends : (Source.Path.join ⟨false, []⟩ ["Self", name]).endsWith ["Uuid", "from_u128"]
        = true ↔ ["Uuid", "from_u128"] = ["Self", name] := Source.Path.endsWith_join _ rfl
    by_contra h
    have hnames := hends.mp (Bool.not_eq_false _ ▸ h)
    simp at hnames

/-- A construction on the type itself has the numbers of its values. -/
theorem Constructs.numbers_eq {p : Path} {values : List Expr} {e : Expr}
    (h : Constructs p values e) (self : p.IsSelf) : e.numbers = values.flatMap numbers := by
  cases h with
  | path => rfl
  | call => exact numbers_call (makesIdentifier_eq_false self) values
  | braces => exact numbers_braces p _

/-- A relation of expressions that constructions on the type itself keep. -/
structure Compatible (R : Expr → Expr → Prop) : Prop where
  path : ∀ p, R (.path p) (.path p)
  call : ∀ {p : Path} {values values' : List Expr}, p.IsSelf → List.Forall₂ R values values' →
    R (.call p values) (.call p values')
  braces : ∀ {p : Path} {fields fields' : List (FieldName × Expr)},
    List.Forall₂ (fun f f' => f.1 = f'.1 ∧ R f.2 f'.2) fields fields' →
    R (.braces p fields) (.braces p fields')

/-- Constructions keep what a function makes equal that goes through them. -/
theorem compatible_of_map {f : Expr → Expr}
    (call : ∀ {p : Path}, p.IsSelf → ∀ values, f (.call p values) = .call p (values.map f))
    (braces : ∀ p fields, f (.braces p fields) =
      .braces p (fields.map fun field => (field.1, f field.2))) :
    Compatible fun e e' => f e = f e' where
  path _ := rfl
  call self h := by rw [call self, call self, map_eq_map_of_forall₂ h]
  braces h := by
    rw [braces, braces]
    refine congrArg (Expr.braces _) (map_eq_map_of_forall₂ (h.imp fun field field' hfield => ?_))
    rw [hfield.1, hfield.2]

theorem compatible_eq : Compatible Eq where
  path _ := rfl
  call _ h := by
    rw [List.forall₂_eq_eq_eq] at h
    rw [h]
  braces h := by
    have hsame := h.imp fun _ _ hfield => Prod.ext hfield.1 hfield.2
    rw [List.forall₂_eq_eq_eq] at hsame
    rw [hsame]

end Expr

/-- The sample of a struct constructs a value of the type itself. -/
theorem Construction.Writes.constructs {source : Construction} {parameters : List Parameter}
    {values : List Expr} {e : Expr} (h : source.Writes parameters values e) :
    ∃ p, p.IsSelf ∧ Expr.Constructs p values e := by
  cases h with
  | constructor h => exact ⟨_, .inr ⟨_, rfl⟩, .call⟩
  | tuple => exact ⟨_, .inl rfl, .call⟩
  | named _ => exact ⟨_, .inl rfl, .braces⟩

/-- The sample of a case constructs a value of the type itself. -/
theorem CaseShape.Writes.constructs {c : CaseShape} {values : List Expr} {e : Expr}
    (h : c.Writes values e) : ∃ p, p.IsSelf ∧ Expr.Constructs p values e := by
  cases h with
  | alone h => exact ⟨_, .inr ⟨_, rfl⟩, .path⟩
  | tuple h => exact ⟨_, .inr ⟨_, rfl⟩, .call⟩
  | named h => exact ⟨_, .inr ⟨_, rfl⟩, .braces⟩

/-- Every sample constructs a value of the type itself. -/
theorem Shape.WritesAt.constructs {i : Nat} {shape : Shape} {parameters : List Parameter}
    {values : List Expr} {e : Expr} (h : shape.WritesAt i parameters values e) :
    ∃ p, p.IsSelf ∧ Expr.Constructs p values e := by
  cases h with
  | struct h => exact h.constructs
  | enum _ h => exact h.constructs

namespace SampleSet

open Synthesis

variable {surroundings : Surroundings} {takes : Prop} {P : Parameter → Expr → List Nat → Prop}

/-! ## Samples by their positions -/

/-- The sample of a shape at a position, made on its own. -/
def sampleAt (surroundings : Surroundings) (shape : Shape) (i : Nat) : Synthesis Expr :=
  match shape with
  | .struct _ source parameters => structSample surroundings source parameters
  | .enum _ cases =>
    match cases[i % cases.length]? with
    | some c => caseSample surroundings c
    | none => throw .noCases

/-- The samples of a shape are made one by one. -/
theorem samplesOf_eq_mapM (surroundings : Surroundings) (shape : Shape) {count : Nat}
    (count_pos : 0 < count) :
    samplesOf surroundings shape count =
      (List.range count).mapM (sampleAt surroundings shape) := by
  cases shape with
  | struct name source parameters =>
    have hunits : List.replicate count () = (List.range count).map fun _ => () := by
      rw [List.map_const', List.length_range]
    rw [samplesOf, hunits, List.mapM_map]
    rfl
  | enum name cases =>
    by_cases hempty : cases = []
    · -- the first sample fails for want of a case
      subst hempty
      obtain ⟨n, rfl⟩ := Nat.exists_eq_add_of_lt count_pos
      rw [Nat.zero_add, List.range_succ_eq_map, List.mapM_cons]
      rfl
    · have hpos : 0 < cases.length := List.length_pos_iff.mpr hempty
      have hsome : cases.isEmpty = false := by simpa using hempty
      simp only [samplesOf, hsome, Bool.false_eq_true, if_false]
      rw [caseSamples, CaseShape.cycled_eq_map hpos, List.mapM_map]
      congr 1
      funext i
      simp only [sampleAt, Function.comp_apply, List.getElem?_eq_getElem (Nat.mod_lt i hpos)]
      rfl

/-! ## Values and numbers of samples -/

/-- What is known of the value of each parameter and of the numbers that it takes. -/
def Filled (P : Parameter → Expr → List Nat → Prop) (shape : Shape) (i : Nat) (e : Expr)
    (taken : List Nat) : Prop :=
  ∃ parameters values, shape.WritesAt i parameters values e ∧ Threaded P parameters values taken

/-- A call has the values of its parameters as arguments, and takes their numbers. -/
theorem withArguments_yields (p : Path) {parameters : List Parameter}
    (h : ∀ q ∈ parameters, (q.synthesize surroundings).Yields takes (P q)) :
    (withArguments surroundings p parameters).Yields takes fun e taken =>
      ∃ values, e = .call p values ∧ Threaded P parameters values taken := by
  refine (yields_mapM h).bind fun values taken hvalues => yields_pure ?_
  rw [List.append_nil]
  exact ⟨values, rfl, hvalues⟩

/-- A field is named by its label, or else by its position. -/
theorem fieldName_labels {label : Option String} {index : Nat} {name : FieldName}
    (h : fieldName label index = .ok name) : name.Labels label index := by
  cases label with
  | none =>
    obtain rfl := Except.ok.inj h
    exact .position
  | some text =>
    obtain ⟨name, hname, rfl⟩ := map_eq_ok_iff.mp h
    exact .named hname

/-- A field has the label of its parameter and its value. -/
theorem field_yields {parameter : Parameter} (index : Nat)
    (h : (parameter.synthesize surroundings).Yields takes (P parameter)) :
    (field surroundings parameter index).Yields takes fun f taken =>
      f.1.Labels parameter.name index ∧ P parameter f.2 taken := by
  have hname : (ofExcept (fieldName parameter.name index)).Yields takes fun name taken =>
      name.Labels parameter.name index ∧ taken = [] :=
    yields_ofExcept fun name hname => ⟨fieldName_labels hname, rfl⟩
  refine hname.bind fun name _ hname => ?_
  obtain ⟨hlabels, rfl⟩ := hname
  refine h.bind fun value taken hvalue => yields_pure ?_
  rw [List.append_nil]
  exact ⟨hlabels, hvalue⟩

/-- Fields that are threaded with the positions of their parameters have labels and values. -/
theorem labelled_of_threaded {parameters : List Parameter} {n : Nat}
    {fields : List (FieldName × Expr)} {taken : List Nat}
    (h : Threaded (fun (entry : Parameter × Nat) f share =>
      f.1.Labels entry.1.name entry.2 ∧ P entry.1 f.2 share) (parameters.zipIdx n) fields taken) :
    List.Forall₂ (fun entry field => field.1.Labels entry.1.name entry.2) (parameters.zipIdx n)
      fields ∧ Threaded P parameters (fields.map Prod.snd) taken := by
  refine ⟨h.forall₂ fun _ _ _ hf => hf.1, ?_⟩
  induction parameters generalizing n fields taken with
  | nil =>
    cases h
    exact .nil
  | cons p parameters ih =>
    rw [List.zipIdx_cons] at h
    cases h with
    | cons head tail => exact .cons head.2 (ih tail)

/-- A record has a field for each parameter, with its label and its value, and takes their numbers. -/
theorem withFields_yields (p : Path) {parameters : List Parameter}
    (h : ∀ q ∈ parameters, (q.synthesize surroundings).Yields takes (P q)) :
    (withFields surroundings p parameters).Yields takes fun e taken =>
      ∃ fields, e = .braces p fields ∧ Labelled parameters fields ∧
        Threaded P parameters (fields.map Prod.snd) taken := by
  have hfields : ∀ entry ∈ parameters.zipIdx,
      (field surroundings entry.1 entry.2).Yields takes fun f taken =>
        f.1.Labels entry.1.name entry.2 ∧ P entry.1 f.2 taken :=
    fun entry hentry => field_yields entry.2 (h _ (List.fst_mem_of_mem_zipIdx hentry))
  refine (yields_mapM (P := fun (entry : Parameter × Nat) f taken =>
    f.1.Labels entry.1.name entry.2 ∧ P entry.1 f.2 taken) hfields).bind
    fun fields taken hthreaded => yields_pure ?_
  rw [List.append_nil]
  exact ⟨fields, rfl, labelled_of_threaded hthreaded⟩

/-- An item of the type itself is its path with one name more, and takes no numbers. -/
theorem selfItem_yields (text : String) :
    (ofExcept (selfItem text)).Yields takes fun p taken =>
      (∃ name, readName text = .ok name ∧ p = Expr.selfPath.join [name]) ∧ taken = [] := by
  refine yields_ofExcept fun p h => ?_
  obtain ⟨name, hname, rfl⟩ := map_eq_ok_iff.mp h
  exact ⟨⟨name, hname, rfl⟩, rfl⟩

/-- The sample of a struct is written from the values of its parameters, and takes their numbers. -/
theorem structSample_yields (source : Construction) {parameters : List Parameter}
    (h : ∀ q ∈ parameters, (q.synthesize surroundings).Yields takes (P q)) :
    (structSample surroundings source parameters).Yields takes fun e taken =>
      ∃ values, source.Writes parameters values e ∧ Threaded P parameters values taken := by
  rcases source with text | (_ | _)
  · refine (selfItem_yields text).bind fun p _ hp => ?_
    obtain ⟨⟨name, hname, rfl⟩, rfl⟩ := hp
    refine (withArguments_yields _ h).mono fun e taken he => ?_
    obtain ⟨values, rfl, hvalues⟩ := he
    exact ⟨values, .constructor hname, hvalues⟩
  · refine (withFields_yields _ h).mono fun e taken he => ?_
    obtain ⟨fields, rfl, hlabelled, hvalues⟩ := he
    exact ⟨_, .named hlabelled, hvalues⟩
  · refine (withArguments_yields _ h).mono fun e taken he => ?_
    obtain ⟨values, rfl, hvalues⟩ := he
    exact ⟨values, .tuple, hvalues⟩

/-- The sample of a case is written from the values of its payload, and takes their numbers. -/
theorem caseSample_yields (c : CaseShape)
    (h : ∀ q ∈ c.payload, (q.synthesize surroundings).Yields takes (P q)) :
    (caseSample surroundings c).Yields takes fun e taken =>
      ∃ values, c.Writes values e ∧ Threaded P c.payload values taken := by
  refine (selfItem_yields c.name).bind fun p _ hp => ?_
  obtain ⟨⟨name, hname, rfl⟩, rfl⟩ := hp
  simp only [List.nil_append]
  split
  · rename_i hempty
    have hnil := List.isEmpty_iff.mp hempty
    exact yields_pure ⟨[], .alone hname hnil, hnil ▸ .nil⟩
  · rename_i hnonempty
    split
    · rename_i hlabel
      refine (withFields_yields _ h).mono fun e taken he => ?_
      obtain ⟨fields, rfl, hlabelled, hvalues⟩ := he
      refine ⟨_, .named hname ?_ hlabelled, hvalues⟩
      simpa [Option.isSome_iff_ne_none] using hlabel
    · rename_i hlabel
      refine (withArguments_yields _ h).mono fun e taken he => ?_
      obtain ⟨values, rfl, hvalues⟩ := he
      refine ⟨values, .tuple hname (by simpa using hnonempty) ?_, hvalues⟩
      simpa using hlabel

/-- The sample at a number is filled with values of which is known what is known of each parameter. -/
theorem sampleAt_yields (shape : Shape) (i : Nat)
    (h : ∀ q ∈ shape.parameters, (q.synthesize surroundings).Yields takes (P q)) :
    (sampleAt surroundings shape i).Yields takes (Filled P shape i) := by
  cases shape with
  | struct name source parameters =>
    refine (structSample_yields source h).mono fun e taken he => ?_
    obtain ⟨values, hwrites, hvalues⟩ := he
    exact ⟨parameters, values, .struct hwrites, hvalues⟩
  | enum name cases =>
    rcases hturn : cases[i % cases.length]? with _ | c <;> simp only [sampleAt, hturn]
    · exact yields_throw _
    · have hmem := List.mem_of_getElem? hturn
      refine (caseSample_yields c fun q hq => h q (List.mem_flatMap.mpr ⟨c, hmem, hq⟩)).mono
        fun e taken he => ?_
      obtain ⟨values, hwrites, hvalues⟩ := he
      exact ⟨c.payload, values, .enum hturn hwrites, hvalues⟩

/-- The samples of a set are those of its shape at their positions, and the numbers that its samples
take are all that the set takes. -/
theorem build_yields (shape : Shape) (count : Int)
    (h : ∀ q ∈ shape.parameters, (q.synthesize surroundings).Yields takes (P q)) :
    (build surroundings shape count).Yields takes fun set taken =>
      set.typeName = shape.name ∧
        Threaded (Filled P shape) (List.range count.toNat) set.samples taken := by
  unfold build
  by_cases hcount : count ≤ 0
  · rw [if_pos hcount]
    exact yields_throw _
  · rw [if_neg hcount, samplesOf_eq_mapM surroundings shape (by omega)]
    refine (yields_mapM fun i _ => sampleAt_yields shape i h).bind fun samples taken hsamples => ?_
    have hpath : (ofExcept (readPath shape.name)).Yields takes fun _ taken => taken = [] :=
      yields_ofExcept fun _ _ => rfl
    refine hpath.bind fun p _ hnil => yields_pure ?_
    rw [hnil, List.append_nil, List.append_nil]
    exact ⟨rfl, hsamples⟩

/-! ## Two ways to make the values -/

variable {surroundings' : Surroundings} {C : Identifiers → Identifiers → Prop} {R : Expr → Expr → Prop}

/-- Two parameters have the same label, and their values are made the same way. -/
structure Corresponds (C : Identifiers → Identifiers → Prop) (R : Expr → Expr → Prop)
    (surroundings surroundings' : Surroundings) (q q' : Parameter) : Prop where
  name_eq : q'.name = q.name
  values : Parallel C R (q.synthesize surroundings) (q'.synthesize surroundings')

/-- Calls on parameters that correspond are related. -/
theorem withArguments_parallel (compatible : Expr.Compatible R) {p : Path} (self : p.IsSelf)
    {parameters parameters' : List Parameter}
    (h : List.Forall₂ (Corresponds C R surroundings surroundings') parameters parameters') :
    Parallel C R (withArguments surroundings p parameters)
      (withArguments surroundings' p parameters') :=
  (parallel_mapM h fun _ _ hq => hq.values).bind fun _ _ hvalues =>
    parallel_pure (compatible.call self hvalues)

/-- Parameters that correspond have fields of one name with related values. -/
theorem field_parallel {q q' : Parameter} (index : Nat)
    (h : Corresponds C R surroundings surroundings' q q') :
    Parallel C (fun f f' => f.1 = f'.1 ∧ R f.2 f'.2) (field surroundings q index)
      (field surroundings' q' index) := by
  rw [field, field, h.name_eq]
  refine (parallel_ofExcept fun _ _ => rfl).bind fun name name' hname => ?_
  exact h.values.bind fun value value' hvalue => parallel_pure ⟨hname, hvalue⟩

theorem withFields_parallel (compatible : Expr.Compatible R) (p : Path)
    {parameters parameters' : List Parameter}
    (h : List.Forall₂ (Corresponds C R surroundings surroundings') parameters parameters') :
    Parallel C R (withFields surroundings p parameters) (withFields surroundings' p parameters') := by
  refine (parallel_mapM (forall₂_zipIdx h 0) fun entry entry' hentry => ?_).bind
    fun _ _ hfields => parallel_pure (compatible.braces hfields)
  obtain ⟨hq, hindex⟩ := hentry
  rw [← hindex]
  exact field_parallel entry.2 hq

theorem structSample_parallel (compatible : Expr.Compatible R) (source : Construction)
    {parameters parameters' : List Parameter}
    (h : List.Forall₂ (Corresponds C R surroundings surroundings') parameters parameters') :
    Parallel C R (structSample surroundings source parameters)
      (structSample surroundings' source parameters') := by
  rcases source with text | (_ | _)
  · refine (parallel_ofExcept (R := fun p p' => p = p' ∧ p.IsSelf) fun p hp => ?_).bind ?_
    · obtain ⟨name, _, rfl⟩ := map_eq_ok_iff.mp hp
      exact ⟨rfl, .inr ⟨name, rfl⟩⟩
    · rintro p _ ⟨rfl, self⟩
      exact withArguments_parallel compatible self h
  · exact withFields_parallel compatible _ h
  · exact withArguments_parallel compatible (.inl rfl) h

theorem caseSample_parallel (compatible : Expr.Compatible R) {c c' : CaseShape}
    (h : c.Related (Corresponds C R surroundings surroundings') c') :
    Parallel C R (caseSample surroundings c) (caseSample surroundings' c') := by
  have hlabels : (c'.payload.any fun slot => slot.name.isSome) =
      c.payload.any fun slot => slot.name.isSome :=
    forall₂_any h.payload fun q q' hq => by rw [hq.name_eq]
  rw [caseSample, caseSample, h.name_eq, forall₂_isEmpty h.payload, hlabels]
  refine (parallel_ofExcept (R := fun p p' => p = p' ∧ p.IsSelf) fun p hp => ?_).bind ?_
  · obtain ⟨name, _, rfl⟩ := map_eq_ok_iff.mp hp
    exact ⟨rfl, .inr ⟨name, rfl⟩⟩
  · rintro p _ ⟨rfl, self⟩
    split
    · exact parallel_pure (compatible.path p)
    · split
      · exact withFields_parallel compatible p h.payload
      · exact withArguments_parallel compatible self h.payload

/-- Shapes whose parameters correspond have samples at each number that are related. -/
theorem sampleAt_parallel (compatible : Expr.Compatible R) {shape shape' : Shape} (i : Nat)
    (h : shape.Related (Corresponds C R surroundings surroundings') shape') :
    Parallel C R (sampleAt surroundings shape i) (sampleAt surroundings' shape' i) := by
  cases h with
  | struct h => exact structSample_parallel compatible _ h
  | @enum name cases cases' h =>
    have hturn := forall₂_getElem? h (i % cases.length)
    simp only [sampleAt, ← h.length_eq]
    generalize cases[i % cases.length]? = c?, cases'[i % cases.length]? = c'? at hturn
    cases hturn with
    | none => exact parallel_throw _
    | some hcase => exact caseSample_parallel compatible hcase

/-- Sets of shapes that correspond differ as the values of their parameters differ, and in the function
that gives the samples. -/
theorem build_parallel (compatible : Expr.Compatible R) {shape shape' : Shape}
    (h : shape.Related (Corresponds C R surroundings surroundings') shape') (count : Int) :
    Parallel C (fun set set' => set.typeName = set'.typeName ∧ set.typePath = set'.typePath ∧
        (set.member = surroundings.targets.member ∧ set'.member = surroundings'.targets.member) ∧
        List.Forall₂ R set.samples set'.samples)
      (build surroundings shape count) (build surroundings' shape' count) := by
  unfold build
  by_cases hcount : count ≤ 0
  · simp only [hcount, if_true]
    exact parallel_throw _
  · have hpos : 0 < count.toNat := by omega
    simp only [hcount, if_false, samplesOf_eq_mapM _ _ hpos, h.name_eq]
    have hrange : List.Forall₂ (fun i j => i = j) (List.range count.toNat)
        (List.range count.toNat) := List.forall₂_same.mpr fun _ _ => rfl
    have hsamples : Parallel C (List.Forall₂ R)
        ((List.range count.toNat).mapM (sampleAt surroundings shape))
        ((List.range count.toNat).mapM (sampleAt surroundings' shape')) := by
      refine parallel_mapM hrange ?_
      rintro i _ rfl
      exact sampleAt_parallel compatible i h
    refine hsamples.bind fun samples samples' hsamples => ?_
    refine (parallel_ofExcept fun _ _ => rfl).bind fun p p' hp => parallel_pure ?_
    exact ⟨rfl, hp, ⟨rfl, rfl⟩, hsamples⟩

/-- Sets of one shape differ as the values of its parameters differ, and in the function that gives
the samples. -/
theorem build_agree (compatible : Expr.Compatible R) (shape : Shape) (count : Int)
    (h : ∀ q ∈ shape.parameters,
      Agree R (q.synthesize surroundings) (q.synthesize surroundings')) :
    Agree (fun set set' => set.typeName = set'.typeName ∧ set.typePath = set'.typePath ∧
        (set.member = surroundings.targets.member ∧ set'.member = surroundings'.targets.member) ∧
        List.Forall₂ R set.samples set'.samples)
      (build surroundings shape count) (build surroundings' shape count) :=
  agree_iff_parallel.mpr <| build_parallel compatible
    (Shape.related_self fun q hq => ⟨rfl, agree_iff_parallel.mp (h q hq)⟩) count

end SampleSet

end Specimen
