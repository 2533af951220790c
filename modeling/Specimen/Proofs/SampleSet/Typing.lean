import Specimen.Proofs.SampleSet.Construction

/-!
# Types of values

The expressions that samples are made of have types (`Expr.HasType`). Literals fit all kinds that they
can be written for, items of the data provider have the kind they are named for, a method of the
provider gives what its signature says, and the first sample of a type is a value of this type.

Whatever mode is asked for and whatever the types that are referred to, a value that is made for a
type has this type, and a sample is a construction with one value of the right type for each of its
parameters, in their order (`SampleSet.typing`).
-/

namespace Specimen

open Source (Path)

namespace Expr

/-! ## Types -/

/-- The methods of the data provider that give a value, with the kinds of their results. -/
def providerMethods : List (String × ScalarKind) :=
  [("isize", .int), ("i8", .int8), ("i16", .int16), ("i32", .int32), ("i64", .int64),
    ("usize", .uint), ("u8", .uint8), ("u16", .uint16), ("u32", .uint32), ("u64", .uint64),
    ("f32", .float32), ("f64", .float64), ("string", .text), ("bool", .bool), ("bytes", .bytes),
    ("datetime", .dateTime), ("uuid", .uuid), ("point", .point), ("size", .size), ("rect", .rect),
    ("vector", .vector), ("url", .url)]

/-- An expression is a category that the data provider may be given, or says that there is none. -/
inductive IsHint (targets : Targets) : Expr → Prop
  | none : IsHint targets (.path (.ofName "None"))
  | some (category : Category) :
      IsHint targets (.call (.ofName "Some") [categoryExpr category targets])

/-- An expression is a value of a type. -/
inductive HasType (targets : Targets) : Expr → TypeRef → Prop
  | integer (n : Nat) {kind : ScalarKind} (h : kind.isInteger = true) :
      HasType targets (.integer n) (.scalar kind)
  | float (x : Float) {kind : ScalarKind} (h : kind.isFloat = true) :
      HasType targets (.float x) (.scalar kind)
  | bool (b : Bool) : HasType targets (.bool b) (.scalar .bool)
  | text (s : String) :
      HasType targets (.call ((Path.ofName "String").join ["from"]) [.text s]) (.scalar .text)
  | bytes : HasType targets (.call ((Path.ofName "Vec").join ["new"]) []) (.scalar .bytes)
  | dateTime : HasType targets (.path (targets.item ["DateTime", "UNIX_EPOCH"])) (.scalar .dateTime)
  | uuid (n : Nat) :
      HasType targets (.call (targets.item ["Uuid", "from_u128"]) [.integer n]) (.scalar .uuid)
  | url (s : String) :
      HasType targets (.call (targets.item ["Url", "from_static"]) [.text s]) (.scalar .url)
  | figure {kind : ScalarKind} (h : kind.isGeometry = true) :
      HasType targets (.call (targets.item [kind.typeName, "default"]) []) (.scalar kind)
  | drawn {hint : Expr} {method : String} {kind : ScalarKind} (h : IsHint targets hint)
      (returns : (method, kind) ∈ providerMethods) :
      HasType targets (.method (.call (targets.item ["DataGenerator", "random"]) [hint]) method [])
        (.scalar kind)
  | list {items : List Expr} {element : TypeRef}
      (h : ∀ item ∈ items, HasType targets item element) :
      HasType targets (.list items) (.array element)
  | map {pairs : List (Expr × Expr)} {kind : MapKind} {key value : TypeRef}
      (keys : ∀ pair ∈ pairs, HasType targets pair.1 key)
      (values : ∀ pair ∈ pairs, HasType targets pair.2 value) :
      HasType targets (.map pairs) (.mapping kind key value)
  | firstSample {text : String} {type : Path} (h : readPath text = .ok type) :
      HasType targets (.firstSample type targets.member) (.reference text)

end Expr

open Specimen.Expr (HasType)

namespace Synthesis

/-! ## Values -/

/-- Every placeholder is of its kind. -/
theorem placeholder_typed (kind : ScalarKind) (targets : Targets) :
    (placeholder kind targets).Yields True fun e _ => e.HasType targets (.scalar kind) := by
  cases kind with
  | int | int8 | int16 | int32 | int64 | uint | uint8 | uint16 | uint32 | uint64 =>
    exact yields_pure (.integer 0 rfl)
  | float32 | float64 => exact yields_pure (.float 0 rfl)
  | text => exact yields_pure (.text placeholderText)
  | bool => exact yields_pure (.bool true)
  | bytes => exact yields_pure .bytes
  | dateTime => exact yields_pure .dateTime
  | uuid => exact (yields_identifier trivial).bind fun number _ _ => yields_pure (.uuid number)
  | url => exact yields_pure (.url placeholderUrl)
  | point | rect | size | vector => exact yields_pure (.figure rfl)

/-- The method that is called for a kind gives values of this kind. -/
theorem methodName_mem (kind : ScalarKind) :
    (kind.methodName, kind) ∈ Expr.providerMethods := by
  cases kind <;> decide

/-- A value that is drawn by category is drawn for the type that it stands for. -/
theorem providerCall_hasType (kind : ScalarKind) (category : Option Category)
    (targets : Targets) : (providerCall kind category targets).HasType targets (.scalar kind) := by
  refine .drawn ?_ (methodName_mem kind)
  split
  · exact .some _
  · exact .none

/-- The value that is made for a type has this type. -/
theorem synthesize_typed (surroundings : Surroundings) (type : TypeRef)
    (category : Option Category) :
    (synthesize surroundings type category).Yields True fun e _ =>
      e.HasType surroundings.targets type := by
  induction type generalizing category with
  | scalar kind =>
    rw [synthesize]
    cases surroundings.mode with
    | fixed => exact placeholder_typed kind _
    | randomized => exact yields_pure (providerCall_hasType kind category _)
  | array element ih =>
    rw [synthesize]
    refine (ih category).bind fun item _ hitem => yields_pure (.list ?_)
    rintro e he
    obtain rfl := List.mem_singleton.mp he
    exact hitem
  | mapping kind key value ihKey ihValue =>
    rw [synthesize]
    refine (ihKey none).bind fun k _ hkey => (ihValue category).bind fun v _ hvalue =>
      yields_pure (.map ?_ ?_)
    all_goals
      rintro pair hpair
      obtain rfl := List.mem_singleton.mp hpair
    · exact hkey
    · exact hvalue
  | reference text =>
    rw [synthesize]
    refine yields_ofExcept fun e he => ?_
    obtain ⟨type, hread, rfl⟩ := (referenceExpr_eq_ok_iff.mp he).2
    exact .firstSample hread

end Synthesis

namespace SampleSet

open Synthesis

/-! ## Samples -/

/-- Every sample is a construction with values of the types of its parameters. -/
theorem build_typed (surroundings : Surroundings) (shape : Shape) (count : Int) :
    (build surroundings shape count).Yields True fun set _ =>
      List.Forall₂ (fun i sample => ∃ parameters values,
          shape.WritesAt i parameters values sample ∧
            List.Forall₂ (fun p e => e.HasType surroundings.targets p.type) parameters values)
        (List.range count.toNat) set.samples := by
  have hvalues : ∀ q ∈ shape.parameters, (q.synthesize surroundings).Yields True fun e _ =>
      e.HasType surroundings.targets q.type :=
    fun q _ => synthesize_typed surroundings q.type q.category
  refine (build_yields (P := fun q e _ => e.HasType surroundings.targets q.type) shape count
    hvalues).mono fun set taken hset => ?_
  refine hset.2.forall₂ fun i sample share hsample => ?_
  obtain ⟨parameters, values, hwrites, hthreaded⟩ := hsample
  exact ⟨parameters, values, hwrites, hthreaded.forall₂ fun _ _ _ h => h⟩

/-- A value that is made for a type has this type, and the samples of a shape are as many as are asked
for, each a construction on the type itself, with one value of the right type for each parameter. -/
theorem typing (surroundings : Surroundings) :
    (∀ type category before e,
      ((synthesize surroundings type category).run before).1 = .ok e →
        e.HasType surroundings.targets type) ∧
    ∀ shape count before set, ((build surroundings shape count).run before).1 = .ok set →
      List.Forall₂ (fun i sample => ∃ parameters values,
          shape.WritesAt i parameters values sample ∧
            List.Forall₂ (fun p e => e.HasType surroundings.targets p.type) parameters values)
        (List.range count.toNat) set.samples := by
  constructor
  · intro type category before e he
    obtain ⟨taken, htype⟩ := (synthesize_typed surroundings type category).of_ok he
    exact htype
  · intro shape count before set hset
    obtain ⟨taken, hsamples⟩ := (build_typed surroundings shape count).of_ok hset
    exact hsamples

/-- An order has an identifier, prices by customers, and a first article. -/
def order : Shape :=
  .struct "Order" (.fields false)
    [{ name := some "id", type := .scalar .uuid },
      { name := some "prices", type := .mapping .hash (.scalar .uuid) (.scalar .float64) },
      { name := some "articles", type := .array (.reference "Article") }]

def orderSurroundings : Surroundings := ⟨.fixed, .standard, fun _ => .available⟩

/-- In the order the identifiers are keys of a map of numbers, and both samples are filled with values of
the types of its members. -/
theorem typing_order :
    (Expr.map [(.call (Targets.standard.item ["Uuid", "from_u128"]) [.integer 7],
        .float 0)]).HasType .standard (.mapping .hash (.scalar .uuid) (.scalar .float64)) ∧
      ∃ set, ((build orderSurroundings order 2).run {}).1 = .ok set ∧
        List.Forall₂ (fun i sample => ∃ parameters values,
            order.WritesAt i parameters values sample ∧
              List.Forall₂ (fun p e => e.HasType .standard p.type) parameters values)
          (List.range 2) set.samples := by
  obtain ⟨hvalues, hsamples⟩ := typing orderSurroundings
  have hprices : ((synthesize orderSurroundings (.mapping .hash (.scalar .uuid) (.scalar .float64))
      none).run ⟨7⟩).1 = .ok (Expr.map [(.call (Targets.standard.item ["Uuid", "from_u128"])
        [.integer 7], .float 0)]) := rfl
  have hbuilds : ((build orderSurroundings order 2).run {}).1.isOk = true := by decide +kernel
  refine ⟨hvalues _ _ _ _ hprices, ?_⟩
  cases hset : ((build orderSurroundings order 2).run {}).1 with
  | error fault => rw [hset] at hbuilds; cases hbuilds
  | ok set => exact ⟨set, rfl, hsamples _ _ _ _ hset⟩

end SampleSet

end Specimen
