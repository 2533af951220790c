import Specimen.Expr.Renumbering

/-!
# Parts of expressions

An expression is searched for parts of a kind by a view of a single expression, which tells whether
the kind is there. What is found comes with its place, the steps that lead to it, and in the order in
which it stands in the source: an expression before its own parts, and these from left to right, a key
before its value (`Expr.occurrences`).

The calls of functions are told by the last names of their paths (`Path.endsWith`), because what comes
before these can be chosen. A path that only ends in the name of a case or of a constructor ends in no
item of the data provider.
-/

namespace Specimen

open Source (Path Segment)

/-! ## Places -/

namespace Expr

/-- A step from an expression to one of the expressions that it is put together from. -/
inductive Step where
  | receiver
  | argument (index : Nat)
  | item (index : Nat)
  | key (index : Nat)
  | value (index : Nat)
  | field (index : Nat)
  deriving DecidableEq, Repr

/-- Where a part stands in an expression. -/
abbrev Place := List Step

variable {β : Type} (f : Expr → Option β)

/-- What is found in a part, seen from the expression that the part belongs to. -/
def under (step : Step) (found : Place × β) : Place × β := (step :: found.1, found.2)

/-- What a view finds in an expression as a whole. -/
def here (e : Expr) : List (Place × β) := ((f e).map fun b => ([], b)).toList

mutual

/-- All that a view finds in an expression, with the places. -/
def occurrences : Expr → List (Place × β)
  | .integer n => here f (.integer n)
  | .float x => here f (.float x)
  | .bool b => here f (.bool b)
  | .text s => here f (.text s)
  | .path p => here f (.path p)
  | .call callee arguments =>
    here f (.call callee arguments) ++ listOccurrences .argument 0 arguments
  | .method receiver name arguments =>
    here f (.method receiver name arguments) ++ receiver.occurrences.map (under .receiver)
      ++ listOccurrences .argument 0 arguments
  | .list items => here f (.list items) ++ listOccurrences .item 0 items
  | .map pairs => here f (.map pairs) ++ pairsOccurrences 0 pairs
  | .braces p fields => here f (.braces p fields) ++ fieldsOccurrences 0 fields
  | .firstSample type member => here f (.firstSample type member)

/-- All that a view finds in several expressions, to which a step with their positions leads. -/
def listOccurrences (step : Nat → Step) : Nat → List Expr → List (Place × β)
  | _, [] => []
  | n, e :: es => e.occurrences.map (under (step n)) ++ listOccurrences step (n + 1) es

/-- All that a view finds in the pairs of a map. -/
def pairsOccurrences : Nat → List (Expr × Expr) → List (Place × β)
  | _, [] => []
  | n, (key, value) :: pairs =>
    key.occurrences.map (under (.key n)) ++ value.occurrences.map (under (.value n))
      ++ pairsOccurrences (n + 1) pairs

/-- All that a view finds in fields. -/
def fieldsOccurrences : Nat → List (FieldName × Expr) → List (Place × β)
  | _, [] => []
  | n, (_, value) :: fields =>
    value.occurrences.map (under (.field n)) ++ fieldsOccurrences (n + 1) fields

end

variable {f}

/-- Expressions in a row are gone through one by one, each under the place of its number. -/
theorem listOccurrences_eq_flatMap (step : Nat → Step) (n : Nat) (es : List Expr) :
    listOccurrences f step n es =
      (es.zipIdx n).flatMap fun entry => (entry.1.occurrences f).map (under (step entry.2)) := by
  induction es generalizing n with
  | nil => simp [listOccurrences]
  | cons e es ih => simp [listOccurrences, ih]

/-- The names of fields hold nothing. -/
theorem fieldsOccurrences_eq (n : Nat) (fields : List (FieldName × Expr)) :
    fieldsOccurrences f n fields = listOccurrences f .field n (fields.map Prod.snd) := by
  induction fields generalizing n with
  | nil => simp [listOccurrences, fieldsOccurrences]
  | cons field fields ih =>
    obtain ⟨name, value⟩ := field
    simp [listOccurrences, fieldsOccurrences, ih]

/-! ## What is found, without the places -/

/-- All that a view finds in an expression. -/
def found (f : Expr → Option β) (e : Expr) : List β := (e.occurrences f).map Prod.snd

theorem map_snd_under (step : Step) (l : List (Place × β)) :
    (l.map (under step)).map Prod.snd = l.map Prod.snd := by
  rw [List.map_map]
  rfl

theorem map_snd_here (e : Expr) : (here f e).map Prod.snd = (f e).toList := by
  unfold here
  cases f e <;> rfl

/-- Without the places, what occurs in expressions in a row is what is found in each of them. -/
theorem map_snd_listOccurrences (step : Nat → Step) (n : Nat) (es : List Expr) :
    (listOccurrences f step n es).map Prod.snd = es.flatMap (found f) := by
  induction es generalizing n with
  | nil => simp [listOccurrences]
  | cons e es ih => simp [listOccurrences, ih, found, under, Function.comp_def]

/-- In a call there is found what the call itself is and what is found in its arguments. -/
theorem found_call (callee : Path) (arguments : List Expr) :
    found f (.call callee arguments) =
      (f (.call callee arguments)).toList ++ arguments.flatMap (found f) := by
  rw [found, occurrences, List.map_append, map_snd_here, map_snd_listOccurrences]

/-- In a call of a method there is found what the call is, then what is found in the receiver and in the
arguments. -/
theorem found_method (receiver : Expr) (name : String) (arguments : List Expr) :
    found f (.method receiver name arguments) =
      (f (.method receiver name arguments)).toList ++ found f receiver
        ++ arguments.flatMap (found f) := by
  rw [found, occurrences, List.map_append, List.map_append, map_snd_here, map_snd_under,
    map_snd_listOccurrences, found]

theorem found_list (items : List Expr) :
    found f (.list items) = (f (.list items)).toList ++ items.flatMap (found f) := by
  rw [found, occurrences, List.map_append, map_snd_here, map_snd_listOccurrences]

/-- What is found in a key comes before what is found in its value. -/
theorem found_map_singleton (key value : Expr) :
    found f (.map [(key, value)]) =
      (f (.map [(key, value)])).toList ++ (found f key ++ found f value) := by
  simp [found, occurrences, pairsOccurrences, map_snd_here, under, Function.comp_def]

theorem found_braces (path : Path) (fields : List (FieldName × Expr)) :
    found f (.braces path fields) =
      (f (.braces path fields)).toList ++ (fields.map Prod.snd).flatMap (found f) := by
  rw [found, occurrences, List.map_append, map_snd_here, fieldsOccurrences_eq,
    map_snd_listOccurrences]

end Expr

/-! ## Paths by their last names -/

namespace Source.Path

@[simp] theorem names_join (path : Path) (added : List String) :
    (path.join added).names = path.names ++ added := by
  simp [names, join, Function.comp_def, Segment.name]

/-- The names that are added to a path are the last, so as many names have to be these. -/
theorem endsWith_join (path : Path) {added ends : List String}
    (length_eq : ends.length = added.length) :
    (path.join added).endsWith ends = true ↔ ends = added := by
  rw [endsWith, List.isSuffixOf_iff_suffix, names_join]
  constructor
  · intro h
    have hsuffix := List.suffix_of_suffix_length_le h (List.suffix_append _ added)
      (Nat.le_of_eq length_eq)
    exact hsuffix.eq_of_length length_eq
  · rintro rfl
    exact List.suffix_append _ _

end Source.Path

end Specimen
