import Specimen.Proofs.Expr.Occurrence
import Specimen.Synthesis

/-!
# Identifier numbers in expressions

An identifier is written by its number, the argument of `Uuid::from_u128`. The numbers of an
expression come in the order in which they stand in the source (`Expr.numbers`), and two expressions
that differ in nothing else are the same without them (`Expr.unnumbered`).

The calls of all other functions only have the numbers of their arguments (`Expr.numbers_call`).
-/

namespace Specimen

open Source (Path)

/-! ## Items of the data provider -/

/-- No other function there makes identifiers. -/
theorem Targets.makesIdentifier_item (targets : Targets) {type function : String}
    (h : function ≠ "from_u128") : (targets.item [type, function]).makesIdentifier = false := by
  have hends : (targets.item [type, function]).endsWith ["Uuid", "from_u128"] = true ↔
      ["Uuid", "from_u128"] = [type, function] := Source.Path.endsWith_join _ rfl
  rw [Source.Path.makesIdentifier, ← Bool.not_eq_true, hends]
  intro heq
  simp only [List.cons.injEq] at heq
  exact h heq.2.1.symm

/-- Identifiers are made by one function of the library of data. -/
theorem Targets.makesIdentifier_identifier (targets : Targets) :
    (targets.item ["Uuid", "from_u128"]).makesIdentifier = true :=
  (Source.Path.endsWith_join _ rfl).mpr rfl

namespace Expr

/-! ## Numbers -/

/-- The number of an identifier. -/
def number? : Expr → Option Nat
  | .call callee [.integer n] => if callee.makesIdentifier then some n else none
  | _ => none

/-- The numbers of all identifiers in an expression, from left to right. -/
def numbers (e : Expr) : List Nat := e.found number?

/-- Calls of other functions are no identifiers. -/
theorem number?_call {callee : Path} (h : callee.makesIdentifier = false) (arguments : List Expr) :
    number? (.call callee arguments) = none := by
  unfold number?
  split <;> simp_all

/-- The numbers in a call that makes no identifier are those in its arguments. -/
theorem numbers_call {callee : Path} (h : callee.makesIdentifier = false) (arguments : List Expr) :
    (Expr.call callee arguments).numbers = arguments.flatMap numbers := by
  rw [numbers, found_call, number?_call h]
  rfl

theorem numbers_identifier {callee : Path} (h : callee.makesIdentifier = true) (n : Nat) :
    (Expr.call callee [.integer n]).numbers = [n] := by
  simp [numbers, found, occurrences, listOccurrences, here, number?, h]

/-- The numbers in a call of a method are those in the receiver and then those in the arguments. -/
theorem numbers_method (receiver : Expr) (name : String) (arguments : List Expr) :
    (Expr.method receiver name arguments).numbers =
      receiver.numbers ++ arguments.flatMap numbers := by
  rw [numbers, found_method]
  rfl

theorem numbers_list (items : List Expr) : (Expr.list items).numbers = items.flatMap numbers := by
  rw [numbers, found_list]
  rfl

theorem numbers_map_singleton (key value : Expr) :
    (Expr.map [(key, value)]).numbers = key.numbers ++ value.numbers := by
  rw [numbers, found_map_singleton]
  rfl

theorem numbers_braces (p : Path) (fields : List (FieldName × Expr)) :
    (Expr.braces p fields).numbers = (fields.map Prod.snd).flatMap numbers := by
  rw [numbers, found_braces]
  rfl

/-! ## Expressions without their numbers -/

/-- A number that is left out is written as zero. -/
def zeroed : Expr → Expr
  | .integer _ => .integer 0
  | e => e

mutual

/-- An expression without the numbers of its identifiers. -/
def unnumbered : Expr → Expr
  | .integer n => .integer n
  | .float x => .float x
  | .bool b => .bool b
  | .text s => .text s
  | .path p => .path p
  | .call callee arguments =>
    .call callee
      (if callee.makesIdentifier then arguments.map zeroed else listUnnumbered arguments)
  | .method receiver name arguments => .method receiver.unnumbered name (listUnnumbered arguments)
  | .list items => .list (listUnnumbered items)
  | .map pairs => .map (pairsUnnumbered pairs)
  | .braces p fields => .braces p (fieldsUnnumbered fields)
  | .firstSample type member => .firstSample type member

/-- Expressions without the numbers of their identifiers. -/
def listUnnumbered : List Expr → List Expr
  | [] => []
  | e :: es => e.unnumbered :: listUnnumbered es

/-- The pairs of a map without the numbers of their identifiers. -/
def pairsUnnumbered : List (Expr × Expr) → List (Expr × Expr)
  | [] => []
  | (key, value) :: pairs => (key.unnumbered, value.unnumbered) :: pairsUnnumbered pairs

/-- Fields without the numbers of their identifiers. -/
def fieldsUnnumbered : List (FieldName × Expr) → List (FieldName × Expr)
  | [] => []
  | (name, value) :: fields => (name, value.unnumbered) :: fieldsUnnumbered fields

end

theorem listUnnumbered_eq_map (es : List Expr) : listUnnumbered es = es.map unnumbered := by
  induction es with
  | nil => simp [listUnnumbered]
  | cons e es ih => simp [listUnnumbered, ih]

theorem fieldsUnnumbered_eq_map (fields : List (FieldName × Expr)) :
    fieldsUnnumbered fields = fields.map fun field => (field.1, field.2.unnumbered) := by
  induction fields with
  | nil => simp [fieldsUnnumbered]
  | cons field fields ih =>
    obtain ⟨name, value⟩ := field
    simp [fieldsUnnumbered, ih]

theorem unnumbered_call {callee : Path} (h : callee.makesIdentifier = false)
    (arguments : List Expr) :
    (Expr.call callee arguments).unnumbered = .call callee (arguments.map unnumbered) := by
  rw [unnumbered, h, listUnnumbered_eq_map]
  rfl

/-- Identifiers differ in their numbers only. -/
theorem unnumbered_identifier {callee : Path} (h : callee.makesIdentifier = true) (n : Nat) :
    (Expr.call callee [.integer n]).unnumbered = .call callee [.integer 0] := by
  simp [unnumbered, h, zeroed]

end Expr

end Specimen
