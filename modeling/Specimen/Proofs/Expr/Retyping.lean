import Specimen.Expr

/-!
# Types whose first samples are taken

Two expressions that differ in nothing but the types whose first samples they take are the same once
another path is put in the place of each (`Expr.mapTypes`).
-/

namespace Specimen.Expr

open Source (Path)

mutual

/-- An expression with another path in the place of each type whose first sample it takes. -/
def mapTypes (f : Path → Path) : Expr → Expr
  | .integer n => .integer n
  | .float x => .float x
  | .bool b => .bool b
  | .text s => .text s
  | .path p => .path p
  | .call callee arguments => .call callee (listMapTypes f arguments)
  | .method receiver name arguments =>
    .method (mapTypes f receiver) name (listMapTypes f arguments)
  | .list items => .list (listMapTypes f items)
  | .map pairs => .map (pairsMapTypes f pairs)
  | .braces p fields => .braces p (fieldsMapTypes f fields)
  | .firstSample type member => .firstSample (f type) member

/-- Expressions with other paths. -/
def listMapTypes (f : Path → Path) : List Expr → List Expr
  | [] => []
  | e :: es => mapTypes f e :: listMapTypes f es

/-- The pairs of a map with other paths. -/
def pairsMapTypes (f : Path → Path) : List (Expr × Expr) → List (Expr × Expr)
  | [] => []
  | (key, value) :: pairs => (mapTypes f key, mapTypes f value) :: pairsMapTypes f pairs

/-- Fields with other paths. -/
def fieldsMapTypes (f : Path → Path) : List (FieldName × Expr) → List (FieldName × Expr)
  | [] => []
  | (name, value) :: fields => (name, mapTypes f value) :: fieldsMapTypes f fields

end

variable {f : Path → Path}

theorem listMapTypes_eq_map (es : List Expr) : listMapTypes f es = es.map (mapTypes f) := by
  induction es with
  | nil => simp [listMapTypes]
  | cons e es ih => simp [listMapTypes, ih]

theorem fieldsMapTypes_eq_map (fields : List (FieldName × Expr)) :
    fieldsMapTypes f fields = fields.map fun field => (field.1, mapTypes f field.2) := by
  induction fields with
  | nil => simp [fieldsMapTypes]
  | cons field fields ih =>
    obtain ⟨name, value⟩ := field
    simp [fieldsMapTypes, ih]

end Specimen.Expr
