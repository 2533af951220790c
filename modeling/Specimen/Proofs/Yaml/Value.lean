import Specimen.Yaml.Value

/-!
# Trees

What records are written as: tables whose keys are different texts, lists, texts, truth values and
nothing (`Value.IsTree`). Numbers and tags are left out, so a value of this kind is the same whether it
is taken as it is or as it is spelled.

Values can be told apart by going through them (`Value.eq_of_equals`, `Value.eq_some_of_any_equals`).
-/

namespace Specimen.Yaml.Value

/-- A value is put together from tables with different texts as keys, lists, texts, truth values and
nothing. -/
inductive IsTree : Value → Prop
  | null : IsTree .null
  | bool (b : Bool) : IsTree (.bool b)
  | text (s : String) : IsTree (.text s)
  | list {items : List Value} (h : ∀ item ∈ items, IsTree item) : IsTree (.list items)
  | record {fields : List (String × Value)} (distinct : (fields.map Prod.fst).Nodup)
      (h : ∀ field ∈ fields, IsTree field.2) : IsTree (.record fields)

mutual

/-- Whether two values are the same. -/
def equals : Value → Value → Bool
  | .null, .null => true
  | .bool a, .bool b => a == b
  | .integer m, .integer n => m == n
  | .real a, .real b => a == b
  | .text a, .text b => a == b
  | .list as, .list bs => itemsEqual as bs
  | .table as, .table bs => entriesEqual as bs
  | .tagged s a, .tagged t b => s == t && equals a b
  | _, _ => false

/-- Whether two lists have the same items. -/
def itemsEqual : List Value → List Value → Bool
  | [], [] => true
  | a :: as, b :: bs => equals a b && itemsEqual as bs
  | _, _ => false

/-- Whether two tables have the same entries in the same order. -/
def entriesEqual : List (Value × Value) → List (Value × Value) → Bool
  | [], [] => true
  | (k, v) :: as, (l, w) :: bs => equals k l && equals v w && entriesEqual as bs
  | _, _ => false

end

mutual

/-- Values that are found to be equal are the same. -/
theorem eq_of_equals : (a b : Value) → equals a b = true → a = b
  | .null, b, h => by cases b <;> simp_all [equals]
  | .bool _, b, h => by cases b <;> simp_all [equals]
  | .integer _, b, h => by cases b <;> simp_all [equals]
  | .real _, b, h => by cases b <;> simp_all [equals]
  | .text _, b, h => by cases b <;> simp_all [equals]
  | .list as, b, h => by
    cases b <;> simp only [equals, Bool.false_eq_true] at h
    rw [eq_of_itemsEqual as _ h]
  | .table as, b, h => by
    cases b <;> simp only [equals, Bool.false_eq_true] at h
    rw [eq_of_entriesEqual as _ h]
  | .tagged s a, b, h => by
    cases b <;> simp only [equals, Bool.false_eq_true, Bool.and_eq_true, beq_iff_eq] at h
    rw [h.1, eq_of_equals a _ h.2]

theorem eq_of_itemsEqual : (as bs : List Value) → itemsEqual as bs = true → as = bs
  | [], bs, h => by cases bs <;> simp_all [itemsEqual]
  | a :: as, bs, h => by
    cases bs <;> simp only [itemsEqual, Bool.false_eq_true, Bool.and_eq_true] at h
    rw [eq_of_equals a _ h.1, eq_of_itemsEqual as _ h.2]

theorem eq_of_entriesEqual :
    (as bs : List (Value × Value)) → entriesEqual as bs = true → as = bs
  | [], bs, h => by cases bs <;> simp_all [entriesEqual]
  | (k, v) :: as, bs, h => by
    cases bs <;> simp only [entriesEqual, Bool.false_eq_true, Bool.and_eq_true] at h
    obtain ⟨⟨hk, hv⟩, hrest⟩ := h
    rw [eq_of_equals k _ hk, eq_of_equals v _ hv, eq_of_entriesEqual as _ hrest]

end

/-- A value that is compared with one that may be missing is that one. -/
theorem eq_some_of_any_equals {value? : Option Value} {value : Value}
    (h : value?.any (·.equals value) = true) : value? = some value := by
  cases value? with
  | none => cases h
  | some other => rw [eq_of_equals other value h]

end Specimen.Yaml.Value
