import Mathlib.Data.List.Nodup
import Specimen.Proofs.TypeRef.Document
import Specimen.Proofs.TypeRef.RoundTrip
import Specimen.Proofs.Yaml.Value
import Specimen.Yaml.Node.Reader

/-!
# Types written as tables

There is a form for every kind of type (`TypeRef.Encodes`). Each part of a type may be given by a text or by
a form again, the entries of a form may stand in any order, and entries with other names may stand between
them. However a type is given, it is read as that type, as a value and in a document.

The order does not matter because the names of a form are different: what is looked up by its name is found
wherever it stands (`TypeRef.Arranges.isForm`).

Main statement: `TypeRef.decoding`.
-/

namespace Specimen.TypeRef

open Yaml

variable {name word : String} {value part : Value} {type : TypeRef}

/-! ## Forms in any order -/

/-- A table has the entries of a form in any order, among others whose names the form does not use. -/
def Arranges (form : List (String × Value)) (value : Value) : Prop :=
  ∃ fields extra, fields.Perm (form ++ extra) ∧ (∀ field ∈ extra, field.1 ∉ form.map Prod.fst) ∧
    value = .record fields

/-- The part with a name is the value of the entry with that name, if there is one such value. -/
theorem part?_record {fields : List (String × Value)} (hmem : (name, part) ∈ fields)
    (unique : ∀ other, (name, other) ∈ fields → other = part) :
    part? (fields.map fun field => (.text field.1, field.2)) name = some part := by
  rw [part?, ← List.map_reverse, List.find?_map]
  cases hfind : fields.reverse.find?
      ((fun entry : Value × Value => entry.1.text? == some name) ∘
        fun field => (.text field.1, field.2)) with
  | none =>
    have := List.find?_eq_none.mp hfind _ (List.mem_reverse.mpr hmem)
    simp at this
  | some field =>
    have hfield := List.mem_reverse.mp (List.mem_of_find?_eq_some hfind)
    have hname := List.find?_some hfind
    obtain ⟨other, value⟩ := field
    obtain rfl : other = name := by simpa using hname
    rw [unique value hfield]
    rfl

/-- The names of a form are different, so in a table that arranges it nothing else has one of them. -/
theorem eq_of_mem_arranged {form fields extra : List (String × Value)}
    (hperm : fields.Perm (form ++ extra)) (hextra : ∀ field ∈ extra, field.1 ∉ form.map Prod.fst)
    (distinct : (form.map Prod.fst).Nodup) {field : String × Value} (hfield : field ∈ form)
    {other : Value} (hother : (field.1, other) ∈ fields) : other = field.2 := by
  rcases List.mem_append.mp (hperm.mem_iff.mp hother) with hother | hother
  · exact congrArg Prod.snd (List.inj_on_of_nodup_map distinct hother hfield rfl)
  · exact absurd (List.mem_map_of_mem (f := Prod.fst) hfield) (hextra (field.1, other) hother)

/-- A table that arranges a form is read as the form. -/
theorem Arranges.isForm {form : List (String × Value)}
    (h : Arranges (("type", .text word) :: form) value)
    (distinct : ("type" :: form.map Prod.fst).Nodup) :
    ∃ entries, value = .table entries ∧ IsForm entries word ∧
      ∀ field ∈ form, part? entries field.1 = some field.2 := by
  obtain ⟨fields, extra, hperm, hextra, rfl⟩ := h
  have hpart : ∀ field ∈ ("type", .text word) :: form,
      part? (fields.map fun field => (.text field.1, field.2)) field.1 = some field.2 := by
    intro field hfield
    refine part?_record (hperm.mem_iff.mpr (List.mem_append_left _ hfield)) fun other hother => ?_
    exact eq_of_mem_arranged hperm hextra distinct hfield hother
  have htype := hpart _ List.mem_cons_self
  refine ⟨_, rfl, ⟨fun entry hentry => ?_, fun entry hentry hname => ?_, by rw [htype]; simp⟩,
    fun field hfield => hpart field (List.mem_cons_of_mem _ hfield)⟩
  · obtain ⟨field, _, rfl⟩ := List.mem_map.mp hentry
    simp
  · obtain ⟨⟨name, other⟩, hfield, rfl⟩ := List.mem_map.mp hentry
    obtain rfl : name = "type" := by simpa using hname
    rw [eq_of_mem_arranged hperm hextra distinct List.mem_cons_self hfield]
    simp

/-- The ways in which a type may be given: by a text that is read as it, or by the form for its kind, whose
parts may be given in any of these ways again. -/
inductive Encodes : Value → TypeRef → Prop
  | text {source : String} {type : TypeRef} (h : read source = .ok type) :
    Encodes (.text source) type
  | scalar {value : Value} (kind : ScalarKind) (h : Arranges [("type", .text kind.typeName)] value) :
    Encodes value (.scalar kind)
  | array {value part : Value} {element : TypeRef}
    (h : Arranges [("type", .text "array"), ("element", part)] value)
    (helement : Encodes part element) : Encodes value (.array element)
  | mapping {table first second : Value} {kind : MapKind} {word : String} {key value : TypeRef}
    (hword : word ∈ kind.words)
    (h : Arranges [("type", .text word), ("key", first), ("value", second)] table)
    (hkey : Encodes first key) (hvalue : Encodes second value) :
    Encodes table (.mapping kind key value)
  | reference {value : Value} (path : String)
    (h : Arranges [("type", .text "reference"), ("name", .text path)] value) :
    Encodes value (.reference path)

/-- A value that gives a type in one of the ways describes it. -/
theorem Encodes.describes (h : Encodes value type) : Describes value type := by
  induction h with
  | text h => exact .text h
  | scalar kind h =>
    obtain ⟨entries, rfl, hform, _⟩ := h.isForm (by simp)
    exact .scalar hform
  | array h _ ih =>
    obtain ⟨entries, rfl, hform, hparts⟩ := h.isForm (by simp)
    exact .array hform (hparts _ List.mem_cons_self) ih
  | mapping hword h _ _ ihKey ihValue =>
    obtain ⟨entries, rfl, hform, hparts⟩ := h.isForm (by simp)
    exact .mapping hword hform (hparts _ List.mem_cons_self) ihKey
      (hparts _ (List.mem_cons_of_mem _ List.mem_cons_self)) ihValue
  | reference path h =>
    obtain ⟨entries, rfl, hform, hparts⟩ := h.isForm (by simp)
    exact .reference hform (hparts _ List.mem_cons_self) (Value.text?_text path)

/-! ## Reading what is given -/

/-- A form on its own is in order. -/
theorem arranges_record (form : List (String × Value)) : Arranges form (.record form) :=
  ⟨form, [], by rw [List.append_nil], by simp, rfl⟩

/-- The forms of a type and of all its parts, in the order in which they are written down above. -/
def inForms : TypeRef → Value
  | .scalar kind => .record [("type", .text kind.typeName)]
  | .array element => .record [("type", .text "array"), ("element", element.inForms)]
  | .mapping .hash key value =>
    .record [("type", .text "mapping"), ("key", key.inForms), ("value", value.inForms)]
  | .mapping .ordered key value =>
    .record [("type", .text "btree_map"), ("key", key.inForms), ("value", value.inForms)]
  | .reference path => .record [("type", .text "reference"), ("name", .text path)]

/-- The forms of a type and its parts are one of the ways to give it. -/
theorem encodes_inForms (type : TypeRef) : Encodes type.inForms type := by
  induction type with
  | scalar kind => exact .scalar kind (arranges_record _)
  | array element ih => exact .array (arranges_record _) ih
  | mapping kind key value ihKey ihValue =>
    cases kind with
    | hash => exact .mapping List.mem_cons_self (arranges_record _) ihKey ihValue
    | ordered => exact .mapping List.mem_cons_self (arranges_record _) ihKey ihValue
  | reference path => exact .reference path (arranges_record _)

/-- Every type has a form, of all its parts too, and a type that has been read from a text may be given by
its own text as well. Whichever of these ways is taken for the type and for each of its parts, in whatever
order the entries stand and whatever else stands between them, what is read is the type: from a value, and
from every document that has this value. -/
theorem decoding (type : TypeRef) :
    Encodes type.inForms type ∧
    (∀ source, read source = .ok type → Encodes (.text type.text) type) ∧
    ∀ value, Encodes value type → ofValue? value = some type ∧
      ∀ node : Node, node.value? = some value → ofNode? node = some type := by
  refine ⟨encodes_inForms type, fun source hread => ?_, fun value hencodes => ?_⟩
  · exact .text (read_text_of_pathed (pathed_of_read hread))
  · have hvalue := ofValue?_eq_some_iff.mpr hencodes.describes
    exact ⟨hvalue, fun node hnode => ofNode?_of_value? hnode hvalue⟩

/-- A map to lists of frames, written from its end to its beginning and with notes. -/
def album : Value :=
  .record [("unit", .text "cm"),
    ("value", .record [("note", .integer 1), ("element", .text "::art::Frame"), ("type", .text "array")]),
    ("key", .text "String"), ("type", .text "map")]

/-- The same as a document. -/
def albumText : String :=
  "unit: cm\nvalue: \x7bnote: 1, element: '::art::Frame', type: array\x7d\nkey: String\ntype: map"

/-- The album gives a map to lists of frames, in forms and in a text. -/
theorem encodes_album :
    Encodes album (.mapping .hash (.scalar .text) (.array (.reference "::art::Frame"))) := by
  have hword : "map" ∈ MapKind.hash.words := by decide
  have hkey : read "String" = .ok (.scalar .text) := by decide +kernel
  have helement : read "::art::Frame" = .ok (.reference "::art::Frame") := by decide +kernel
  refine .mapping hword ⟨_, [("unit", .text "cm")], List.reverse_perm _, by simp, rfl⟩ (.text hkey)
    (.array ?_ (.text helement))
  exact ⟨_, [("note", .integer 1)], List.reverse_perm _, by simp, rfl⟩

/-- The document of the album is read as a map to lists of frames. -/
theorem decoding_album : (Node.read? albumText).bind ofNode? =
    some (.mapping .hash (.scalar .text) (.array (.reference "::art::Frame"))) := by
  have halbum : (Node.read? albumText).bind Node.value? = some album :=
    Value.eq_some_of_any_equals (by decide +kernel)
  obtain ⟨node, hnode, hvalue⟩ := Option.bind_eq_some_iff.mp halbum
  rw [hnode, Option.bind_some]
  exact ((decoding _).2.2 album encodes_album).2 node hvalue

end Specimen.TypeRef
