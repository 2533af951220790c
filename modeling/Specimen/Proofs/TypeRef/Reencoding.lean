import Specimen.Proofs.TypeRef.Fields
import Specimen.Proofs.TypeRef.RoundTrip
import Specimen.Yaml.Node.Reader

/-!
# Writing down what is read from a table

Types are always written as texts. A type that is read from a text is read from its own text again, and
so is a type that is read from a table, unless the table gives a reference by its name (`TypeRef.Names`).
This name may be any text, while a text is read as a reference only if it is the text of a path that stands
for nothing else. The type is lost if one of its references is named otherwise, and only then.

Main statement: `TypeRef.reencoding`; for two names that are lost see `TypeRef.reencoding_shadowed`.
-/

namespace Specimen.TypeRef

open Yaml

variable {value : Value} {type : TypeRef}

/-- A value gives a reference by its name, itself or in one of its parts. -/
inductive Names (name : String) : Value → Prop
  | here {entries : List (Value × Value)} {part : Value} (h : IsForm entries "reference")
    (hpart : part? entries "name" = some part) (hname : part.text? = some name) :
    Names name (.table entries)
  | part {entries : List (Value × Value)} {field : String} {part : Value}
    (hpart : part? entries field = some part) (h : Names name part) : Names name (.table entries)

/-- A text is read as a reference to itself exactly if it is the text of a path that stands for nothing
else. -/
theorem read_eq_reference_iff {path : String} :
    read path = .ok (.reference path) ↔ IsReferenceText path := by
  constructor
  · intro hread
    exact pathed_of_read hread path List.mem_cons_self
  · intro htext
    have hpathed : (reference path).Pathed := List.forall_mem_singleton.mpr htext
    exact @read_text_of_pathed (reference path) hpathed

/-- A type is read again from its text exactly if its references are. -/
theorem read_text_iff (type : TypeRef) :
    read type.text = .ok type ↔ ∀ path ∈ type.references, read path = .ok (.reference path) := by
  constructor
  · intro hread path hpath
    exact read_eq_reference_iff.mpr (pathed_of_read hread path hpath)
  · intro hpaths
    exact read_text_of_pathed fun path hpath => read_eq_reference_iff.mp (hpaths path hpath)

/-- What a value describes has two kinds of references: those that are read again from their texts, and those
that the value gives by name. -/
theorem Describes.reference_cases (h : Describes value type) :
    ∀ path ∈ type.references, read path = .ok (.reference path) ∨ Names path value := by
  induction h with
  | text h =>
    intro path hpath
    exact .inl (read_eq_reference_iff.mpr (pathed_of_read h path hpath))
  | scalar _ => exact fun path hpath => absurd hpath List.not_mem_nil
  | array _ hpart _ ih => exact fun path hpath => (ih path hpath).imp_right (.part hpart)
  | mapping _ _ hfirst _ hsecond _ ihKey ihValue =>
    intro path hpath
    rcases List.mem_append.mp hpath with hpath | hpath
    · exact (ihKey path hpath).imp_right (.part hfirst)
    · exact (ihValue path hpath).imp_right (.part hsecond)
  | reference h hpart hname =>
    intro path hpath
    obtain rfl := List.mem_singleton.mp hpath
    exact .inr (.here h hpart hname)

/-- A type is read again from its own text if and only if each of its references is read as a reference to
itself, which it is if it is the text of a path that stands for nothing else. Whatever the type has been
read from, a reference for which this fails has been given by its name there. -/
theorem reencoding (type : TypeRef) :
    (ofValue? (.text type.text) = some type ↔
      ∀ path ∈ type.references, read path = .ok (.reference path)) ∧
    (∀ path, read path = .ok (.reference path) ↔ IsReferenceText path) ∧
    ∀ value, ofValue? value = some type → ∀ path ∈ type.references,
      read path ≠ .ok (.reference path) → Names path value := by
  refine ⟨ofValue?_text_eq_some_iff.trans (read_text_iff type), fun path => read_eq_reference_iff,
    fun value hvalue path hpath hne => ?_⟩
  have hdescribes := ofValue?_eq_some_iff.mp hvalue
  exact (hdescribes.reference_cases path hpath).resolve_left hne

/-- A list whose elements are given as a reference with the name of a list. -/
def shelves : Value :=
  .record [("type", .text "array"),
    ("element", .record [("name", .text "Vec"), ("type", .text "reference")])]

/-- The list of shelves is decoded with a reference that its text does not lead back to, since the name of
the reference is that of a list. -/
theorem reencoding_shelves :
    ofValue? shelves = some (.array (.reference "Vec")) ∧
    ofValue? (.text "Vec<Vec>") ≠ some (.array (.reference "Vec")) ∧ Names "Vec" shelves := by
  have hvalue : ofValue? shelves = some (.array (.reference "Vec")) := by decide +kernel
  have hne : read "Vec" ≠ .ok (.reference "Vec") := by decide +kernel
  obtain ⟨hiff, _, hnames⟩ := reencoding (.array (.reference "Vec"))
  have hmem : "Vec" ∈ (array (.reference "Vec")).references := by decide
  exact ⟨hvalue, fun htext => hne (hiff.mp htext "Vec" hmem), hnames shelves hvalue "Vec" hmem hne⟩

/-- A reference with the name of a scalar is read from its text as the scalar, and one with a name that is no
path is not read at all. -/
theorem reencoding_shadowed :
    ((Node.read? "\x7btype: reference, name: u8\x7d").bind ofNode? = some (.reference "u8") ∧
    ofValue? (.text (reference "u8").text) = some (.scalar .uint8)) ∧
    (Node.read? "\x7btype: reference, name: a b\x7d").bind ofNode? = some (.reference "a b") ∧
    ofValue? (.text (reference "a b").text) = none := by decide +kernel

end Specimen.TypeRef
