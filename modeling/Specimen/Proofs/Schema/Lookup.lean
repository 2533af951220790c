import Specimen.Proofs.TypeKey
import Specimen.Schema

/-!
# Finding declarations

A declaration is looked up by the key of a path, and the key is compared with the names as they are
declared. So a declaration is found by its own name exactly when the name is its own key, and then by all
paths that end in it, unless it begins with a colon (`lookup_spec`).

A schema may declare any text as a name. One that is no key does not find its declaration, and what is
found in its place may be another one (`lookup_confused`).
-/

namespace Specimen.Schema

variable {schema : Schema} {d : Declaration} {path : String}

/-- A path leads to the declaration whose name is the last name of the path. -/
theorem find?_eq_some_iff :
    schema.find? path = some d ↔ d ∈ schema.types ∧ typeKey path = d.name := by
  constructor
  · intro h
    have hname : d.name = typeKey path := by simpa using List.find?_some h
    exact ⟨List.mem_of_find?_eq_some h, hname.symm⟩
  · rintro ⟨hd, hname⟩
    rw [find?, hname]
    exact find?_name_of_mem schema.distinct hd

/-- A declaration that is required is given if and only if it is found. -/
theorem require_eq_ok_iff : schema.require path = .ok d ↔ schema.find? path = some d := by
  unfold require
  cases schema.find? path <;> simp

/-- What a path finds is the declaration that has the key of the path as its name. So a declaration is
found by its name exactly when the name is a key, and by paths that end in the name exactly when, besides,
it does not begin with a colon. -/
theorem lookup_spec (schema : Schema) :
    (∀ path d, schema.find? path = some d ↔ d ∈ schema.types ∧ typeKey path = d.name) ∧
    (∀ path d, schema.require path = .ok d ↔ d ∈ schema.types ∧ typeKey path = d.name) ∧
    ∀ d ∈ schema.types,
      (schema.find? d.name = some d ↔ IsKey d.name) ∧
      (schema.require d.name = .ok d ↔ IsKey d.name) ∧
      ∀ before, schema.find? (before ++ "::" ++ d.name) = some d ↔
        IsKey d.name ∧ d.name.toList.head? ≠ some ':' := by
  refine ⟨fun _ _ => find?_eq_some_iff, fun _ _ => require_eq_ok_iff.trans find?_eq_some_iff,
    fun d hd => ?_⟩
  have hname : schema.find? d.name = some d ↔ IsKey d.name := by
    rw [find?_eq_some_iff, and_iff_right hd, typeKey_eq_self_iff]
  refine ⟨hname, require_eq_ok_iff.trans hname, fun before => ?_⟩
  rw [find?_eq_some_iff, and_iff_right hd, typeKey_qualified_iff]

/-- Two declarations of a gallery. The first is known by a path. -/
def artFrame : Declaration := Declaration.ofKind "art::Frame" .struct 1

def frame : Declaration := Declaration.ofKind "Frame" .struct 2

def gallery : Schema where
  types := [artFrame, frame]
  distinct := by decide

/-- By the name of the one, the other is found. -/
theorem lookup_confused : Schema.ofTypes [artFrame, frame] = .ok gallery ∧
    artFrame ∈ gallery.types ∧ artFrame.name ∈ gallery.typeNames ∧
    gallery.find? artFrame.name = some frame ∧ gallery.require artFrame.name = .ok frame ∧
    frame ≠ artFrame := by
  have hfound : gallery.find? artFrame.name = some frame :=
    find?_eq_some_iff.mpr ⟨by decide, by decide +kernel⟩
  have hschema : Schema.ofTypes [artFrame, frame] = .ok gallery := by
    have hdistinct : ([artFrame, frame].map Declaration.name).Nodup := gallery.distinct
    rw [Schema.ofTypes, Schema.ofParts, dif_pos hdistinct]
    rfl
  exact ⟨hschema, by decide, by decide, hfound, require_eq_ok_iff.mpr hfound, by decide⟩

end Specimen.Schema
