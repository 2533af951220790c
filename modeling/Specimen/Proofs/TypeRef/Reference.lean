import Specimen.Proofs.Source.PathText
import Specimen.Proofs.Traversal
import Specimen.Targets
import Specimen.TypeRef.Reader

/-!
# References in types that have been read

A type that has been read from text refers to others by texts of paths, which can be read again as
the paths that they are (`TypeRef.pathed_of_read`). So what is sampled for a reference has the key of
the reference (`exists_readPath`).
-/

namespace Specimen

open Specimen.Source

namespace TypeRef

/-- A text stands for a declared type: it is that of a path that a type can be, and the last name is
not that of a known type. -/
def IsReferenceText (text : String) : Prop :=
  ∃ leading names, IsTypePath leading names ∧ (∃ last ∈ names.getLast?, named last = .other) ∧
    text = pathText leading (plain names)

/-- A text that stands for a declared type is that of a path. -/
theorem IsReferenceText.isPathText {text : String} (h : IsReferenceText text) : IsPathText text := by
  obtain ⟨leading, names, hpath, _, htext⟩ := h
  exact ⟨leading, names, hpath.ne_nil, hpath.isStep, htext⟩

/-- All references of a type are texts of paths that stand for declared types. -/
def Pathed (type : TypeRef) : Prop := ∀ path ∈ type.references, IsReferenceText path

/-- The references of a type that a name stands for are its path or come from the arguments. -/
theorem pathed_of_apply {path name : String} {arguments : List (Except ReadError TypeRef)}
    {type : TypeRef} (hpath : named name = .other → IsReferenceText path)
    (harguments : ∀ result ∈ arguments, ∀ argument, result = .ok argument → argument.Pathed)
    (h : apply path name arguments = .ok type) : type.Pathed := by
  unfold apply at h
  split at h
  · -- a list
    obtain ⟨element, helement, hpure⟩ := bind_eq_ok_iff.mp h
    obtain rfl := Except.ok.inj hpure
    exact harguments _ (by simp) element helement
  · cases h
  · -- a map
    obtain ⟨key, hkey, hrest⟩ := bind_eq_ok_iff.mp h
    obtain ⟨value, hvalue, hpure⟩ := bind_eq_ok_iff.mp hrest
    obtain rfl := Except.ok.inj hpure
    intro path hmem
    rcases List.mem_append.mp hmem with hmem | hmem
    · exact harguments _ (by simp) key hkey path hmem
    · exact harguments _ (by simp) value hvalue path hmem
  · cases h
  · cases h
    exact fun path hmem => absurd hmem List.not_mem_nil
  · cases h
    exact fun path hmem => absurd hmem List.not_mem_nil
  · cases h
  · rename_i hother
    cases h
    intro other hmem
    obtain rfl := List.mem_singleton.mp hmem
    exact hpath hother
  · cases h

mutual

/-- What a written type stands for refers to others by texts of paths. -/
theorem pathed_of_ofSyntax : (type : TypeSyntax) → type.Named (fun word => IsWord word.toList) →
    ∀ result, ofSyntax type = .ok result → result.Pathed
  | .paren inner, named, result, h => pathed_of_ofSyntax inner named result h
  | .other _, _, result, h => by cases h
  | .path leading segments, named, result, h => by
    rw [ofSyntax] at h
    split at h
    · cases h
    · rename_i last hlast
      split at h
      · cases h
      · split at h
        · cases h
        · rename_i arguments harguments
          refine pathed_of_apply (fun hother => ?_)
            (pathed_of_lastArguments? segments named.2.1 arguments harguments) h
          refine ⟨leading, _, isTypePath_of_named named, ⟨last.name, ?_, hother⟩,
            (pathText_plain _ _).symm⟩
          rw [List.getLast?_map, hlast]
          rfl

/-- References among the arguments of the last step stand for declared types. -/
theorem pathed_of_lastArguments? : (segments : List Segment) →
    segmentsNamed (fun word => IsWord word.toList) segments →
    ∀ results, lastArguments? segments = some results →
      ∀ result ∈ results, ∀ type, result = .ok type → type.Pathed
  | [], _, results, h => by
    cases h
    exact fun result hmem => absurd hmem List.not_mem_nil
  | [.mk _ arguments], named, results, h => pathed_of_argumentTypes? arguments named.1.2 results h
  | _ :: second :: rest, named, results, h =>
    pathed_of_lastArguments? (second :: rest) named.2 results h

/-- References among the arguments of a step stand for declared types, since the names there are words. -/
theorem pathed_of_argumentTypes? : (arguments : Arguments) →
    arguments.Named (fun word => IsWord word.toList) →
    ∀ results, argumentTypes? arguments = some results →
      ∀ result ∈ results, ∀ type, result = .ok type → type.Pathed
  | .none, _, results, h => by
    cases h
    exact fun result hmem => absurd hmem List.not_mem_nil
  | .angled _ items _, named, results, h => pathed_of_itemTypes? items named results h

theorem pathed_of_itemTypes? : (items : List Argument) →
    itemsNamed (fun word => IsWord word.toList) items →
    ∀ results, itemTypes? items = some results →
      ∀ result ∈ results, ∀ type, result = .ok type → type.Pathed
  | [], _, results, h => by
    cases h
    exact fun result hmem => absurd hmem List.not_mem_nil
  | item :: rest, named, results, h => by
    rw [itemTypes?] at h
    split at h
    · rename_i first others hfirst hothers
      cases h
      rw [List.forall_mem_cons]
      exact ⟨pathed_of_itemType? item named.1 first hfirst,
        pathed_of_itemTypes? rest named.2 others hothers⟩
    · cases h

/-- References in an argument stand for declared types. -/
theorem pathed_of_itemType? : (item : Argument) → item.Named (fun word => IsWord word.toList) →
    ∀ result, itemType? item = some result → ∀ type, result = .ok type → type.Pathed
  | .type type, named, result, h => by
    cases h
    exact pathed_of_ofSyntax type named
  | .lifetime _, _, _, h => by cases h
  | .other _, _, _, h => by cases h

end

/-- A type that has been read from text refers to others by texts of paths. -/
theorem pathed_of_read {text : String} {type : TypeRef} (h : read text = .ok type) : type.Pathed := by
  unfold read at h
  split at h
  · cases h
  · split at h
    · cases h
    · rename_i written hwritten
      exact pathed_of_ofSyntax written (named_of_type? hwritten) type h

end TypeRef

/-- The text of a path can be read, and the path has that text. -/
theorem Source.IsPathText.exists_readPath {text : String} (h : IsPathText text) :
    ∃ path, readPath text = .ok path ∧ pathText path.leading path.segments = text := by
  obtain ⟨leading, names, ne, hnames, rfl⟩ := h
  refine ⟨⟨leading, plain names⟩, ?_, rfl⟩
  rw [readPath, path?_pathText leading ne hnames]

end Specimen
