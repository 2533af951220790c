import Specimen.Proofs.TypeRef.Fields
import Specimen.Proofs.Yaml.Node

/-!
# Documents that describe types

The table of a document is not read as its value is: names are asked for as texts, whatever they stand for,
and so is what the field `type` says. A document whose value is read as a type is read as the same type
nevertheless, since the value has texts in these places (`TypeRef.ofNode?_of_value?`). The converse does not
hold: `{type: u8, 1: x}` is read as a type, but the second name is a number in its value.
-/

namespace Specimen.TypeRef

open Yaml

variable {entries entries' : List (Value × Value)} {word : String} {value : Value} {type : TypeRef}

/-- Two entries have the same name, and say the same but for tags where they say what kind a type is. -/
structure Alike (entry entry' : Value × Value) : Prop where
  name_eq : entry.1.text? = entry'.1.text?
  text_eq : entry.2.text? = entry'.2.text?
  value_eq : entry.1.text? ≠ some "type" → entry.2 = entry'.2

/-- What is looked up in entries that are alike is the same, but for tags where a kind is looked up. -/
theorem part?_alike (h : List.Forall₂ Alike entries entries') (name : String) :
    (part? entries' name).bind Value.text? = (part? entries name).bind Value.text? ∧
      (name ≠ "type" → part? entries' name = part? entries name) := by
  have hrel := forall₂_find? (p := fun entry => entry.1.text? == some name)
    (q := fun entry => entry.1.text? == some name) (List.rel_reverse h) fun entry entry' halike => by
      rw [halike.name_eq]
  rw [part?, part?]
  cases hfind : entries.reverse.find? fun entry => entry.1.text? == some name with
  | none =>
    rw [hfind] at hrel
    generalize entries'.reverse.find? (fun entry => entry.1.text? == some name) = entry? at hrel ⊢
    cases hrel
    exact ⟨rfl, fun _ => rfl⟩
  | some entry =>
    have hname : entry.1.text? = some name := by simpa using List.find?_some hfind
    rw [hfind] at hrel
    generalize entries'.reverse.find? (fun entry => entry.1.text? == some name) = entry? at hrel ⊢
    cases hrel with
    | some halike =>
      refine ⟨halike.text_eq.symm, fun hne => ?_⟩
      rw [Option.map_some, Option.map_some, halike.value_eq (by rw [hname]; simpa using hne)]

/-- Tables whose entries are alike are read as the same type. -/
theorem ofValue?_alike (h : List.Forall₂ Alike entries entries')
    (hform : IsForm entries word) : ofValue? (.table entries') = ofValue? (.table entries) := by
  have hform' : IsForm entries' word := by
    refine ⟨fun entry' hentry' => ?_, fun entry' hentry' hname => ?_, ?_⟩
    · obtain ⟨entry, hentry, halike⟩ := exists_of_mem_forall₂ h hentry'
      rw [← halike.name_eq]
      exact hform.isNamed entry hentry
    · obtain ⟨entry, hentry, halike⟩ := exists_of_mem_forall₂ h hentry'
      rw [← halike.text_eq]
      exact hform.isText entry hentry (halike.name_eq.trans hname)
    · rw [(part?_alike h "type").1, hform.kind]
  have hparts : ∀ name, name ≠ "type" → part? entries' name = part? entries name :=
    fun name => (part?_alike h name).2
  rw [ofValue?_of_isForm hform', ofValue?_of_isForm hform]
  simp only [ofForm?, hparts "element" (by decide), hparts "key" (by decide),
    hparts "value" (by decide), hparts "name" (by decide)]

/-- An entry of a document that has a name, and a text if it says what kind a type is, is read like its
value. -/
theorem exists_alike_entryValue? {keyNode valueNode : Node} {key value : Value} {depth : Nat}
    (hkey : keyNode.valueWithin? depth = some key)
    (hvalue : valueNode.valueWithin? (Node.depthLimit - 1) = some value) (isNamed : key.text?.isSome = true)
    (isText : key.text? = some "type" → value.text?.isSome = true) :
    ∃ entry, entryValue? keyNode valueNode = some entry ∧ Alike (key, value) entry := by
  obtain ⟨name, hname⟩ := Option.isSome_iff_exists.mp isNamed
  rw [entryValue?, Node.text?_of_valueWithin? hkey hname]
  by_cases htype : name = "type"
  · subst htype
    obtain ⟨kind, hkind⟩ := Option.isSome_iff_exists.mp (isText hname)
    refine ⟨(.text "type", .text kind), ?_, ⟨?_, ?_, fun hne => absurd hname hne⟩⟩
    · simp [Node.text?_of_valueWithin? hvalue hkind]
    · rw [hname, Value.text?_text]
    · rw [hkind, Value.text?_text]
  · refine ⟨(.text name, value), ?_, ⟨?_, rfl, fun _ => rfl⟩⟩
    · simp [htype, hvalue]
    · rw [hname, Value.text?_text]

/-- The entries of a table in a document are read like those of its value. -/
theorem exists_alike_entries {nodes : List (Node × Node)}
    (h : Node.entriesWithin? (Node.depthLimit - 1) nodes = some entries)
    (isNamed : ∀ entry ∈ entries, entry.1.text?.isSome = true)
    (isText : ∀ entry ∈ entries, entry.1.text? = some "type" → entry.2.text?.isSome = true) :
    ∃ entries', nodes.mapM (fun node => entryValue? node.1 node.2) = some entries' ∧
      List.Forall₂ Alike entries entries' := by
  induction nodes generalizing entries with
  | nil =>
    rw [Node.entriesWithin?] at h
    cases h
    exact ⟨[], rfl, .nil⟩
  | cons node nodes ih =>
    rw [Node.entriesWithin?] at h
    split at h
    · rename_i key value rest hkey hvalue hrest
      cases h
      obtain ⟨hname, hnames⟩ := List.forall_mem_cons.mp isNamed
      obtain ⟨htext, htexts⟩ := List.forall_mem_cons.mp isText
      obtain ⟨entry, hentry, halike⟩ := exists_alike_entryValue? hkey hvalue hname htext
      obtain ⟨entries', hentries, hall⟩ := ih hrest hnames htexts
      refine ⟨entry :: entries', ?_, .cons halike hall⟩
      rw [List.mapM_cons, hentry, hentries]
      rfl
    · cases h

/-- A document describes the type that its value describes. -/
theorem ofNode?_of_value? {node : Node} (hnode : node.value? = some value)
    (h : ofValue? value = some type) : ofNode? node = some type := by
  cases node with
  | table tag nodes =>
    rw [Node.value?, Node.valueWithin?] at hnode
    cases htag : localTag? tag with
    | some name =>
      -- a value behind a tag is not a type
      rw [htag] at hnode
      dsimp only at hnode
      rw [Value.behindTag?] at hnode
      split at hnode
      · cases hnode
      · obtain ⟨_, _, rfl⟩ := Option.map_eq_some_iff.mp hnode
        simp [ofValue?] at h
    | none =>
      rw [htag] at hnode
      dsimp only at hnode
      rw [if_neg (by decide)] at hnode
      obtain ⟨entries, hentries, rfl⟩ := Option.map_eq_some_iff.mp hnode
      have hentries := (Option.filter_eq_some_iff.mp hentries).1
      obtain ⟨word, hform⟩ := exists_isForm h
      obtain ⟨entries', hread, halike⟩ := exists_alike_entries hentries hform.isNamed hform.isText
      rw [ofNode?, htag, Option.isSome_none, if_neg Bool.false_ne_true, hread, Option.bind_some,
        ofValue?_alike halike hform, h]
  | _ => simp [ofNode?, hnode, h]

end Specimen.TypeRef
