import Specimen.Proofs.Traversal
import Specimen.TypeRef.Fields

/-!
# Tables that describe types

Of a table only a few entries are looked at: the last one named `type`, which says what kind of type it
is, and the last one with the name of each part. The table is a form (`TypeRef.IsForm`) if all its entries
have names and everything named `type` is a text; other tables are no types, and a form is read as what its
parts make up (`TypeRef.ofValue?_of_isForm`).

So there is one rule for every kind of type (`TypeRef.Describes`), and a value is read as a type exactly
when it follows from these rules that it describes it.

Main statement: `TypeRef.ofValue?_eq_some_iff`.
-/

namespace Specimen

/-- The words that a table gives the kind of a map with. -/
def MapKind.words : MapKind → List String
  | .hash => ["mapping", "map"]
  | .ordered => ["btree_map"]

namespace TypeRef

open Yaml

variable {entries : List (Value × Value)} {fields : List Field} {word name : String} {value part : Value}
  {type : TypeRef}

/-! ## Tables as forms -/

/-- The value of the last entry with a name. -/
def part? (entries : List (Value × Value)) (name : String) : Option Value :=
  (entries.reverse.find? fun entry => entry.1.text? == some name).map Prod.snd

/-- The entries of a table have names, those named `type` are texts, and the last of these is a word. -/
structure IsForm (entries : List (Value × Value)) (word : String) : Prop where
  isNamed : ∀ entry ∈ entries, entry.1.text?.isSome = true
  isText : ∀ entry ∈ entries, entry.1.text? = some "type" → entry.2.text?.isSome = true
  kind : (part? entries "type").bind Value.text? = some word

/-- A field says what an entry says. -/
structure Field.Of (entry : Value × Value) (field : Field) : Prop where
  name_eq : entry.1.text? = some field.name
  text_eq : field.text? = entry.2.text?
  type_eq : field.type? = ofValue? entry.2

/-- The fields of a table are what its entries say. -/
theorem fields?_eq_some_iff :
    fields? entries = some fields ↔ List.Forall₂ Field.Of entries fields := by
  induction entries generalizing fields with
  | nil => simp [fields?, eq_comm]
  | cons entry entries ih =>
    obtain ⟨key, value⟩ := entry
    rw [fields?]
    constructor
    · intro h
      split at h
      · rename_i name rest hname hrest
        cases h
        exact .cons ⟨hname, rfl, rfl⟩ (ih.mp hrest)
      · cases h
    · intro h
      cases h with
      | @cons _ field _ rest hfield hrest =>
        rw [ih.mpr hrest, hfield.name_eq]
        obtain ⟨name, text, type⟩ := field
        obtain ⟨_, rfl, rfl⟩ := hfield
        rfl

/-- A table is collected if all its keys are texts. -/
theorem exists_fields? (h : ∀ entry ∈ entries, entry.1.text?.isSome = true) :
    ∃ fields, fields? entries = some fields := by
  induction entries with
  | nil => exact ⟨[], by rw [fields?]⟩
  | cons entry entries ih =>
    obtain ⟨hentry, hentries⟩ := List.forall_mem_cons.mp h
    obtain ⟨name, hname⟩ := Option.isSome_iff_exists.mp hentry
    obtain ⟨fields, hfields⟩ := ih hentries
    have hfield : Field.Of entry ⟨name, entry.2.text?, ofValue? entry.2⟩ := ⟨hname, rfl, rfl⟩
    exact ⟨_, fields?_eq_some_iff.mpr (.cons hfield (fields?_eq_some_iff.mp hfields))⟩

/-- The last field with a name says what the last entry with that name says. -/
theorem lookup?_eq (h : List.Forall₂ Field.Of entries fields) (name : String) :
    (lookup? name fields).bind Field.text? = (part? entries name).bind Value.text? ∧
      (lookup? name fields).bind Field.type? = (part? entries name).bind ofValue? := by
  have hrel : Option.Rel Field.Of (entries.reverse.find? fun entry => entry.1.text? == some name)
      (lookup? name fields) := by
    refine forall₂_find? (List.rel_reverse h) fun entry field hfield => ?_
    rw [hfield.name_eq]
    rfl
  rw [part?]
  generalize entries.reverse.find? (fun entry => entry.1.text? == some name) = entry? at hrel ⊢
  generalize lookup? name fields = field? at hrel ⊢
  cases hrel with
  | some hfield => exact ⟨hfield.text_eq, hfield.type_eq⟩
  | none => exact ⟨rfl, rfl⟩

/-- The type that the parts of a form make up. -/
def ofForm? (entries : List (Value × Value)) (word : String) : Option TypeRef :=
  let type? := fun name => (part? entries name).bind ofValue?
  if word = "array" then (type? "element").map .array
  else if word = "mapping" ∨ word = "map" ∨ word = "btree_map" then
    match type? "key", type? "value" with
    | some key, some value =>
      some (.mapping (if word = "btree_map" then .ordered else .hash) key value)
    | _, _ => none
  else if word = "reference" then ((part? entries "name").bind Value.text?).map .reference
  else (ScalarKind.ofTypeName? word).map .scalar

/-- The fields of a table are accepted if and only if the entries are a form. -/
theorem isForm_iff (h : List.Forall₂ Field.Of entries fields) :
    IsForm entries word ↔
      (fields.all fun field => field.name != "type" || field.text?.isSome) = true ∧
        (lookup? "type" fields).bind Field.text? = some word := by
  have hall : (fields.all fun field => field.name != "type" || field.text?.isSome) =
      entries.all fun entry => entry.1.text? != some "type" || entry.2.text?.isSome := by
    refine forall₂_all h fun entry field hfield => ?_
    rw [hfield.name_eq, hfield.text_eq]
    rfl
  rw [hall, (lookup?_eq h "type").1, List.all_eq_true]
  constructor
  · intro hform
    refine ⟨fun entry hentry => ?_, hform.kind⟩
    rw [Bool.or_eq_true, bne_iff_ne, ← imp_iff_not_or]
    exact hform.isText entry hentry
  · rintro ⟨htexts, hkind⟩
    refine ⟨fun entry hentry => ?_, fun entry hentry hname => ?_, hkind⟩
    · have hflip : List.Forall₂ (flip Field.Of) fields entries := h.flip
      obtain ⟨field, _, hfield⟩ := exists_of_mem_forall₂ hflip hentry
      rw [hfield.name_eq]
      rfl
    · have htext := htexts entry hentry
      rw [Bool.or_eq_true, bne_iff_ne, ← imp_iff_not_or] at htext
      exact htext hname

/-- A table that is a form is decoded to what its parts make up. -/
theorem ofValue?_of_isForm (h : IsForm entries word) :
    ofValue? (.table entries) = ofForm? entries word := by
  obtain ⟨fields, hfields⟩ := exists_fields? h.isNamed
  have hall := fields?_eq_some_iff.mp hfields
  obtain ⟨htexts, hword⟩ := (isForm_iff hall).mp h
  rw [ofValue?, hfields, Option.bind_some, ofFields?, htexts, hword]
  simp only [(lookup?_eq hall _).1, (lookup?_eq hall _).2]
  rfl

/-- A table that is decoded is a form of some word. -/
theorem exists_isForm (h : ofValue? (.table entries) = some type) : ∃ word, IsForm entries word := by
  rw [ofValue?] at h
  obtain ⟨fields, hfields, hof⟩ := Option.bind_eq_some_iff.mp h
  rw [ofFields?] at hof
  split at hof
  · cases hof
  · rename_i htexts
    rw [Bool.not_eq_true', Bool.not_eq_false] at htexts
    split at hof
    · cases hof
    · rename_i word hword
      exact ⟨word, (isForm_iff (fields?_eq_some_iff.mp hfields)).mpr ⟨htexts, hword⟩⟩

/-! ## What a value describes -/

/-- A text is decoded to the type that is read from it. -/
theorem ofValue?_text_eq_some_iff {source : String} :
    ofValue? (.text source) = some type ↔ read source = .ok type := by
  rw [ofValue?]
  cases read source with
  | ok other => simp [Except.toOption]
  | error error => simp [Except.toOption]

/-- A value describes a type, by its text or by the parts of a table. -/
inductive Describes : Value → TypeRef → Prop
  | text {source : String} {type : TypeRef} (h : read source = .ok type) :
    Describes (.text source) type
  | scalar {entries : List (Value × Value)} {kind : ScalarKind} (h : IsForm entries kind.typeName) :
    Describes (.table entries) (.scalar kind)
  | array {entries : List (Value × Value)} {part : Value} {element : TypeRef}
    (h : IsForm entries "array") (hpart : part? entries "element" = some part)
    (helement : Describes part element) : Describes (.table entries) (.array element)
  | mapping {entries : List (Value × Value)} {kind : MapKind} {word : String}
    (hword : word ∈ kind.words) (h : IsForm entries word) {first second : Value} {key value : TypeRef}
    (hfirst : part? entries "key" = some first) (hkey : Describes first key)
    (hsecond : part? entries "value" = some second) (hvalue : Describes second value) :
    Describes (.table entries) (.mapping kind key value)
  | reference {entries : List (Value × Value)} {part : Value} {name : String}
    (h : IsForm entries "reference") (hpart : part? entries "name" = some part)
    (hname : part.text? = some name) : Describes (.table entries) (.reference name)

/-- No scalar is named by a word that another form uses. -/
theorem typeName_not_mem (kind : ScalarKind) :
    kind.typeName ∉ ["array", "mapping", "map", "btree_map", "reference"] := by
  cases kind <;> decide

/-- A form with the name of a scalar is that scalar. -/
theorem ofForm?_typeName (entries : List (Value × Value)) (kind : ScalarKind) :
    ofForm? entries kind.typeName = some (.scalar kind) := by
  have hname := typeName_not_mem kind
  simp only [List.mem_cons, List.not_mem_nil, or_false, not_or] at hname
  simp [ofForm?, hname, ScalarKind.ofTypeName?_typeName]

/-- A form with a word for maps makes a map of its parts. -/
theorem ofForm?_word {kind : MapKind} (hword : word ∈ kind.words) {first second : Value}
    {key value : TypeRef} (hfirst : part? entries "key" = some first)
    (hkey : ofValue? first = some key) (hsecond : part? entries "value" = some second)
    (hvalue : ofValue? second = some value) :
    ofForm? entries word = some (.mapping kind key value) := by
  cases kind with
  | hash =>
    rcases List.mem_pair.mp hword with rfl | rfl <;>
      simp [ofForm?, hfirst, hkey, hsecond, hvalue]
  | ordered =>
    obtain rfl := List.mem_singleton.mp hword
    simp [ofForm?, hfirst, hkey, hsecond, hvalue]

/-- A part of a table is the value of one of its entries. -/
theorem exists_mem_of_part? (h : part? entries name = some part) : ∃ key, (key, part) ∈ entries := by
  obtain ⟨⟨key, _⟩, hfind, rfl⟩ := Option.map_eq_some_iff.mp h
  exact ⟨key, List.mem_reverse.mp (List.mem_of_find?_eq_some hfind)⟩

/-- A part of a table is smaller than the table. -/
theorem sizeOf_part?_lt (h : part? entries name = some part) :
    sizeOf part < sizeOf (Value.table entries) := by
  obtain ⟨key, hmem⟩ := exists_mem_of_part? h
  have hlt := List.sizeOf_lt_of_mem hmem
  simp only [Prod.mk.sizeOf_spec, Value.table.sizeOf_spec] at hlt ⊢
  omega

/-- A value is decoded to the type that it describes. -/
theorem ofValue?_of_describes (h : Describes value type) : ofValue? value = some type := by
  induction h with
  | text h => exact ofValue?_text_eq_some_iff.mpr h
  | scalar h => rw [ofValue?_of_isForm h, ofForm?_typeName]
  | array h hpart _ ih => simp [ofValue?_of_isForm h, ofForm?, hpart, ih]
  | mapping hword h hfirst _ hsecond _ ihKey ihValue =>
    rw [ofValue?_of_isForm h, ofForm?_word hword hfirst ihKey hsecond ihValue]
  | reference h hpart hname => simp [ofValue?_of_isForm h, ofForm?, hpart, hname]

/-- What the parts of a form make up is what the form describes, if the parts are read as what they
describe. -/
theorem describes_of_ofForm? (hform : IsForm entries word)
    (parts : ∀ name part element, part? entries name = some part → ofValue? part = some element →
      Describes part element)
    (h : ofForm? entries word = some type) : Describes (.table entries) type := by
  rw [ofForm?] at h
  split at h
  · rename_i hword
    subst hword
    obtain ⟨element, helement, rfl⟩ := Option.map_eq_some_iff.mp h
    obtain ⟨part, hpart, hread⟩ := Option.bind_eq_some_iff.mp helement
    exact .array hform hpart (parts _ part element hpart hread)
  · split at h
    · rename_i hword
      split at h
      · rename_i key value hkey hvalue
        obtain ⟨first, hfirst, hkey⟩ := Option.bind_eq_some_iff.mp hkey
        obtain ⟨second, hsecond, hvalue⟩ := Option.bind_eq_some_iff.mp hvalue
        cases h
        refine .mapping ?_ hform hfirst (parts _ first key hfirst hkey) hsecond
          (parts _ second value hsecond hvalue)
        rcases hword with rfl | rfl | rfl <;> decide
      · cases h
    · split at h
      · rename_i hword
        subst hword
        obtain ⟨name, hname, rfl⟩ := Option.map_eq_some_iff.mp h
        obtain ⟨part, hpart, htext⟩ := Option.bind_eq_some_iff.mp hname
        exact .reference hform hpart htext
      · obtain ⟨kind, hkind, rfl⟩ := Option.map_eq_some_iff.mp h
        obtain rfl := ScalarKind.typeName_of_ofTypeName? hkind
        exact .scalar hform

/-- A value describes the type that it is decoded to. -/
theorem describes_of_ofValue? : (value : Value) → (type : TypeRef) →
    ofValue? value = some type → Describes value type
  | .text _, _, h => .text (ofValue?_text_eq_some_iff.mp h)
  | .table entries, type, h => by
    -- the parts are smaller than the table, whichever entry is looked up
    obtain ⟨word, hform⟩ := exists_isForm h
    refine describes_of_ofForm? hform (fun name part element hpart hread => ?_)
      (ofValue?_of_isForm hform ▸ h)
    exact describes_of_ofValue? part element hread
  | .null, _, h => by simp [ofValue?] at h
  | .bool _, _, h => by simp [ofValue?] at h
  | .integer _, _, h => by simp [ofValue?] at h
  | .real _, _, h => by simp [ofValue?] at h
  | .list _, _, h => by simp [ofValue?] at h
  | .tagged _ _, _, h => by simp [ofValue?] at h
termination_by value => sizeOf value
decreasing_by exact sizeOf_part?_lt hpart

/-- A value is read as the type that it describes, and as nothing else. -/
theorem ofValue?_eq_some_iff : ofValue? value = some type ↔ Describes value type :=
  ⟨describes_of_ofValue? value type, ofValue?_of_describes⟩

end TypeRef

end Specimen
