import Specimen.Command
import Specimen.Proofs.Category.Token
import Specimen.Proofs.Shape.Extraction
import Specimen.Proofs.TypeRef.RoundTrip
import Specimen.Proofs.Yaml.Value

/-!
# Reading shapes again

A shape is written as a tree of tables, and what is left out of a table is restored when it is read.
So a shape is read as it was written, provided that the types in it are: their text has to lead back
to them (`Shape.Legible`). In the shape of a declaration all types have been read from text, and such
types are legible (`Shape.legible_of_shape`).

Between writing and reading, a document holds the tree. All that is asked of the reader of documents
is that it gives the tree that was written.

Main statement: `Shape.encoding`.
-/

namespace Specimen

open Yaml (Value)

/-! ## Tables and lists -/

/-- The fields of a record are those that it was made of. -/
theorem recordFields?_record (order : List String) (fields : List (String × Value)) :
    recordFields? order (.record fields) = some fields := by
  unfold recordFields? Value.record
  dsimp only
  induction fields with
  | nil => rfl
  | cons field fields ih => simp [ih]

/-- Items are read again as what they were written for, if each of them is. -/
theorem listItems?_map {α : Type} {read? : Value → Option α} {write : α → Value} {items : List α}
    (h : ∀ item ∈ items, read? (write item) = some item) :
    listItems? read? (.list (items.map write)) = some items := by
  unfold listItems?
  dsimp only
  induction items with
  | nil => rfl
  | cons item items ih =>
    obtain ⟨hitem, hitems⟩ := List.forall_mem_cons.mp h
    simp [hitem, ih hitems]

theorem isTree_map {α : Type} {write : α → Value} {items : List α}
    (h : ∀ item ∈ items, (write item).IsTree) : (Value.list (items.map write)).IsTree := by
  refine .list fun value hvalue => ?_
  obtain ⟨item, hitem, rfl⟩ := List.mem_map.mp hvalue
  exact h item hitem

/-! ## Parameters -/

namespace Parameter

/-- The text of the type leads back to it. -/
def Legible (p : Parameter) : Prop := TypeRef.read p.type.text = .ok p.type

/-- A parameter is read back as it was written, if the text of its type leads back to it. -/
theorem ofValue?_toValue {p : Parameter} (h : p.Legible) : ofValue? p.toValue = some p := by
  have htype : TypeRef.ofValue? (.text p.type.text) = some p.type := by
    rw [TypeRef.ofValue?, h]
    rfl
  have hcategory : ∀ category : Category, (Category.read category.token).toOption = some category :=
    fun category => by rw [category.read_token]; rfl
  obtain ⟨name, type, category⟩ := p
  rw [ofValue?, toValue, recordFields?_record]
  cases name <;> cases category <;>
    simp [maybeField?, List.lookup_cons, htype, hcategory]

/-- A parameter is written as a tree. -/
theorem isTree_toValue (p : Parameter) : p.toValue.IsTree := by
  obtain ⟨name, type, category⟩ := p
  cases name <;> cases category <;> exact .record (by simp) (by simp [Value.IsTree.text])

end Parameter

/-! ## Cases and constructions -/

/-- A case is read back as it was written, if the texts of its types lead back to them. -/
theorem CaseShape.ofValue?_toValue {c : CaseShape} (h : ∀ p ∈ c.payload, p.Legible) :
    ofValue? c.toValue = some c := by
  have hpayload : listItems? Parameter.ofValue? (.list (c.payload.map Parameter.toValue)) =
      some c.payload := listItems?_map fun p hp => Parameter.ofValue?_toValue (h p hp)
  obtain ⟨name, _ | ⟨p, payload⟩⟩ := c
  · rfl
  · rw [ofValue?, toValue, recordFields?_record]
    generalize Value.list ((p :: payload).map Parameter.toValue) = value at hpayload
    simp [textField?, List.lookup_cons, hpayload]

/-- A case is written as a tree. -/
theorem CaseShape.isTree_toValue (c : CaseShape) : c.toValue.IsTree := by
  have hpayload : (Value.list (c.payload.map Parameter.toValue)).IsTree :=
    isTree_map fun p _ => p.isTree_toValue
  obtain ⟨name, _ | ⟨p, payload⟩⟩ := c
  · exact .record (by simp) (by simp [Value.IsTree.text])
  · refine .record (by simp) ?_
    simpa [Value.IsTree.text] using hpayload

/-- The source of samples is read back as it was written. -/
theorem Construction.ofValue?_toValue (source : Construction) :
    ofValue? source.toValue = some source := by
  cases source with
  | constructor name =>
    simp [ofValue?, toValue, recordFields?_record, textField?, List.lookup_cons]
  | fields tuple =>
    simp [ofValue?, toValue, recordFields?_record, textField?, List.lookup_cons]

/-- The source of samples is written as a tree. -/
theorem Construction.isTree_toValue (source : Construction) : source.toValue.IsTree := by
  cases source with
  | constructor name => exact .record (by simp) (by simp [Value.IsTree.text])
  | fields tuple => exact .record (by simp) (by simp [Value.IsTree.text, Value.IsTree.bool])

/-! ## Shapes -/

namespace Shape

/-- The text of every type in a shape leads back to it. -/
def Legible (shape : Shape) : Prop := ∀ p ∈ shape.parameters, p.Legible

/-- A shape is read back as it was written, if the texts of its types lead back to them. -/
theorem ofValue?_toValue {shape : Shape} (h : shape.Legible) :
    ofValue? shape.toValue = some shape := by
  cases shape with
  | struct name source parameters =>
    have hparameters : listItems? Parameter.ofValue? (.list (parameters.map Parameter.toValue)) =
        some parameters := listItems?_map fun p hp => Parameter.ofValue?_toValue (h p hp)
    rw [ofValue?, structOfValue?, toValue, recordFields?_record]
    simp [textField?, List.lookup_cons, source.ofValue?_toValue, hparameters]
  | enum name cases =>
    have hcases : listItems? CaseShape.ofValue? (.list (cases.map CaseShape.toValue)) =
        some cases := listItems?_map fun c hc => CaseShape.ofValue?_toValue fun p hp =>
      h p (List.mem_flatMap.mpr ⟨c, hc, hp⟩)
    rw [ofValue?, structOfValue?, enumOfValue?, toValue, recordFields?_record, recordFields?_record]
    simp [textField?, List.lookup_cons, hcases]

/-- A shape is written as a tree. -/
theorem isTree_toValue (shape : Shape) : shape.toValue.IsTree := by
  cases shape with
  | struct name source parameters =>
    have hparameters : (Value.list (parameters.map Parameter.toValue)).IsTree :=
      isTree_map fun p _ => p.isTree_toValue
    refine .record (by simp) ?_
    simpa [Value.IsTree.text, source.isTree_toValue] using hparameters
  | enum name cases =>
    have hcases : (Value.list (cases.map CaseShape.toValue)).IsTree :=
      isTree_map fun c _ => c.isTree_toValue
    refine .record (by simp) ?_
    simpa [Value.IsTree.text] using hcases

/-- The types in the shape of a declaration have been read from text, so they are read again. -/
theorem legible_of_shape {d : Declaration} {shape : Shape} (h : d.shape = .ok shape) :
    shape.Legible := by
  intro p hp
  obtain ⟨text, hread⟩ := (Declaration.shaped_of_shape h).exists_read p hp
  exact TypeRef.read_text_of_pathed (TypeRef.pathed_of_read hread)

end Shape

/-! ## Listings -/

namespace Listing

/-- What is listed are shapes of declarations. -/
theorem exists_of_mem_shapes {ds : List Declaration} {shape : Shape}
    (h : shape ∈ (ofDeclarations ds).shapes) : ∃ d ∈ ds, d.shape = .ok shape := by
  induction ds with
  | nil => exact absurd h List.not_mem_nil
  | cons d ds ih =>
    have hrest : shape ∈ (ofDeclarations ds).shapes → ∃ e ∈ d :: ds, e.shape = .ok shape := by
      intro hmem
      obtain ⟨e, he, heq⟩ := ih hmem
      exact ⟨e, List.mem_cons_of_mem _ he, heq⟩
    rw [ofDeclarations] at h
    split at h
    · rename_i own hown
      rcases List.mem_cons.mp h with rfl | h
      · unfold entry at hown
        cases hshape : d.shape with
        | error error => rw [hshape] at hown; cases hown
        | ok other =>
          rw [hshape] at hown
          cases hown
          exact ⟨d, List.mem_cons_self, hshape⟩
      · exact hrest h
    · exact hrest h

/-- The types of all shapes of a listing lead back to themselves. -/
theorem legible_of_mem_shapes {schema : Schema} {type : Option String} {listing : Listing}
    (h : ofSchema schema type = .ok listing) {shape : Shape} (hshape : shape ∈ listing.shapes) :
    shape.Legible := by
  cases type with
  | none =>
    obtain rfl := Except.ok.inj h
    obtain ⟨d, _, hd⟩ := exists_of_mem_shapes hshape
    exact Shape.legible_of_shape hd
  | some type =>
    obtain ⟨declaration, _, rfl⟩ := map_eq_ok_iff.mp h
    obtain ⟨d, _, hd⟩ := exists_of_mem_shapes hshape
    exact Shape.legible_of_shape hd

/-- The value that the document of a listing says. -/
def toValue (listing : Listing) : Value := .list (listing.shapes.map Shape.toValue)

/-- Reads the shapes of a listing. -/
def shapesOfValue? (value : Value) : Option (List Shape) := listItems? Shape.ofValue? value

end Listing

/-! ## Documents -/

namespace Shape

/-- The shape of a declaration is written as a tree that is read as the shape, and so are the shapes
that the command lists. A reader of documents that gives the tree that was written therefore gives
back the shapes from their documents. -/
theorem encoding (reread : String → Option Value) :
    (∀ (d : Declaration) (shape : Shape), d.shape = .ok shape →
      shape.toValue.IsTree ∧ ofValue? shape.toValue = some shape ∧
      (reread shape.toValue.document = some shape.toValue →
        (reread shape.toValue.document).bind ofValue? = some shape)) ∧
    ∀ (schema : Schema) (type : Option String) (listing : Listing),
      Listing.ofSchema schema type = .ok listing →
      (Command.runShape schema type).output = listing.toValue.document ∧ listing.toValue.IsTree ∧
      Listing.shapesOfValue? listing.toValue = some listing.shapes ∧
      (reread listing.toValue.document = some listing.toValue →
        (reread listing.toValue.document).bind Listing.shapesOfValue? = some listing.shapes) := by
  refine ⟨fun d shape hshape => ?_, fun schema type listing hlisting => ?_⟩
  · have hread := ofValue?_toValue (legible_of_shape hshape)
    refine ⟨shape.isTree_toValue, hread, fun hdocument => ?_⟩
    rw [hdocument, Option.bind_some, hread]
  · have hread : Listing.shapesOfValue? listing.toValue = some listing.shapes :=
      listItems?_map fun shape hshape =>
        ofValue?_toValue (Listing.legible_of_mem_shapes hlisting hshape)
    refine ⟨?_, isTree_map fun shape _ => shape.isTree_toValue, hread, fun hdocument => ?_⟩
    · rw [Command.runShape, hlisting]
      rfl
    · rw [hdocument, Option.bind_some, hread]

/-- A photo has an address of a certain size; the pages of an album have no type. -/
def gallery : Schema where
  types := [
    { kind := .struct, name := "Photo"
      members := [
        { name := "url", type := "net::Url<>", category := "image(width: 64, height: +48)" }]
      sample := { count := 1 } },
    { kind := .struct, name := "Album", members := [{ name := "pages", type := "&Page" }]
      sample := { count := 1 } }]
  distinct := by decide

/-- The value that a document says. -/
def said? (text : String) : Option Value := (Yaml.Node.read? text).bind Yaml.Node.value?

/-- What can be listed of the gallery comes back from the document; albums have no shape. -/
theorem encoding_gallery :
    ∃ listing, Listing.ofSchema gallery none = .ok listing ∧
      said? listing.toValue.document = some listing.toValue ∧
      (said? (Command.runShape gallery none).output).bind Listing.shapesOfValue? = some [
        .struct "Photo" (.fields false) [⟨some "url", .scalar .url, some (.image 64 48)⟩]] := by
  have hsaid : said? (Listing.ofDeclarations gallery.types).toValue.document =
      some (Listing.ofDeclarations gallery.types).toValue :=
    Value.eq_some_of_any_equals (by decide +kernel)
  obtain ⟨houtput, _, _, hread⟩ := (encoding said?).2 gallery none _ rfl
  refine ⟨_, rfl, hsaid, ?_⟩
  rw [houtput, hread hsaid]
  decide +kernel

end Shape

end Specimen
