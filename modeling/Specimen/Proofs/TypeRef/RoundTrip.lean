import Specimen.Proofs.Source.Brackets
import Specimen.Proofs.Text.Blank
import Specimen.Proofs.TypeRef.Reference

/-!
# Reading the written form of a type

The written form of a type is read as that type again, if the type has been read from text: then its
references are texts of paths that stand for nothing else (`TypeRef.pathed_of_read`).

The argument follows the type. Tokens spell a type when they are read as it wherever it may stand
(`TypeRef.Spells`); there is one rule for each way in which a type is made, and with it goes one for
the text that is cut into these tokens (`TypeRef.exists_spells`). Whether a bracket or a comma is joint
depends on what is behind it, and does not matter.

Main statement: `TypeRef.read_text`.
-/

namespace Specimen.TypeRef

open Specimen.Source Specimen.Source.Grammar Specimen.Text

variable {ts : List Token}

/-! ## What is made of a path -/

/-- A name with arguments means what the name does with what the arguments mean. -/
theorem ofSyntax_angled {name : String} {items : List Argument} {trailing : Bool}
    {arguments : List (Except ReadError TypeRef)} (h : itemTypes? items = some arguments) :
    ofSyntax (.path false [.mk name (.angled false items trailing)]) =
      apply (pathText false [.mk name (.angled false items trailing)]) name arguments := by
  rw [ofSyntax]
  simp [lastArguments?, segmentArguments?, argumentTypes?, h, Segment.name]

/-- A path of plain names has no arguments. -/
theorem lastArguments?_plain (names : List String) : lastArguments? (plain names) = some [] := by
  induction names with
  | nil => rfl
  | cons name names ih =>
    cases names with
    | nil => rfl
    | cons other names => exact ih

/-- A path of plain names means what its last name does without arguments. -/
theorem ofSyntax_plain {leading : Bool} {names : List String} {last : String}
    (h : names.getLast? = some last) :
    ofSyntax (.path leading (plain names)) = apply (pathText leading (plain names)) last [] := by
  have hlast : (plain names).getLast? = some (.mk last .none) := by
    rw [plain, List.getLast?_map, h]
    rfl
  have hplain : ((plain names).dropLast.all fun segment => segment.arguments.isNone) = true := by
    rw [List.all_eq_true]
    intro segment hsegment
    obtain ⟨name, _, rfl⟩ := List.mem_map.mp (List.dropLast_subset _ hsegment)
    rfl
  rw [ofSyntax]
  simp only [hlast, hplain, lastArguments?_plain]
  rfl

/-! ## Tokens that spell a type -/

/-- Tokens are read as a type, on their own and as an argument. A token needs no more than eight
steps. -/
structure Spells (type : TypeRef) (ts : List Token) : Prop where
  begins : Begins ts
  reads : ∀ (constant : Constant) {n : Nat} {rest : List Token}, 8 * ts.length ≤ n → Closes rest →
    ∃ written, type? constant n true (ts ++ rest) = some (written, rest) ∧ ofSyntax written = .ok type

/-- Tokens that are read as a type are read so as an argument. -/
theorem Spells.argument {type : TypeRef} (h : type.Spells ts) (constant : Constant) {n : Nat}
    {rest : List Token} (hn : 8 * ts.length < n) (closes : Closes rest) :
    ∃ written, argument? constant n (ts ++ rest) = some (.type written, rest) ∧
      ofSyntax written = .ok type := by
  obtain ⟨n, rfl⟩ : ∃ m, n = m + 1 := ⟨n - 1, by omega⟩
  obtain ⟨written, hread, hmeans⟩ := h.reads constant (Nat.le_of_lt_succ hn) closes
  exact ⟨written, argument?_of_type? (h.begins.append rest) hread closes, hmeans⟩

/-- Tokens are read as the arguments of a type, up to the bracket that closes them. -/
structure SpellsArguments (types : List TypeRef) (ts : List Token) : Prop where
  begins : Begins ts
  reads : ∀ (constant : Constant) {n : Nat} (rest : List Token), 8 * ts.length ≤ n →
    ∃ items trailing, arguments? constant n (ts ++ rest) = some ((items, trailing), rest) ∧
      itemTypes? items = some (types.map .ok)

/-- A type and the closing bracket are arguments on their own. -/
theorem spellsArguments_last {type : TypeRef} (h : type.Spells ts) (closing : Bool) :
    SpellsArguments [type] (ts ++ [.mark '>' closing]) := by
  refine ⟨h.begins.append _, fun constant n rest hn => ?_⟩
  rw [List.length_append, List.length_singleton] at hn
  obtain ⟨n, rfl⟩ : ∃ m, n = m + 1 := ⟨n - 1, by omega⟩
  have hclosing : Closes (.mark '>' closing :: rest) := .bracket
  obtain ⟨written, hread, hmeans⟩ := h.argument constant (n := n) (by omega) hclosing
  have hitems : itemTypes? [.type written] = some [.ok type] := by rw [← hmeans]; rfl
  rw [List.append_assoc, List.singleton_append]
  exact ⟨_, _, arguments?_last (h.begins.append _) hread, hitems⟩

/-- A type and a comma stand before the types of further arguments. -/
theorem spellsArguments_comma {type : TypeRef} {types : List TypeRef} {us : List Token}
    (h : type.Spells ts) (hrest : SpellsArguments types us) (comma : Bool) :
    SpellsArguments (type :: types) (ts ++ .mark ',' comma :: us) := by
  refine ⟨h.begins.append _, fun constant n rest hn => ?_⟩
  rw [List.length_append, List.length_cons] at hn
  obtain ⟨n, rfl⟩ : ∃ m, n = m + 1 := ⟨n - 1, by omega⟩
  have hcomma : Closes (.mark ',' comma :: (us ++ rest)) := .comma
  obtain ⟨written, hread, hmeans⟩ := h.argument constant (n := n) (by omega) hcomma
  obtain ⟨items, trailing, hreads, htypes⟩ := hrest.reads constant (n := n) rest (by omega)
  have hitems : itemTypes? (.type written :: items) = some (.ok type :: types.map .ok) := by
    rw [itemTypes?, itemType?, htypes, hmeans]
  rw [List.append_assoc, List.cons_append]
  exact ⟨_, _, arguments?_comma (h.begins.append _) hread hreads, hitems⟩

/-- What a name and its arguments stand for is spelled by the name and the arguments in brackets. -/
theorem spells_angled {name : String} {types : List TypeRef} {type : TypeRef}
    (hname : isIdentifier name = true) (h : SpellsArguments types ts) (opening : Bool)
    (means : ∀ path, apply path name (types.map .ok) = .ok type) :
    type.Spells (.word name :: .mark '<' opening :: ts) := by
  refine ⟨.word (startsPath_of_isIdentifier hname), fun constant n rest hn closes => ?_⟩
  rw [List.length_cons, List.length_cons] at hn
  obtain ⟨n, rfl⟩ : ∃ m, n = m + 5 := ⟨n - 5, by omega⟩
  obtain ⟨items, trailing, hreads, htypes⟩ := h.reads constant (n := n) rest (by omega)
  refine ⟨_, type?_angled hname opening (h.begins.append rest) hreads true closes, ?_⟩
  rw [ofSyntax_angled htypes]
  exact means _

/-- A list is spelled by its name and its elements in brackets. -/
theorem spells_array {element : TypeRef} (h : element.Spells ts) (opening closing : Bool) :
    (array element).Spells (.word "Vec" :: .mark '<' opening :: (ts ++ [.mark '>' closing])) :=
  spells_angled (by decide) (spellsArguments_last h closing) opening fun _ => rfl

/-- A map is spelled by its name, with keys and values in brackets. -/
theorem spells_mapping (kind : MapKind) {key value : TypeRef} {us : List Token}
    (hkey : key.Spells ts) (hvalue : value.Spells us) (opening comma closing : Bool) :
    (mapping kind key value).Spells (.word kind.typeName :: .mark '<' opening ::
      (ts ++ .mark ',' comma :: (us ++ [.mark '>' closing]))) := by
  have hname : isIdentifier kind.typeName = true := by cases kind <;> decide
  have harguments := spellsArguments_comma hkey (spellsArguments_last hvalue closing) comma
  exact spells_angled hname harguments opening fun _ => by cases kind <;> rfl

/-- A path of plain names spells the type that it means. -/
theorem spells_path {type : TypeRef} {leading : Bool} {names : List String}
    (hpath : IsTypePath leading names) (means : ofSyntax (.path leading (plain names)) = .ok type) :
    type.Spells (Path.tokens ⟨leading, plain names⟩) := by
  refine ⟨begins_of_isTypePath hpath, fun _ _ _ hn closes => ⟨_, ?_, means⟩⟩
  have hlength := length_le_length_tokens leading names
  have hpos := List.length_pos_of_ne_nil hpath.ne_nil
  exact type?_plain hpath (by omega) true closes

/-! ## Texts that are cut into them -/

theorem isTypePath_typeName (kind : ScalarKind) : IsTypePath false [kind.typeName] := by
  obtain ⟨c, cs, htext, start, parts⟩ : ∃ c cs, kind.typeName.toList = c :: cs ∧
      isWordStart c = true ∧ cs.all isWordPart = true := by
    cases kind <;> exact ⟨_, _, rfl, by decide, by decide⟩
  have hword : IsWord kind.typeName.toList := htext ▸ .plain start (List.all_eq_true.mp parts)
  have hstep : isStep kind.typeName = true := by cases kind <;> decide
  have hstart : startsPath kind.typeName = true := by cases kind <;> decide
  exact ⟨by simp, by simpa using ⟨hword, hstep⟩, .inr ⟨_, rfl, hstart⟩⟩

theorem isWord_vec : IsWord "Vec".toList :=
  .plain (by decide : isWordStart 'V' = true) (List.all_eq_true.mp (by decide))

theorem isWord_mapName (kind : MapKind) : IsWord kind.typeName.toList := by
  cases kind with
  | hash => exact .plain (by decide : isWordStart 'H' = true) (List.all_eq_true.mp (by decide))
  | ordered => exact .plain (by decide : isWordStart 'B' = true) (List.all_eq_true.mp (by decide))

/-- A scalar is spelled by its name, as a path of one step. -/
theorem spells_scalar (kind : ScalarKind) :
    (scalar kind).Spells (Path.tokens ⟨false, plain [kind.typeName]⟩) := by
  refine spells_path (isTypePath_typeName kind) ?_
  have hnamed : named kind.typeName = .scalar kind := by cases kind <;> rfl
  have hlast : [kind.typeName].getLast? = some kind.typeName := rfl
  rw [ofSyntax_plain hlast]
  simp only [apply, hnamed]

/-- A reference is spelled by the path that its text is. -/
theorem spells_reference {path : String} (h : IsReferenceText path) : ∃ leading names,
    IsTypePath leading names ∧ path = pathText leading (plain names) ∧
    (reference path).Spells (Path.tokens ⟨leading, plain names⟩) := by
  obtain ⟨leading, names, hpath, ⟨last, hlast, hother⟩, rfl⟩ := h
  refine ⟨leading, names, hpath, rfl, spells_path hpath ?_⟩
  rw [ofSyntax_plain hlast]
  simp only [apply, hother]

theorem toList_text_array (element : TypeRef) :
    (array element).text.toList = "Vec".toList ++ '<' :: (element.text.toList ++ ['>']) := by
  simp [text, toString, String.toList_append]

/-- The text of a map is its name, with the texts of its keys and values in brackets. -/
theorem toList_text_mapping (kind : MapKind) (key value : TypeRef) :
    (mapping kind key value).text.toList = kind.typeName.toList ++ '<' ::
      (key.text.toList ++ ',' :: ' ' :: (value.text.toList ++ ['>'])) := by
  simp [text, toString, String.toList_append]

/-- Where brackets and commas stand a word ends. -/
theorem ends_bracket {c : Char} {cs : List Char} (h : c ∈ ['<', '>', ',']) : Ends (c :: cs) := by
  have hall : (['<', '>', ','].all fun c =>
      isWordPart c = false ∧ c ≠ '"' ∧ c ≠ '\'' ∧ c ≠ '#') = true := by decide
  obtain ⟨part, quote, tick, hash⟩ := of_decide_eq_true (List.all_eq_true.mp hall c h)
  exact ends_cons part quote tick hash

/-- Whether a bracket or a comma is joint depends on the text behind it. -/
theorem exists_lexes_bracket {c : Char} (h : c ∈ ['<', '>', ',']) {rest : List Char}
    {pieces : List Piece} (hrest : Lexes rest pieces) :
    ∃ joint, Lexes (c :: rest) (.leaf (.mark c joint) :: pieces) := by
  have hall : (['<', '>', ','].all fun c => c ∈ Piece.marks ∧ c ≠ '/') = true := by decide
  obtain ⟨mark, slash⟩ := of_decide_eq_true (List.all_eq_true.mp hall c h)
  exact ⟨_, hrest.mark mark slash⟩

/-- The text of a type is cut into tokens that spell it, whatever is behind it that ends a word. -/
theorem exists_spells {type : TypeRef} (h : type.Pathed) {rest : List Char} {pieces : List Piece}
    (hrest : Lexes rest pieces) (ends : Ends rest) :
    ∃ ts, type.Spells ts ∧ Lexes (type.text.toList ++ rest) (ts.map .leaf ++ pieces) := by
  induction type generalizing rest pieces with
  | scalar kind =>
    refine ⟨_, spells_scalar kind, ?_⟩
    have hpath := isTypePath_typeName kind
    have hlexes := lexes_pathText false hpath.ne_nil hpath.isStep hrest ends
    simpa [text, pathText, plain, Segment.name] using hlexes
  | array element ih =>
    obtain ⟨closing, hclosing⟩ := exists_lexes_bracket (c := '>') (by decide) hrest
    obtain ⟨ts, hspells, hlexes⟩ := ih h hclosing (ends_bracket (by decide))
    obtain ⟨opening, hopening⟩ := exists_lexes_bracket (c := '<') (by decide) hlexes
    refine ⟨_, spells_array hspells opening closing, ?_⟩
    have hword := hopening.word isWord_vec (ends_bracket (by decide))
    simpa [toList_text_array] using hword
  | mapping kind key value ihKey ihValue =>
    have hkey : key.Pathed := fun path hpath => h path (List.mem_append_left _ hpath)
    have hvalue : value.Pathed := fun path hpath => h path (List.mem_append_right _ hpath)
    obtain ⟨closing, hclosing⟩ := exists_lexes_bracket (c := '>') (by decide) hrest
    obtain ⟨us, hspellsValue, hlexesValue⟩ := ihValue hvalue hclosing (ends_bracket (by decide))
    obtain ⟨comma, hcomma⟩ := exists_lexes_bracket (c := ',') (by decide) hlexesValue.blank
    obtain ⟨ts, hspellsKey, hlexesKey⟩ := ihKey hkey hcomma (ends_bracket (by decide))
    obtain ⟨opening, hopening⟩ := exists_lexes_bracket (c := '<') (by decide) hlexesKey
    refine ⟨_, spells_mapping kind hspellsKey hspellsValue opening comma closing, ?_⟩
    have hword := hopening.word (isWord_mapName kind) (ends_bracket (by decide))
    simpa [toList_text_mapping] using hword
  | reference path =>
    obtain ⟨leading, names, hpath, rfl, hspells⟩ := spells_reference (h path List.mem_cons_self)
    exact ⟨_, hspells, lexes_pathText leading hpath.ne_nil hpath.isStep hrest ends⟩

/-! ## Reading the text again -/

/-- The text of a type begins like a word or with a colon. -/
theorem exists_start_text {type : TypeRef} (h : type.Pathed) :
    ∃ c cs, type.text.toList = c :: cs ∧ (isWordStart c = true ∨ c = ':') := by
  have hword : ∀ {w : List Char} (rest : List Char), IsWord w →
      ∃ c cs, w ++ rest = c :: cs ∧ (isWordStart c = true ∨ c = ':') := by
    intro w rest hw
    obtain ⟨c, cs, rfl, start⟩ := exists_start hw
    exact ⟨c, cs ++ rest, rfl, .inl start⟩
  cases type with
  | scalar kind =>
    have hpath := isTypePath_typeName kind
    have hstart := exists_start_pathText false hpath.ne_nil hpath.isStep
    simpa [text, pathText, plain, Segment.name] using hstart
  | array element =>
    rw [toList_text_array]
    exact hword _ isWord_vec
  | mapping kind key value =>
    rw [toList_text_mapping]
    exact hword _ (isWord_mapName kind)
  | reference path =>
    obtain ⟨leading, names, hpath, rfl, _⟩ := spells_reference (h path List.mem_cons_self)
    exact exists_start_pathText leading hpath.ne_nil hpath.isStep

/-- The text of a type whose references are texts of paths is read as the type. -/
theorem read_text_of_pathed {type : TypeRef} (h : type.Pathed) : read type.text = .ok type := by
  obtain ⟨c, cs, htext, hc⟩ := exists_start_text h
  have hblank : isBlank c = false := by
    rcases hc with start | rfl
    · exact isBlank_eq_false_of_isWordStart start
    · decide
  obtain ⟨ts, hspells, hlexes⟩ := exists_spells h lexes_nil ends_nil
  rw [List.append_nil, List.append_nil] at hlexes
  have hlex : Token.lex? type.text.toList = some ts :=
    lex?_of_lexes hlexes (by rw [htext]; simpa using toNat_ne_of_start hc)
  have hsteps : 8 * ts.length ≤ stepsFor ts := by
    have hcount := Token.length_le_count ts
    unfold stepsFor
    omega
  obtain ⟨written, hread, hmeans⟩ := hspells.reads Constant.isConstant hsteps .nil
  rw [List.append_nil] at hread
  have hnonempty : (trim type.text.toList).isEmpty = false := by
    rw [htext]
    simpa using trim_ne_nil hblank
  simp only [read, hnonempty, Source.type?, hlex, hread]
  exact hmeans

/-- The written form of a type that has been read from text is read as that type, so it is a normal
form: it is what it is read as, written. -/
theorem read_text {text : String} {type : TypeRef} (h : read text = .ok type) :
    read type.text = .ok type ∧ (read type.text).map TypeRef.text = .ok type.text := by
  have hread := read_text_of_pathed (pathed_of_read h)
  exact ⟨hread, by rw [hread]; rfl⟩

/-- A qualification in front of a map is lost in its text, and so are empty brackets. -/
theorem read_text_path :
    read "std::HashMap<DateTime, ::a::r#type<>>" =
      .ok (mapping .hash (scalar .dateTime) (reference "::a::r#type")) ∧
    read "HashMap<DateTime, ::a::r#type>" =
      .ok (mapping .hash (scalar .dateTime) (reference "::a::r#type")) := by
  have hread : read "std::HashMap<DateTime, ::a::r#type<>>" =
      .ok (mapping .hash (scalar .dateTime) (reference "::a::r#type")) := by decide +kernel
  have htext : (mapping .hash (scalar .dateTime) (reference "::a::r#type")).text =
      "HashMap<DateTime, ::a::r#type>" := by decide +kernel
  exact ⟨hread, htext ▸ (read_text hread).1⟩

end Specimen.TypeRef
