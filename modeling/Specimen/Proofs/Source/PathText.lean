import Specimen.Proofs.Source.Reading

/-!
# Reading paths of plain names

The text of a path of plain names reads back as that path (`path?_pathText`), as long as its names are
words that may be steps. The names in a type that has been read from text are such names
(`named_of_type?`), so whatever path such a type refers to can be read again.
-/

namespace Specimen.Source

open Specimen.Text Token

/-- A name that can be read as a step of a path. -/
def IsStep (name : String) : Prop := IsWord name.toList ∧ isStep name = true

/-- The steps of a path of plain names. -/
def plain (names : List String) : List Segment := names.map fun name => .mk name .none

/-- A text is that of a path of plain names. -/
def IsPathText (text : String) : Prop :=
  ∃ leading names, names ≠ [] ∧ (∀ name ∈ names, IsStep name) ∧ text = pathText leading (plain names)

/-- Names make up a path that a type can be. -/
structure IsTypePath (leading : Bool) (names : List String) : Prop where
  ne_nil : names ≠ []
  isStep : ∀ name ∈ names, IsStep name
  headed : Headed leading names

/-- What is known of the names in a type that has been read: with its arguments left out, a path in it
is one that a type can be. -/
theorem isTypePath_of_named {leading : Bool} {segments : List Segment}
    (h : (TypeSyntax.path leading segments).Named fun word => IsWord word.toList) :
    IsTypePath leading (segments.map Segment.name) := by
  obtain ⟨ne, named, headed⟩ := h
  refine ⟨by simpa using ne, ?_, headed⟩
  clear ne headed
  induction segments with
  | nil => simp
  | cons segment rest ih =>
    obtain ⟨hsegment, hrest⟩ := named
    rw [List.map_cons, List.forall_mem_cons]
    cases segment with
    | mk name arguments => exact ⟨hsegment.1, ih hrest⟩

theorem map_name_plain (names : List String) : (plain names).map Segment.name = names := by
  simp [plain, Segment.name, Function.comp_def]

/-- The arguments of a path do not show in its text. -/
theorem pathText_plain (leading : Bool) (segments : List Segment) :
    pathText leading (plain (segments.map Segment.name)) = pathText leading segments := by
  rw [pathText, map_name_plain, pathText]

/-! ## Tokens of the text -/

variable {names : List String}

/-- The characters of names with `::` between them. -/
def stepsText (names : List String) : List Char := [':', ':'].intercalate (names.map String.toList)

/-- The text of a path of plain names is its names with `::` between them. -/
theorem toList_pathText (leading : Bool) (names : List String) :
    (pathText leading (plain names)).toList =
      (if leading then [':', ':'] else []) ++ stepsText names := by
  rw [pathText, map_name_plain, String.toList_append, String.toList_intercalate, stepsText]
  cases leading <;> rfl

theorem exists_start {w : List Char} (h : IsWord w) :
    ∃ c cs, w = c :: cs ∧ isWordStart c = true := by
  cases h with
  | plain start => exact ⟨_, _, rfl, start⟩
  | raw => exact ⟨_, _, rfl, by decide⟩

/-- The text of some names begins with the beginning of a word. -/
theorem exists_start_stepsText (ne : names ≠ []) (h : ∀ name ∈ names, IsStep name) :
    ∃ c cs, stepsText names = c :: cs ∧ isWordStart c = true := by
  obtain ⟨name, rest, rfl⟩ := List.exists_cons_of_ne_nil ne
  obtain ⟨c, cs, hname, start⟩ := exists_start (h name List.mem_cons_self).1
  cases rest with
  | nil => exact ⟨c, cs, by simp [stepsText, hname], start⟩
  | cons other rest =>
    refine ⟨c, cs ++ [':', ':'] ++ stepsText (other :: rest), ?_, start⟩
    simp [stepsText, hname, List.intercalate_cons_cons]

/-- Between two plain names stands `::`. -/
theorem segmentsTokens_plain_cons (name other : String) (rest : List String) :
    segmentsTokens (plain (name :: other :: rest)) =
      .word name :: .mark ':' true :: .mark ':' false ::
        segmentsTokens (plain (other :: rest)) := by
  simp [plain, segmentsTokens, Segment.tokens, Arguments.tokens, colons]

/-- The tokens of some names begin with a name. -/
theorem exists_segmentsTokens_plain (name : String) (rest : List String) :
    ∃ ts, segmentsTokens (plain (name :: rest)) = .word name :: ts := by
  cases rest with
  | nil => exact ⟨[], rfl⟩
  | cons other rest => exact ⟨_, segmentsTokens_plain_cons name other rest⟩

/-- The text of some names begins with no mark. -/
theorem startsMark_stepsText (ne : names ≠ []) (h : ∀ name ∈ names, IsStep name) (rest : List Char) :
    Piece.startsMark (stepsText names ++ rest) = false := by
  obtain ⟨c, cs, htext, start⟩ := exists_start_stepsText ne h
  rw [htext]
  exact startsMark_eq_false start

variable {rest : List Char} {pieces : List Piece}

/-- Names with `::` between them are cut into words and colons, whatever text is behind them that does
not continue the last. -/
theorem lexes_stepsText (ne : names ≠ []) (h : ∀ name ∈ names, IsStep name) (hrest : Lexes rest pieces)
    (ends : Ends rest) :
    Lexes (stepsText names ++ rest) ((segmentsTokens (plain names)).map .leaf ++ pieces) := by
  induction names with
  | nil => exact absurd rfl ne
  | cons name names ih =>
    obtain ⟨hname, hnames⟩ := List.forall_mem_cons.mp h
    cases names with
    | nil =>
      have hword := hrest.word hname.1 ends
      simpa [stepsText, plain, segmentsTokens, Segment.tokens, Arguments.tokens] using hword
    | cons other names =>
      have hsteps := ih (by simp) hnames
      have hmark := startsMark_stepsText (List.cons_ne_nil other names) hnames rest
      have hcolon : Ends (':' :: ':' :: (stepsText (other :: names) ++ rest)) :=
        ends_cons (by decide) (by decide) (by decide) (by decide)
      have hword := (hsteps.colons hmark).word hname.1 hcolon
      have hchars : stepsText (name :: other :: names) =
          name.toList ++ ':' :: ':' :: stepsText (other :: names) := by
        simp [stepsText, List.intercalate_cons_cons]
      rw [segmentsTokens_plain_cons, hchars]
      simpa using hword

/-- The text of a path of plain names is cut into the tokens of the path. -/
theorem lexes_pathText (leading : Bool) (ne : names ≠ []) (h : ∀ name ∈ names, IsStep name)
    (hrest : Lexes rest pieces) (ends : Ends rest) :
    Lexes ((pathText leading (plain names)).toList ++ rest)
      ((Path.tokens ⟨leading, plain names⟩).map .leaf ++ pieces) := by
  have hsteps := lexes_stepsText ne h hrest ends
  rw [toList_pathText, Path.tokens]
  cases leading with
  | false => exact hsteps
  | true => exact hsteps.colons (startsMark_stepsText ne h rest)

/-- What a path begins with is no mark of byte order. -/
theorem toNat_ne_of_start {c : Char} (hc : isWordStart c = true ∨ c = ':') : c.toNat ≠ 0xFEFF := by
  rcases hc with start | rfl
  · intro h
    have hno : isWordPart c = false :=
      @isWordPart_eq_false_of_mem_gap _ (0xFEFF, 0xFEFF) (by decide) (by simp [h])
    exact Bool.noConfusion ((isWordPart_of_isWordStart start).symm.trans hno)
  · decide

/-- The text of a path of plain names begins like a word or with a colon. -/
theorem exists_start_pathText (leading : Bool) (ne : names ≠ []) (h : ∀ name ∈ names, IsStep name) :
    ∃ c cs, (pathText leading (plain names)).toList = c :: cs ∧ (isWordStart c = true ∨ c = ':') := by
  rw [toList_pathText]
  cases leading with
  | false =>
    obtain ⟨c, cs, htext, start⟩ := exists_start_stepsText ne h
    exact ⟨c, cs, htext, .inl start⟩
  | true => exact ⟨':', _, rfl, .inr rfl⟩

/-- The text of a path of plain names has the tokens of the path. -/
theorem lex?_pathText (leading : Bool) (ne : names ≠ []) (h : ∀ name ∈ names, IsStep name) :
    Token.lex? (pathText leading (plain names)).toList =
      some (Path.tokens ⟨leading, plain names⟩) := by
  have hlexes := lexes_pathText leading ne h lexes_nil ends_nil
  rw [List.append_nil, List.append_nil] at hlexes
  refine lex?_of_lexes hlexes ?_
  obtain ⟨c, cs, htext, hc⟩ := exists_start_pathText leading ne h
  rw [htext]
  simpa using toNat_ne_of_start hc

/-! ## Reading the tokens -/

namespace Grammar

variable {constant : Constant}

/-- A word that may be a step is one by itself, or it is a name. -/
theorem isName_of_isStep {word : String} (h : isStep word = true)
    (hother : ¬ (word == "super" || word == "self" || word == "crate" || word == "try") = true) :
    (isIdentifier word || word == "Self") = true := by
  rw [isStep, Bool.or_assoc, Bool.or_eq_true] at h
  exact h.resolve_left hother

/-- A name with no brackets behind it is read as a plain step. -/
theorem segment?_plain {name : String} (hname : isStep name = true) (n : Nat) {ts : List Token}
    (bracket : afterMark? '<' ts = none)
    (turbofish : (afterMarks? ':' ':' ts).bind (afterMark? '<') = none) :
    segment? constant (n + 1) (.word name :: ts) = some (.mk name .none, ts) := by
  rw [segment?]
  split
  · rfl
  · rename_i hother
    have hnone : (if startsMarks '<' '=' ts then none else afterMark? '<' ts) = none := by
      rw [bracket, ite_self]
    rw [if_pos (isName_of_isStep hname hother), hnone, turbofish]

variable {rest : List Token}

/-- Plain names are read as steps, if neither arguments nor further steps follow. -/
theorem segments?_plain (ne : names ≠ []) (h : ∀ name ∈ names, IsStep name) {n : Nat}
    (hn : names.length < n) (bracket : afterMark? '<' rest = none)
    (colons : afterMarks? ':' ':' rest = none) :
    segments? constant n (segmentsTokens (plain names) ++ rest) = some (plain names, rest) := by
  induction names generalizing n with
  | nil => exact absurd rfl ne
  | cons name names ih =>
    obtain ⟨hname, hnames⟩ := List.forall_mem_cons.mp h
    obtain ⟨n, rfl⟩ : ∃ m, n = m + 1 + 1 := ⟨n - 2, by simp at hn; omega⟩
    rw [segments?]
    cases names with
    | nil =>
      have hturbofish : (afterMarks? ':' ':' rest).bind (afterMark? '<') = none := by rw [colons]; rfl
      have hsegment : segment? constant (n + 1) (segmentsTokens (plain [name]) ++ rest) =
          some (.mk name .none, rest) := segment?_plain hname.2 n bracket hturbofish
      rw [hsegment]
      simp only [colons]
      rfl
    | cons other names =>
      have hrest := @ih (by simp) hnames (n + 1) (by simpa using hn)
      obtain ⟨ts, hts⟩ := exists_segmentsTokens_plain other names
      rw [hts, List.cons_append] at hrest
      rw [segmentsTokens_plain_cons, hts]
      simp only [List.cons_append]
      rw [segment?_plain hname.2 n rfl rfl]
      have hcolons : ∀ ts, afterMarks? ':' ':' (.mark ':' true :: .mark ':' false :: ts) = some ts :=
        fun _ => rfl
      simp only [hcolons, startsParen, hrest, Bool.false_eq_true, if_false, Option.map_some]
      rfl

/-- A path of plain names is read as it is, if neither arguments nor further steps follow. -/
theorem path?_plain (leading : Bool) (ne : names ≠ []) (h : ∀ name ∈ names, IsStep name) {n : Nat}
    (hn : names.length + 1 < n) (bracket : afterMark? '<' rest = none)
    (colons : afterMarks? ':' ':' rest = none) :
    path? constant n (Path.tokens ⟨leading, plain names⟩ ++ rest) =
      some (⟨leading, plain names⟩, rest) := by
  obtain ⟨n, rfl⟩ : ∃ m, n = m + 1 := ⟨n - 1, by omega⟩
  have hsegments := @segments?_plain names constant rest ne h n (by omega) bracket colons
  rw [path?]
  cases leading with
  | true =>
    have hcolons : afterMarks? ':' ':' (Path.tokens ⟨true, plain names⟩ ++ rest) =
        some (segmentsTokens (plain names) ++ rest) := rfl
    rw [hcolons]
    simp only [hsegments, Option.map_some]
  | false =>
    have htokens : Path.tokens ⟨false, plain names⟩ = segmentsTokens (plain names) := rfl
    have hnone : afterMarks? ':' ':' (segmentsTokens (plain names) ++ rest) = none := by
      obtain ⟨name, more, rfl⟩ := List.exists_cons_of_ne_nil ne
      obtain ⟨ts, hts⟩ := exists_segmentsTokens_plain name more
      rw [hts]
      rfl
    rw [htokens, hnone]
    simp only [hsegments, Option.map_some]

end Grammar

/-- There is a token for each name. -/
theorem length_le_length_tokens (leading : Bool) (names : List String) :
    names.length ≤ (Path.tokens ⟨leading, plain names⟩).length := by
  have hsteps : names.length ≤ (segmentsTokens (plain names)).length := by
    induction names with
    | nil => exact Nat.zero_le _
    | cons name names ih =>
      cases names with
      | nil => exact Nat.le_refl _
      | cons other rest =>
        rw [segmentsTokens_plain_cons]
        simp only [List.length_cons] at ih ⊢
        omega
  rw [Path.tokens, List.length_append]
  exact Nat.le_trans hsteps (Nat.le_add_left _ _)

/-- The text of a path of plain names reads back as that path. -/
theorem path?_pathText (leading : Bool) (ne : names ≠ []) (h : ∀ name ∈ names, IsStep name) :
    path? (pathText leading (plain names)) = some ⟨leading, plain names⟩ := by
  have hsteps : names.length + 1 < Grammar.stepsFor (Path.tokens ⟨leading, plain names⟩) := by
    have hnames := length_le_length_tokens leading names
    have hcount := length_le_count (Path.tokens ⟨leading, plain names⟩)
    unfold Grammar.stepsFor
    omega
  have hpath := @Grammar.path?_plain names Constant.isConstant [] leading ne h _ hsteps rfl rfl
  rw [List.append_nil] at hpath
  simp only [path?, lex?_pathText leading ne h, hpath]

/-- The paths in a type that has been read from text are made of words that may be steps. -/
theorem named_of_type? {text : String} {type : TypeSyntax} (h : type? text = some type) :
    type.Named fun word => IsWord word.toList := by
  unfold type? at h
  split at h
  · cases h
  · rename_i tokens hlex
    split at h
    · rename_i hread
      cases h
      exact ((Grammar.allKeep _ _ _).type true _ _ _ hread (every_isWord_of_lex? hlex)).2
    · cases h

end Specimen.Source
