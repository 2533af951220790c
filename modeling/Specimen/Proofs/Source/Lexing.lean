import Specimen.Proofs.Text.Word
import Specimen.Source.Lexer

/-!
# Words as source text

A word that has been cut from a text is plain or raw (`IsWord`), and such a word is cut off as it is
wherever it stands, as long as what follows does not continue it (`leaf?_word`). No literal, no comment
and no bracket begins where a word does.

`Lexes` says that a text is cut into given pieces, whatever number of steps is allowed beyond its
length. Its rules put texts together from the front: `Lexes.word` and `Lexes.colons` are enough for the
text of a path, `Lexes.mark` and `Lexes.blank` add the brackets and commas of a type.
-/

namespace Specimen.Source

open Specimen.Text Piece

/-- A word as it is cut from a text. -/
inductive IsWord : List Char → Prop
  | plain {c : Char} {cs : List Char} (start : isWordStart c = true)
      (parts : ∀ d ∈ cs, isWordPart d = true) : IsWord (c :: cs)
  | raw {c : Char} {cs : List Char} (start : isWordStart c = true)
      (parts : ∀ d ∈ cs, isWordPart d = true)
      (free : isReservedRaw (String.ofList (c :: cs)) = false) : IsWord ('r' :: '#' :: c :: cs)

variable {c : Char} {cs rest w : List Char}

/-! ## Where a word stands -/

/-- A text inside or behind a word: parts of words, and then something that neither continues a word
nor makes the word the beginning of a literal. -/
inductive Open : List Char → Prop
  | nil : Open []
  | stop {c : Char} {cs : List Char} (part : isWordPart c = false) (quote : c ≠ '"')
      (apostrophe : c ≠ '\'') (fence : c ≠ '#') : Open (c :: cs)
  | part {c : Char} {cs : List Char} (part : isWordPart c = true) (rest : Open cs) : Open (c :: cs)

/-- The text behind a word that ends there. -/
def Ends (cs : List Char) : Prop := Open cs ∧ ∀ c ∈ cs.head?, isWordPart c = false

theorem ends_nil : Ends [] := ⟨.nil, by simp⟩

/-- A word ends before a character that is no part of it and begins no literal. -/
theorem ends_cons (part : isWordPart c = false) (quote : c ≠ '"') (apostrophe : c ≠ '\'')
    (fence : c ≠ '#') : Ends (c :: cs) :=
  ⟨.stop part quote apostrophe fence, by simpa using part⟩

theorem Open.append (parts : ∀ d ∈ cs, isWordPart d = true) (h : Open rest) : Open (cs ++ rest) := by
  induction cs with
  | nil => exact h
  | cons d cs ih =>
    obtain ⟨hd, hcs⟩ := List.forall_mem_cons.mp parts
    exact .part hd (ih hcs)

/-- An open text does not begin with what would make a literal of the word before it. -/
theorem Open.head (h : Open (c :: cs)) : c ≠ '"' ∧ c ≠ '\'' ∧ c ≠ '#' := by
  cases h with
  | stop _ quote apostrophe fence => exact ⟨quote, apostrophe, fence⟩
  | part part =>
    exact ⟨ne_of_isWordPart part (by decide), ne_of_isWordPart part (by decide),
      ne_of_isWordPart part (by decide)⟩

/-- An open text stays open without a part of a word in front. -/
theorem Open.tail (h : Open (c :: cs)) (part : isWordPart c = true) : Open cs := by
  cases h with
  | stop hpart => exact Bool.noConfusion (part.symm.trans hpart)
  | part _ rest => exact rest

/-! ## No literal begins with a word -/

/-- An open text begins no raw literal. -/
theorem afterRaw?_eq_none {kind : Literal.Kind} (h : Open cs) : Literal.afterRaw? kind cs = none := by
  cases cs with
  | nil => rfl
  | cons c cs =>
    obtain ⟨quote, _, fence⟩ := h.head
    have hfence : (c == '#') = false := beq_eq_false_iff_ne.mpr fence
    simp only [Literal.afterRaw?, List.dropWhile_cons, hfence, Bool.false_eq_true, if_false]
    split
    · rename_i heq
      exact absurd (List.cons.inj heq).1 quote
    · rfl

/-- A word that is written raw is no raw literal. -/
theorem afterRaw?_fence {kind : Literal.Kind} (start : isWordStart c = true) :
    Literal.afterRaw? kind ('#' :: c :: cs) = none := by
  have hfence : (c == '#') = false := beq_eq_false_iff_ne.mpr (ne_of_isWordStart start (by decide))
  simp only [Literal.afterRaw?, List.dropWhile_cons, beq_self_eq_true, if_true, hfence,
    Bool.false_eq_true, if_false]
  split
  · rename_i heq
    exact absurd (List.cons.inj heq).1 (ne_of_isWordStart start (by decide))
  · rfl

theorem isDigit_eq_false (start : isWordStart c = true) : c.isDigit = false := by
  rw [Bool.eq_false_iff]
  intro hdigit
  have hrange : 0x30 ≤ c.toNat ∧ c.toNat ≤ 0x39 := by
    simpa [Char.isDigit, UInt32.le_iff_toNat_le] using hdigit
  have hascii : c.toNat < 0x80 := by omega
  simp only [isWordStart, if_pos hascii] at start
  simp at start
  omega

/-- A character that is no digit has no value in base ten. -/
theorem digitValue?_ten (digit : c.isDigit = false) : digitValue? 10 c = none := by
  have hrange : ¬ (0x30 ≤ c.toNat ∧ c.toNat ≤ 0x39) := by
    simpa [Char.isDigit, UInt32.le_iff_toNat_le] using digit
  simp only [digitValue?, if_neg hrange]
  split
  · simp
  · split <;> simp

/-- No number begins without a digit. -/
theorem after?_of_afterQuoted? (digit : c.isDigit = false)
    (h : Literal.afterQuoted? (c :: cs) = none) : Literal.after? (c :: cs) = none := by
  have hfraction : Literal.afterFraction? (c :: cs) = none := by
    simp [Literal.afterFraction?, Literal.isDigit, digit]
  have hdigits : Literal.afterDigits? 10 true (c :: cs) = none := by
    simp [Literal.afterDigits?, digitValue?_ten digit]
  have hinteger : Literal.afterInteger? (c :: cs) = none := by
    unfold Literal.afterInteger?
    rw [Option.bind_eq_none_iff]
    split
    · simp_all
    · simp_all
    · simp_all
    · simp [hdigits]
  simp only [Literal.after?, h, hfraction, hinteger]

/-- A word that is open begins no literal. -/
theorem after?_plain (start : isWordStart c = true) (h : Open cs) :
    Literal.after? (c :: cs) = none := by
  refine after?_of_afterQuoted? (isDigit_eq_false start) ?_
  unfold Literal.afterQuoted?
  rw [Option.map_eq_none_iff]
  split <;> rename_i heq
  · exact absurd (List.cons.inj heq).1 (ne_of_isWordStart start (by decide))
  · obtain ⟨rfl, rfl⟩ := List.cons.inj heq
    exact afterRaw?_eq_none h
  · obtain ⟨rfl, rfl⟩ := List.cons.inj heq
    exact absurd rfl h.head.1
  · obtain ⟨rfl, rfl⟩ := List.cons.inj heq
    exact afterRaw?_eq_none (h.tail (by decide))
  · obtain ⟨rfl, rfl⟩ := List.cons.inj heq
    exact absurd rfl h.head.1
  · obtain ⟨rfl, rfl⟩ := List.cons.inj heq
    exact afterRaw?_eq_none (h.tail (by decide))
  · obtain ⟨rfl, rfl⟩ := List.cons.inj heq
    exact absurd rfl h.head.2.1
  · exact absurd (List.cons.inj heq).1 (ne_of_isWordStart start (by decide))
  · rfl

theorem after?_raw (start : isWordStart c = true) : Literal.after? ('r' :: '#' :: c :: cs) = none := by
  refine after?_of_afterQuoted? (by decide) ?_
  simp only [Literal.afterQuoted?, afterRaw?_fence start, Option.map_none]

/-! ## Words -/

/-- A word begins with no mark. -/
theorem startsMark_eq_false (start : isWordStart c = true) : startsMark (c :: cs) = false := by
  have hmarks : c ∉ '\'' :: marks := not_mem_of_all_not start (by decide)
  unfold startsMark
  split
  · rfl
  · rfl
  · rename_i heq
    obtain ⟨rfl, rfl⟩ := List.cons.inj heq
    simp only [Bool.or_eq_false_iff, beq_eq_false_iff_ne]
    rw [List.mem_cons, not_or] at hmarks
    refine ⟨?_, hmarks.1⟩
    rw [Bool.eq_false_iff]
    exact fun hmem => hmarks.2 (List.contains_iff_mem.mp hmem)
  · rfl

/-- A word that is open has no prefix of a literal. -/
theorem startsPrefixed_plain (start : isWordStart c = true) (h : Open cs) :
    startsPrefixed (c :: cs) = false := by
  unfold startsPrefixed
  split <;> try rfl
  all_goals
    rename_i heq
    obtain ⟨rfl, rfl⟩ := List.cons.inj heq
  · exact absurd rfl h.head.1
  · exact absurd rfl h.head.2.2
  · exact absurd rfl h.head.2.2
  · exact absurd rfl h.head.1
  · exact absurd rfl h.head.2.1
  · exact absurd rfl (h.tail (by decide)).head.1
  · exact absurd rfl (h.tail (by decide)).head.2.2
  · exact absurd rfl h.head.1
  · exact absurd rfl (h.tail (by decide)).head.1
  · exact absurd rfl (h.tail (by decide)).head.2.2

theorem startsPrefixed_raw (start : isWordStart c = true) :
    startsPrefixed ('r' :: '#' :: c :: cs) = false := by
  have hquote : c ≠ '"' := ne_of_isWordStart start (by decide)
  have hfence : c ≠ '#' := ne_of_isWordStart start (by decide)
  unfold startsPrefixed
  split <;> simp_all

/-- A word is read as it is, as far as it goes. -/
theorem identifier?_plain (start : isWordStart c = true) (parts : ∀ d ∈ cs, isWordPart d = true)
    (h : Ends rest) :
    identifier? (c :: cs ++ rest) = some (String.ofList (c :: cs), rest) := by
  have htake := takeWord?_append start parts h.2
  have hopen : Open (cs ++ rest) := h.1.append parts
  rw [List.cons_append] at htake ⊢
  unfold identifier?
  split
  · rename_i heq
    obtain ⟨rfl, hcs⟩ := List.cons.inj heq
    rw [hcs] at hopen
    exact absurd rfl hopen.head.2.2
  · rw [htake]

/-- A raw identifier is read as it is, as far as it goes. -/
theorem identifier?_raw (start : isWordStart c = true) (parts : ∀ d ∈ cs, isWordPart d = true)
    (free : isReservedRaw (String.ofList (c :: cs)) = false) (h : Ends rest) :
    identifier? ('r' :: '#' :: c :: cs ++ rest) =
      some (String.ofList ('r' :: '#' :: c :: cs), rest) := by
  have htake := takeWord?_append start parts h.2
  rw [List.cons_append] at htake
  simp only [List.cons_append, identifier?, htake, free, Bool.false_eq_true, if_false]

/-- A word that ends where it should is cut off as it is. -/
theorem leaf?_word (hword : IsWord w) (h : Ends rest) :
    leaf? (w ++ rest) = some (.word (String.ofList w), rest) := by
  cases hword with
  | @plain c cs start parts =>
    have hopen : Open (cs ++ rest) := h.1.append parts
    have hident := identifier?_plain start parts h
    rw [List.cons_append] at hident ⊢
    unfold leaf?
    rw [after?_plain start hopen]
    dsimp only
    split
    · rename_i heq
      exact absurd heq (by simp)
    · rename_i heq
      exact absurd (List.cons.inj heq).1 (ne_of_isWordStart start (by decide))
    · rename_i heq
      obtain ⟨rfl, rfl⟩ := List.cons.inj heq
      simp only [startsMark_eq_false start, startsPrefixed_plain start hopen, Bool.false_eq_true,
        if_false, hident, Option.map_some]
  | @raw c cs start parts free =>
    have hident := identifier?_raw start parts free h
    simp only [List.cons_append] at hident ⊢
    unfold leaf?
    rw [after?_raw start]
    simp only [startsMark_eq_false (by decide : isWordStart 'r' = true), startsPrefixed_raw start,
      Bool.false_eq_true, if_false, hident, Option.map_some]
    rfl

/-- A mark is cut off by itself, unless it might begin a comment. -/
theorem leaf?_mark (mark : c ∈ marks) (slash : c ≠ '/') :
    leaf? (c :: rest) = some (.mark c (startsMark rest), rest) := by
  have hmarks : (marks.all fun d =>
      !d.isDigit && !(['"', 'r', 'b', 'c', '\''].contains d)) = true := by decide
  have hfree := List.all_eq_true.mp hmarks c mark
  simp only [Bool.and_eq_true, Bool.not_eq_true', List.contains_eq_mem, decide_eq_false_iff_not]
    at hfree
  obtain ⟨hdigit, hc⟩ := hfree
  have hafter : Literal.after? (c :: rest) = none := by
    refine after?_of_afterQuoted? hdigit ?_
    unfold Literal.afterQuoted?
    rw [Option.map_eq_none_iff]
    split <;> simp_all
  have hmark : startsMark (c :: rest) = true := by
    unfold startsMark
    split <;> simp_all
  unfold leaf?
  rw [hafter]
  dsimp only
  split <;> simp_all

/-! ## Texts -/

/-- A character that begins a token: no gap, no comment and no bracket. -/
structure BeginsLeaf (c : Char) : Prop where
  gap : isGap c = false
  slash : c ≠ '/'
  bracket : c ∉ ['(', '[', '\x7b', ')', ']', '\x7d']

theorem dropGaps_cons (h : BeginsLeaf c) (fuel : Nat) : dropGaps fuel (c :: cs) = c :: cs := by
  cases fuel with
  | zero => rfl
  | succ fuel =>
    have hslash := h.slash
    have hgap := h.gap
    unfold dropGaps
    split <;> simp_all

/-- Where a token begins no documentation does. -/
theorem documentation?_cons (h : BeginsLeaf c) : documentation? (c :: cs) = none := by
  have hslash := h.slash
  unfold documentation?
  split <;> simp_all

/-- Where a token begins, it is cut off first. -/
theorem lex?_cons (h : BeginsLeaf c) {token : Token} (leaf : leaf? (c :: cs) = some (token, rest))
    (fuel : Nat) : Piece.lex? (fuel + 1) (c :: cs) = (Piece.lex? fuel rest).map (.leaf token :: ·) := by
  have hbracket := h.bracket
  simp only [Piece.lex?, dropGaps_cons h, documentation?_cons h]
  split <;> simp_all

/-- The first character of a word begins a token. -/
theorem beginsLeaf_of_isWordStart (start : isWordStart c = true) : BeginsLeaf c where
  gap := by
    have hpart := isWordPart_of_isWordStart start
    rw [Bool.eq_false_iff]
    intro hgap
    rw [isGap, Bool.or_eq_true, Bool.or_eq_true, beq_iff_eq, beq_iff_eq] at hgap
    have hno : isWordPart c = false := by
      rcases hgap with (hblank | hmark) | hmark
      · exact isWordPart_eq_false_of_isBlank hblank
      · exact @isWordPart_eq_false_of_mem_gap _ (0x200E, 0x200F) (by decide) (by simp [hmark])
      · exact @isWordPart_eq_false_of_mem_gap _ (0x200E, 0x200F) (by decide) (by simp [hmark])
    exact Bool.noConfusion (hpart.symm.trans hno)
  slash := ne_of_isWordStart start (by decide)
  bracket := not_mem_of_all_not start (by decide)

/-- A text is cut into pieces. Its length is a bound on the number of steps. -/
def Lexes (cs : List Char) (pieces : List Piece) : Prop :=
  ∀ fuel, cs.length < fuel → Piece.lex? fuel cs = some pieces

theorem lexes_nil : Lexes [] [] := by
  intro fuel hfuel
  obtain ⟨n, rfl⟩ := Nat.exists_eq_add_of_lt hfuel
  rfl

/-- A token that is read in front stands before the pieces of the rest. -/
theorem Lexes.leaf {pieces : List Piece} {token : Token} (h : Lexes rest pieces) (hc : BeginsLeaf c)
    (leaf : leaf? (c :: cs) = some (token, rest)) (length : rest.length ≤ cs.length) :
    Lexes (c :: cs) (.leaf token :: pieces) := by
  intro fuel hfuel
  cases fuel with
  | zero => exact absurd hfuel (Nat.not_lt_zero _)
  | succ fuel =>
    have hrest := h fuel (by rw [List.length_cons] at hfuel; omega)
    rw [lex?_cons hc leaf, hrest, Option.map_some]

/-- A word in front of a text that does not continue it. -/
theorem Lexes.word {pieces : List Piece} (h : Lexes rest pieces) (hword : IsWord w)
    (ends : Ends rest) : Lexes (w ++ rest) (.leaf (.word (String.ofList w)) :: pieces) := by
  have hleaf := leaf?_word hword ends
  cases hword with
  | plain start => exact h.leaf (beginsLeaf_of_isWordStart start) hleaf (by simp)
  | raw =>
    refine h.leaf (beginsLeaf_of_isWordStart (by decide : isWordStart 'r' = true)) hleaf ?_
    simp
    omega

theorem isGap_of_mem_marks (mark : c ∈ marks) : isGap c = false := by
  have hmarks : (marks.all fun d => !isGap d) = true := by decide
  simpa using List.all_eq_true.mp hmarks c mark

/-- A mark begins a token, unless it may begin a comment. -/
theorem beginsLeaf_of_mem_marks (mark : c ∈ marks) (slash : c ≠ '/') : BeginsLeaf c where
  gap := isGap_of_mem_marks mark
  slash := slash
  bracket := by
    have hmarks : (marks.all fun d => d ∉ ['(', '[', '\x7b', ')', ']', '\x7d']) = true := by decide
    simpa using List.all_eq_true.mp hmarks c mark

/-- A mark in front of a text. It is joint if the text begins with a mark. -/
theorem Lexes.mark {pieces : List Piece} (h : Lexes rest pieces) (mark : c ∈ marks)
    (slash : c ≠ '/') : Lexes (c :: rest) (.leaf (.mark c (startsMark rest)) :: pieces) :=
  h.leaf (beginsLeaf_of_mem_marks mark slash) (leaf?_mark mark slash) (Nat.le_refl _)

/-- Two colons in front of a text that does not begin with a mark. -/
theorem Lexes.colons {pieces : List Piece} (h : Lexes rest pieces) (mark : startsMark rest = false) :
    Lexes (':' :: ':' :: rest) (.leaf (.mark ':' true) :: .leaf (.mark ':' false) :: pieces) :=
  mark ▸ (h.mark (c := ':') (by decide) (by decide)).mark (by decide) (by decide)

/-- A blank in front of a text does not count. -/
theorem Lexes.blank {pieces : List Piece} (h : Lexes rest pieces) : Lexes (' ' :: rest) pieces := by
  intro fuel hfuel
  cases fuel with
  | zero => exact absurd hfuel (Nat.not_lt_zero _)
  | succ fuel =>
    have hrest := h (fuel + 1) (by rw [List.length_cons] at hfuel; omega)
    have hdrop : dropGaps ((' ' :: rest).length + 1) (' ' :: rest) =
        dropGaps (rest.length + 1) rest := rfl
    unfold Piece.lex? at hrest ⊢
    rw [hdrop]
    exact hrest

/-- Pieces that are tokens already are nested as they are. -/
theorem nest?_leaves (done tokens : List Token) :
    nest? [] done (tokens.map .leaf) = some (done.reverse ++ tokens) := by
  induction tokens generalizing done with
  | nil => simp [nest?]
  | cons token tokens ih =>
    rw [List.map_cons, nest?, ih, List.reverse_cons, List.append_assoc, List.singleton_append]

/-- The tokens of a text without brackets. -/
theorem lex?_of_lexes {tokens : List Token} (h : Lexes cs (tokens.map .leaf))
    (order : ∀ c ∈ cs.head?, c.toNat ≠ 0xFEFF) : Token.lex? cs = some tokens := by
  have hdrop : Token.dropOrderMark cs = cs := by
    cases cs with
    | nil => rfl
    | cons c cs => exact if_neg (order c rfl)
  rw [Token.lex?, hdrop, h _ (Nat.lt_succ_self _), Option.bind_some, nest?_leaves]
  rfl

end Specimen.Source
