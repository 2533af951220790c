import Specimen.Proofs.Source.Lexing

/-!
# The words among tokens

`Token.Every` says something of all words among some tokens, those inside groups included. It goes down
to what readers look at: the tokens behind the first one, and the tokens inside a group.

Whatever a text is cut into, its words are words as they are cut from texts (`every_isWord_of_lex?`).
-/

namespace Specimen.Source

open Specimen.Text Piece

variable {P : String → Prop}

/-- Something holds of every word among some tokens. -/
def Token.Every (P : String → Prop) : List Token → Prop
  | [] => True
  | .word text :: ts => P text ∧ Token.Every P ts
  | .group _ inner :: ts => Token.Every P inner ∧ Token.Every P ts
  | .mark _ _ :: ts => Token.Every P ts
  | .lifetime _ :: ts => Token.Every P ts
  | .literal _ :: ts => Token.Every P ts

namespace Token

variable {t : Token} {ts us : List Token}

@[simp] theorem every_nil : Every P [] := by simp [Every]

@[simp] theorem every_word {text : String} :
    Every P (.word text :: ts) ↔ P text ∧ Every P ts := by simp [Every]

@[simp] theorem every_group {delimiter : Delimiter} {inner : List Token} :
    Every P (.group delimiter inner :: ts) ↔ Every P inner ∧ Every P ts := by simp [Every]

@[simp] theorem every_mark {c : Char} {joint : Bool} :
    Every P (.mark c joint :: ts) ↔ Every P ts := by simp [Every]

@[simp] theorem every_lifetime {name : String} :
    Every P (.lifetime name :: ts) ↔ Every P ts := by simp [Every]

@[simp] theorem every_literal {text : String} :
    Every P (.literal text :: ts) ↔ Every P ts := by simp [Every]

theorem every_cons : Every P (t :: ts) ↔ Every P [t] ∧ Every P ts := by
  cases t <;> simp

theorem every_append : Every P (ts ++ us) ↔ Every P ts ∧ Every P us := by
  induction ts with
  | nil => simp
  | cons t ts ih => rw [List.cons_append, every_cons, ih, @every_cons _ t ts, and_assoc]

theorem every_reverse : Every P ts.reverse ↔ Every P ts := by
  induction ts with
  | nil => simp
  | cons t ts ih => rw [List.reverse_cons, every_append, ih, @every_cons _ t ts, and_comm]

theorem every_drop {n : Nat} (h : Every P ts) : Every P (ts.drop n) := by
  rw [← List.take_append_drop n ts, every_append] at h
  exact h.2

theorem count_append (ts us : List Token) : count (ts ++ us) = count ts + count us := by
  induction ts with
  | nil => simp only [List.nil_append, count, Nat.zero_add]
  | cons t ts ih => cases t <;> simp only [List.cons_append, count, ih] <;> omega

@[simp] theorem count_nil : count [] = 0 := by rw [count]

@[simp] theorem count_colons : count colons = 2 := by simp only [colons, count]

@[simp] theorem count_lone (c : Char) (ts : List Token) : count (lone c :: ts) = count ts + 1 := by
  rw [lone, count]

/-- Tokens in groups count besides. -/
theorem length_le_count (ts : List Token) : ts.length ≤ count ts := by
  induction ts with
  | nil => exact Nat.zero_le _
  | cons t ts ih =>
    cases t <;> simp only [List.length_cons, count] <;> omega

end Token

open Token

/-! ## Words that are cut from a text -/

/-- The words that are taken off a text are words. -/
theorem isWord_of_takeWord? {cs word rest : List Char} (h : takeWord? cs = some (word, rest)) :
    ∃ c ds, word = c :: ds ∧ isWordStart c = true ∧ ∀ d ∈ ds, isWordPart d = true := by
  cases cs with
  | nil => cases h
  | cons c cs =>
    rw [takeWord?] at h
    split at h
    · rename_i start
      obtain ⟨rfl, rfl⟩ := Prod.mk.inj (Option.some.inj h)
      refine ⟨c, _, rfl, start, fun d hd => ?_⟩
      exact List.all_eq_true.mp List.all_takeWhile d hd
    · cases h

/-- What is read as an identifier is a word. -/
theorem isWord_of_identifier? {cs rest : List Char} {name : String}
    (h : identifier? cs = some (name, rest)) : IsWord name.toList := by
  unfold identifier? at h
  split at h
  · split at h
    · rename_i word rest' htake
      split at h
      · cases h
      · rename_i hfree
        obtain ⟨rfl, rfl⟩ := Prod.mk.inj (Option.some.inj h)
        obtain ⟨c, ds, rfl, start, parts⟩ := isWord_of_takeWord? htake
        rw [String.toList_ofList]
        exact .raw start parts (by simpa using hfree)
    · cases h
  · split at h
    · rename_i word rest' htake
      obtain ⟨rfl, rfl⟩ := Prod.mk.inj (Option.some.inj h)
      obtain ⟨c, ds, rfl, start, parts⟩ := isWord_of_takeWord? htake
      rw [String.toList_ofList]
      exact .plain start parts
    · cases h

/-- What can be cut off: a literal, a lifetime, a mark that is joint if another mark follows, or a word
where no mark stands. -/
theorem cases_of_leaf? {cs rest : List Char} {token : Token} (h : leaf? cs = some (token, rest)) :
    (∃ text, token = .literal text) ∨ (∃ name, token = .lifetime name) ∨
    (∃ c, token = .mark c (startsMark rest)) ∨
    ∃ name, token = .word name ∧ startsMark cs = false ∧ identifier? cs = some (name, rest) := by
  unfold leaf? at h
  split at h
  · cases h
    exact .inl ⟨_, rfl⟩
  · split at h
    · cases h
    · unfold lifetime? at h
      split at h
      · cases h
      · rename_i name _ _
        dsimp only at h
        have hlifetime : token = .lifetime name := by
          repeat' split at h
          all_goals cases h <;> rfl
        exact .inr (.inl ⟨name, hlifetime⟩)
    · split at h
      · cases h
        exact .inr (.inr (.inl ⟨_, rfl⟩))
      · rename_i hmark
        split at h
        · cases h
        · obtain ⟨⟨name, _⟩, hident, heq⟩ := Option.map_eq_some_iff.mp h
          cases heq
          exact .inr (.inr (.inr ⟨name, rfl, by simpa using hmark, hident⟩))

/-- A token that is cut off is a word as it is cut off, or no word. -/
theorem every_of_leaf? {cs rest : List Char} {token : Token} (h : leaf? cs = some (token, rest)) :
    Every (fun word => IsWord word.toList) [token] := by
  rcases cases_of_leaf? h with ⟨_, rfl⟩ | ⟨_, rfl⟩ | ⟨_, rfl⟩ | ⟨_, rfl, _, hident⟩
  · simp
  · simp
  · simp
  · simpa using isWord_of_identifier? hident

/-- The only word of an attribute for documentation is a word. -/
theorem every_of_mem_ofDocumentation {inner : Bool} {words : List Char} {token : Token}
    (mem : .leaf token ∈ ofDocumentation inner words) :
    Every (fun word => IsWord word.toList) [token] := by
  have hdoc : IsWord ['d', 'o', 'c'] := .plain (by decide) (List.all_eq_true.mp (by decide))
  cases inner <;>
    simp only [ofDocumentation, Token.lone, if_true, if_false, Bool.false_eq_true, List.mem_cons,
      List.nil_append, List.cons_append, List.not_mem_nil, or_false, Piece.leaf.injEq, reduceCtorEq,
      false_or] at mem
  · rcases mem with rfl | rfl | rfl | rfl <;> simp [hdoc]
  · rcases mem with rfl | rfl | rfl | rfl | rfl <;> simp [hdoc]

/-- All words among the pieces of a text are words as they are cut from texts. -/
theorem every_of_mem_lex? {fuel : Nat} {cs : List Char} {pieces : List Piece}
    (h : Piece.lex? fuel cs = some pieces) {token : Token} (mem : .leaf token ∈ pieces) :
    Every (fun word => IsWord word.toList) [token] := by
  induction fuel generalizing cs pieces with
  | zero => cases h
  | succ fuel ih =>
    simp only [Piece.lex?] at h
    split at h
    · split at h
      · obtain ⟨rest, hrest, rfl⟩ := Option.map_eq_some_iff.mp h
        rcases List.mem_append.mp mem with mem | mem
        · exact every_of_mem_ofDocumentation mem
        · exact ih hrest mem
      · cases h
    · split at h
      case h_1 =>
        cases h
        cases mem
      case h_8 =>
        split at h
        · rename_i leaf rest' hleaf
          obtain ⟨rest, hrest, rfl⟩ := Option.map_eq_some_iff.mp h
          rcases List.mem_cons.mp mem with heq | mem
          · cases heq
            exact every_of_leaf? hleaf
          · exact ih hrest mem
        · cases h
      -- a bracket is no token
      all_goals
        obtain ⟨rest, hrest, rfl⟩ := Option.map_eq_some_iff.mp h
        exact ih hrest (by simpa using mem)

/-- Nesting pieces brings no words. -/
theorem every_of_nest? {outer : List (Delimiter × List Token)} {done : List Token}
    {pieces : List Piece} {tokens : List Token} (h : nest? outer done pieces = some tokens)
    (houter : ∀ o ∈ outer, Every P o.2) (hdone : Every P done)
    (hpieces : ∀ token, .leaf token ∈ pieces → Every P [token]) : Every P tokens := by
  induction pieces generalizing outer done with
  | nil =>
    cases outer with
    | nil =>
      obtain rfl := Option.some.inj h
      exact every_reverse.mpr hdone
    | cons => cases h
  | cons piece pieces ih =>
    have hrest : ∀ token, .leaf token ∈ pieces → Every P [token] :=
      fun token mem => hpieces token (List.mem_cons_of_mem _ mem)
    cases piece with
    | leaf token =>
      rw [nest?] at h
      exact ih h houter (every_cons.mpr ⟨hpieces token List.mem_cons_self, hdone⟩) hrest
    | opening delimiter =>
      rw [nest?] at h
      exact ih h (List.forall_mem_cons.mpr ⟨hdone, houter⟩) every_nil hrest
    | closing closed =>
      cases outer with
      | nil => cases h
      | cons o outer =>
        obtain ⟨delimiter, before⟩ := o
        obtain ⟨hbefore, houter⟩ := List.forall_mem_cons.mp houter
        rw [nest?] at h
        split at h
        · exact ih h houter (every_group.mpr ⟨every_reverse.mpr hdone, hbefore⟩) hrest
        · cases h

/-- All words of a text are words as they are cut from one. -/
theorem every_isWord_of_lex? {cs : List Char} {tokens : List Token}
    (h : Token.lex? cs = some tokens) : Every (fun word => IsWord word.toList) tokens := by
  obtain ⟨pieces, hlex, hnest⟩ := Option.bind_eq_some_iff.mp h
  exact every_of_nest? hnest (by simp) every_nil fun token => every_of_mem_lex? hlex

end Specimen.Source
