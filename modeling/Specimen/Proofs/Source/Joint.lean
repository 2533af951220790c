import Mathlib.Data.List.Chain
import Specimen.Proofs.Source.Token

/-!
# What stands behind a joint mark

A mark is joint if another mark or an apostrophe stands directly behind it. What begins so is cut into a
mark, a lifetime or a literal, so no word ever stands behind a joint mark (`Token.isChain_of_lex?`). In
particular the second colon of a `::` with a name behind it is not joint.
-/

namespace Specimen.Source

open Specimen.Text Piece

/-- Whether a token may stand in front of another: a joint mark does not stand in front of a word. -/
def Token.Precedes : Token → Token → Prop
  | .mark _ true, .word _ => False
  | _, _ => True

/-- The same for pieces. Brackets may stand anywhere. -/
def Piece.Precedes : Piece → Piece → Prop
  | .leaf token, .leaf next => token.Precedes next
  | _, _ => True

variable {cs rest : List Char} {token : Token} {tokens : List Token} {pieces : List Piece}

/-! ## Texts that begin with a mark -/

/-- In front of a mark there is no gap to drop. -/
theorem dropGaps_of_startsMark (starts : startsMark cs = true) (fuel : Nat) : dropGaps fuel cs = cs := by
  cases fuel with
  | zero => rfl
  | succ fuel =>
    unfold startsMark at starts
    split at starts
    · cases starts
    · cases starts
    · rename_i c cs hslash hstar
      have hgap : isGap c = false := by
        rw [Bool.or_eq_true, List.contains_iff_mem, beq_iff_eq] at starts
        rcases starts with mark | rfl
        · exact isGap_of_mem_marks mark
        · decide
      unfold dropGaps
      split <;> simp_all
    · cases starts

theorem documentation?_of_startsMark (starts : startsMark cs = true) : documentation? cs = none := by
  unfold documentation?
  split
  · cases starts
  · cases starts
  · rfl

/-- A text that begins with a mark is not cut into a word first. -/
theorem head?_ne_of_startsMark (starts : startsMark cs = true) {fuel : Nat}
    (h : Piece.lex? fuel cs = some pieces) (word : String) :
    pieces.head? ≠ some (.leaf (.word word)) := by
  cases fuel with
  | zero => cases h
  | succ fuel =>
    simp only [Piece.lex?, dropGaps_of_startsMark starts, documentation?_of_startsMark starts] at h
    split at h
    case h_1 => cases starts
    case h_8 =>
      split at h
      · rename_i token rest hleaf
        obtain ⟨pieces, _, rfl⟩ := Option.map_eq_some_iff.mp h
        rintro ⟨⟩
        rcases cases_of_leaf? hleaf with ⟨_, heq⟩ | ⟨_, heq⟩ | ⟨_, heq⟩ | ⟨_, _, hno, _⟩
        · cases heq
        · cases heq
        · cases heq
        · exact Bool.noConfusion (starts.symm.trans hno)
      · cases h
    all_goals
      obtain ⟨pieces, _, rfl⟩ := Option.map_eq_some_iff.mp h
      rintro ⟨⟩

/-! ## Neighbours -/

/-- A token that is cut off may stand in front of what the text behind it begins with. -/
theorem precedes_of_leaf? (leaf : leaf? cs = some (token, rest)) {fuel : Nat}
    (h : Piece.lex? fuel rest = some pieces) :
    ∀ next ∈ pieces.head?, Piece.Precedes (.leaf token) next := by
  intro next hnext
  rcases cases_of_leaf? leaf with ⟨_, rfl⟩ | ⟨_, rfl⟩ | ⟨c, rfl⟩ | ⟨_, rfl, _⟩
  case inr.inr.inl =>
    cases hjoint : startsMark rest with
    | false => cases next <;> trivial
    | true =>
      cases next with
      | leaf next =>
        cases next with
        | word word => exact absurd hnext (head?_ne_of_startsMark hjoint h word)
        | _ => trivial
      | _ => trivial
  all_goals cases next <;> trivial

/-- In what a text is cut into, no word stands behind a joint mark. -/
theorem Piece.isChain_of_lex? {fuel : Nat} (h : Piece.lex? fuel cs = some pieces) :
    pieces.IsChain Piece.Precedes := by
  induction fuel generalizing cs pieces with
  | zero => cases h
  | succ fuel ih =>
    simp only [Piece.lex?] at h
    split at h
    · split at h
      · rename_i inner words _ _ _
        obtain ⟨rest, hrest, rfl⟩ := Option.map_eq_some_iff.mp h
        refine List.isChain_append.mpr ⟨?_, ih hrest, ?_⟩
        · cases inner <;> simp [ofDocumentation, Token.lone, Piece.Precedes, Token.Precedes]
        · cases inner <;> simp [ofDocumentation, Piece.Precedes]
      · cases h
    · split at h
      case h_1 =>
        cases h
        exact .nil
      case h_8 =>
        split at h
        · rename_i leaf rest' hleaf
          obtain ⟨rest, hrest, rfl⟩ := Option.map_eq_some_iff.mp h
          exact List.isChain_cons.mpr ⟨precedes_of_leaf? hleaf hrest, ih hrest⟩
        · cases h
      -- a bracket may stand anywhere
      all_goals
        obtain ⟨rest, hrest, rfl⟩ := Option.map_eq_some_iff.mp h
        exact List.isChain_cons.mpr ⟨fun _ _ => trivial, ih hrest⟩

/-- A group may stand anywhere. -/
theorem precedes_group {delimiter : Delimiter} {inner : List Token} (piece : Piece) :
    Piece.Precedes piece (.leaf (.group delimiter inner)) ∧
      Piece.Precedes (.leaf (.group delimiter inner)) piece := by
  constructor
  · cases piece with
    | leaf token => cases token <;> simp [Piece.Precedes, Token.Precedes]
    | _ => trivial
  · cases piece <;> trivial

/-- Nesting pieces makes neighbours of no others but groups. -/
theorem Piece.isChain_of_nest? {outer : List (Delimiter × List Token)} {done : List Token}
    (h : nest? outer done pieces = some tokens)
    (houter : ∀ o ∈ outer, (o.2.reverse.map Piece.leaf).IsChain Piece.Precedes)
    (hdone : (done.reverse.map Piece.leaf ++ pieces).IsChain Piece.Precedes) :
    (tokens.map Piece.leaf).IsChain Piece.Precedes := by
  induction pieces generalizing outer done with
  | nil =>
    cases outer with
    | nil =>
      obtain rfl := Option.some.inj h
      simpa using hdone
    | cons => cases h
  | cons piece pieces ih =>
    obtain ⟨hbefore, hpieces, hbetween⟩ := List.isChain_append.mp hdone
    cases piece with
    | leaf token =>
      rw [nest?] at h
      exact ih h houter (by simpa using hdone)
    | opening delimiter =>
      rw [nest?] at h
      exact ih h (List.forall_mem_cons.mpr ⟨hbefore, houter⟩) (List.isChain_cons.mp hpieces).2
    | closing closed =>
      cases outer with
      | nil => cases h
      | cons o outer =>
        obtain ⟨delimiter, before⟩ := o
        obtain ⟨hbefore', houter⟩ := List.forall_mem_cons.mp houter
        rw [nest?] at h
        split at h
        · refine ih h houter ?_
          rw [List.reverse_cons, List.map_append, List.append_assoc]
          refine List.isChain_append.mpr ⟨hbefore',
            List.isChain_cons.mpr ⟨fun next _ => ?_, (List.isChain_cons.mp hpieces).2⟩, ?_⟩
          · exact (precedes_group next).2
          · rintro piece _ _ ⟨⟩
            exact (precedes_group piece).1
        · cases h

/-- Tokens follow each other as their pieces do. -/
theorem isChain_map_leaf :
    (tokens.map Piece.leaf).IsChain Piece.Precedes ↔ tokens.IsChain Token.Precedes :=
  List.isChain_map _

/-- Among the tokens of a text no word stands behind a joint mark. -/
theorem Token.isChain_of_lex? (h : Token.lex? cs = some tokens) :
    tokens.IsChain Token.Precedes := by
  obtain ⟨pieces, hlex, hnest⟩ := Option.bind_eq_some_iff.mp h
  exact isChain_map_leaf.mp (isChain_of_nest? hnest (by simp) (Piece.isChain_of_lex? hlex))

end Specimen.Source
