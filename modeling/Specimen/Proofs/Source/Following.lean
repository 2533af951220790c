import Specimen.Proofs.Source.Brackets
import Specimen.Proofs.Source.Heads
import Specimen.Proofs.Traversal

/-!
# What may stand behind a part

Where tokens are put together from those of parts, each part is read from its own tokens, provided that
nothing stands behind it that the reader would take to belong to it: nothing may continue a path (`Stops`),
a step of one (`StepEnds`), a type (`Follows`) or an argument (`Closing`).

What is read may differ from what the tokens were given back for in the order of arguments, and only there.
The readers look at no more of it than is the same then (`Path.Alike`, `TypeSyntax.Alike`).
-/

namespace Specimen.Source

open Text Token

/-! ## Parts that are alike -/

/-- Two steps have the same name, and arguments or none as the other does. -/
structure Segment.Alike (segment segment' : Segment) : Prop where
  name_eq : segment'.name = segment.name
  isNone_eq : segment'.arguments.isNone = segment.arguments.isNone
  isEmpty_eq : segment'.arguments.isEmpty = segment.arguments.isEmpty

/-- Two paths have the same names, and arguments at the same steps. -/
structure Path.Alike (path path' : Path) : Prop where
  leading_eq : path'.leading = path.leading
  segments : List.Forall₂ Segment.Alike path.segments path'.segments

/-- Two types are of one kind, and alike if they are paths. -/
inductive TypeSyntax.Alike : TypeSyntax → TypeSyntax → Prop
  | path {leading : Bool} {segments segments' : List Segment}
    (h : List.Forall₂ Segment.Alike segments segments') :
    Alike (.path leading segments) (.path leading segments')
  | paren {inner inner' : TypeSyntax} : Alike (.paren inner) (.paren inner')
  | other {ts ts' : List Token} : Alike (.other ts) (.other ts')

/-- Paths that are alike are both without any arguments or both with some. -/
theorem Path.Alike.isPlain_eq {path path' : Path} (h : path.Alike path') :
    Grammar.isPlain path' = Grammar.isPlain path :=
  forall₂_all h.segments fun _ _ hsegment => hsegment.isNone_eq

/-- The last steps of paths that are alike are both without arguments or both with some. -/
theorem Path.Alike.bare_eq {path path' : Path} (h : path.Alike path') :
    (path'.segments.getLast?.map fun s => s.arguments.isEmpty).getD true =
      (path.segments.getLast?.map fun s => s.arguments.isEmpty).getD true := by
  have hreverse := List.rel_reverse h.segments
  rw [← List.head?_reverse, ← List.head?_reverse]
  generalize path.segments.reverse = segments at hreverse
  generalize path'.segments.reverse = segments' at hreverse
  cases hreverse with
  | nil => rfl
  | cons hlast => exact hlast.isEmpty_eq

/-- Types that are alike are both names of arguments or neither is. -/
theorem TypeSyntax.Alike.isArgumentName_eq {type type' : TypeSyntax} (h : type.Alike type') :
    Grammar.isArgumentName type' = Grammar.isArgumentName type := by
  cases h with
  | @path leading _ _ h =>
    cases leading with
    | true => rfl
    | false =>
      cases h with
      | nil => rfl
      | cons _ h => cases h <;> rfl
  | paren => rfl
  | other => rfl

namespace Grammar

variable {constant : Constant} {n : Nat} {plus : Bool} {ts us rest rest' : List Token}

/-! ## What may stand behind -/

/-- Tokens that do not continue a path. -/
structure Stops (rest : List Token) : Prop where
  bracket : afterMark? '<' rest = none
  colons : afterMarks? ':' ':' rest = none

/-- Tokens that do not continue a step of a path, though another step may follow. -/
structure StepEnds (rest : List Token) : Prop where
  bracket : afterMark? '<' rest = none
  colons : (afterMarks? ':' ':' rest).bind (afterMark? '<') = none

/-- What does not continue a path does not continue its last step. -/
theorem Stops.stepEnds (h : Stops rest) : StepEnds rest where
  bracket := h.bracket
  colons := by rw [h.colons, Option.bind_none]

/-- Tokens that may stand behind a type in place of others. A plus sign does not belong to the type only if
no bounds may be added to it, and it has to stand in place of another. The same goes for the word behind a
type that has a trait as its qualification. -/
inductive Follows (plus : Bool) (rest : List Token) : List Token → Prop
  | nil : Follows plus rest []
  | mark {c : Char} {ts : List Token} (h : c ∈ [',', '>', ';', '=', ':']) :
    Follows plus rest (Token.lone c :: ts)
  | added {ts : List Token} (exact : plus = false) (h : startsMark '+' rest = true) :
    Follows plus rest (Token.lone '+' :: ts)
  | word {more ts : List Token} (h : rest = .word "as" :: more) :
    Follows plus rest (.word "as" :: ts)

/-- Tokens that end an argument. -/
inductive Closing : List Token → Prop
  | comma {ts : List Token} : Closing (Token.lone ',' :: ts)
  | bracket {ts : List Token} : Closing (Token.lone '>' :: ts)

/-- Behind an argument may stand what ends one. -/
theorem Closing.follows (h : Closing rest') : Follows plus rest rest' := by
  cases h with
  | comma => exact .mark (by decide)
  | bracket => exact .mark (by decide)

theorem Closing.afterMark?_eq {c : Char} (h : Closing rest) (hc : c ≠ '>' ∧ c ≠ ',') :
    afterMark? c rest = none := by
  cases h with
  | comma => exact if_neg hc.2
  | bracket => exact if_neg hc.1

namespace Follows

/-- What follows begins with no other mark than the ones that end a type. -/
theorem afterMark?_eq {c : Char} (h : Follows plus rest rest')
    (hc : c ∉ [',', '>', ';', '=', ':', '+']) : afterMark? c rest' = none := by
  cases h with
  | nil => rfl
  | mark h =>
    refine if_neg ?_
    rintro rfl
    simp only [List.mem_cons, List.not_mem_nil, or_false, not_or] at h hc
    tauto
  | added =>
    refine if_neg ?_
    rintro rfl
    exact hc (by decide)
  | word => rfl

theorem startsMark_eq {c : Char} (h : Follows plus rest rest')
    (hc : c ∉ [',', '>', ';', '=', ':', '+']) : startsMark c rest' = false := by
  rw [startsMark, h.afterMark?_eq hc, Option.isSome_none]

/-- A colon that follows is single. -/
theorem colons (h : Follows plus rest rest') : afterMarks? ':' ':' rest' = none := by
  cases h with
  | nil => rfl
  | mark => rfl
  | added => rfl
  | word => rfl

theorem stops (h : Follows plus rest rest') : Stops rest' :=
  ⟨h.afterMark?_eq (by decide), h.colons⟩

/-- No plus sign follows where bounds may be added. -/
theorem plus_eq (h : Follows true rest rest') : afterMark? '+' rest' = none := by
  cases h with
  | nil => rfl
  | mark h =>
    refine if_neg ?_
    rintro rfl
    exact absurd h (by decide)
  | added exact => cases exact
  | word => rfl

/-- What follows where bounds may be added follows where none may be. -/
theorem exact (h : Follows plus rest rest') : Follows false rest rest' := by
  cases h with
  | nil => exact .nil
  | mark h => exact .mark h
  | added _ h => exact .added rfl h
  | word h => exact .word h

/-- Where no plus sign stood none follows. -/
theorem closed (h : Follows plus rest rest') (hrest : afterMark? '+' rest = none) :
    Follows true rest rest' := by
  cases h with
  | nil => exact .nil
  | mark h => exact .mark h
  | added _ h =>
    rw [startsMark, hrest] at h
    cases h
  | word h => exact .word h

/-- No group follows. -/
theorem ne_group (h : Follows plus rest rest') (delimiter : Delimiter) (inner more : List Token) :
    rest' ≠ .group delimiter inner :: more := by
  cases h <;> simp [Token.lone]

/-- No bounds are added to what is read. -/
theorem and_startsMark_eq (h : Follows plus rest rest') : (plus && startsMark '+' rest') = false := by
  cases plus with
  | false => rfl
  | true => rw [startsMark, h.plus_eq, Option.isSome_none, Bool.and_false]

/-- What follows begins a bound only if what it stands for did. -/
theorem startsBound_eq (h : Follows plus rest rest') (hrest : startsBound rest = false) :
    startsBound rest' = false := by
  cases h with
  | nil => rfl
  | @mark c ts h =>
    have hother : c ≠ '?' := by
      rintro rfl
      exact absurd h (by decide)
    unfold startsBound
    split <;> simp_all [Token.lone, startsColons, startsMarks, afterMarks?]
  | added => rfl
  | word h =>
    rw [h] at hrest
    cases hrest

end Follows

/-! ## Beginnings of types -/

theorem TypeHead.ne_nil (h : TypeHead ts) : ts ≠ [] := by
  cases h <;> exact List.cons_ne_nil _ _

/-- A type begins with few marks. -/
theorem TypeHead.afterMark?_eq {c : Char} (h : TypeHead ts) (hc : c ∉ [':', '!', '*', '&', '<'])
    (us : List Token) : afterMark? c (ts ++ us) = none := by
  cases h with
  | word => rfl
  | colons =>
    refine if_neg ?_
    rintro rfl
    exact hc (by decide)
  | mark h =>
    refine if_neg ?_
    rintro rfl
    exact hc (List.mem_cons_of_mem _ h)
  | group => rfl
  | lifetime => rfl

/-- No type begins as a literal. -/
theorem TypeHead.literal?_eq (h : TypeHead ts) (us : List Token) : literal? (ts ++ us) = none := by
  cases h with
  | word other =>
    simp only [List.mem_cons, List.not_mem_nil, or_false, not_or] at other
    unfold literal?
    split <;> simp_all
  | colons => rfl
  | @mark c ts h =>
    unfold literal?
    split <;> simp_all [Token.lone]
  | group => rfl
  | lifetime => rfl

/-- No type begins with a group in braces. -/
theorem TypeHead.ne_brace {inner more : List Token} (h : TypeHead ts) :
    ts ++ us ≠ .group .brace inner :: more := by
  rintro heq
  cases h with
  | group h =>
    cases heq
    exact h rfl
  | _ => cases heq

theorem TypeHead.ne_lifetime {name : String} {more : List Token} (h : TypeHead ts)
    (plain : startsLifetime ts = false) : ts ++ us ≠ .lifetime name :: more := by
  rintro heq
  cases h with
  | lifetime => cases plain
  | _ => cases heq

/-- Behind a lifetime in front of a type stands a plus sign. -/
theorem TypeHead.exists_lifetime (h : TypeHead ts) (starts : startsLifetime ts = true) :
    ∃ name more, ts = .lifetime name :: Token.lone '+' :: more := by
  cases h with
  | lifetime => exact ⟨_, _, rfl⟩
  | _ => cases starts

/-- A type does not begin with dots. -/
theorem TypeHead.startsEllipsis_eq (h : TypeHead ts) : startsEllipsis ts = false := by
  unfold startsEllipsis
  split
  · cases h
  · rfl

/-- A type has no name in front. -/
theorem TypeHead.label_eq (h : TypeHead ts) (first : Bool) : label first ts = ([], ts) := by
  unfold label
  split
  · split
    · rename_i hname
      cases h with
      | word _ next =>
        simp only [next rfl, Bool.not_true, Bool.and_false, Bool.false_eq_true] at hname
    · rfl
  · cases h with
    | word other => exact absurd (by decide) other
  · rfl

/-- What begins as a type, and not with a lifetime, begins as nothing else that may stand in parentheses. -/
theorem TypeHead.excludes (h : TypeHead ts) (plain : startsLifetime ts = false) :
    ts ≠ [] ∧ (∀ name more, ts ≠ .lifetime name :: more) ∧
      ∀ joint more, ts ≠ .mark '?' joint :: more := by
  refine ⟨h.ne_nil, ?_, ?_⟩
  · rintro name more rfl
    cases plain
  · rintro joint more rfl
    cases h with
    | mark h => exact absurd h (by decide)

end Grammar

end Specimen.Source
