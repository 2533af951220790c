import Specimen.Proofs.Source.Respelling
import Specimen.Proofs.Source.TypeForm

/-!
# What tokens that are given back begin with

A reader decides by the first tokens how to go on. The tokens that are given back for what has been read
begin as the tokens that it was read from do, or at least in a way that leads to the same decision: a path
with a word or `::` (`head_of_path?`), a bound as bounds do (`startsBound_of_bound?`), and a type with nothing
that is read as something else where a type is expected (`TypeHead`).

Main statement: `Grammar.typeHead_of_type?`.
-/

namespace Specimen.Source.Grammar

open Text

variable {constant : Constant} {n : Nat} {plus : Bool} {word : String} {ts us rest : List Token}

/-! ## Paths -/

/-- The word that a step is read from may be one. -/
theorem isStep_of_segment? {segment : Segment}
    (h : segment? constant n (.word word :: ts) = some (segment, rest)) : isStep word = true := by
  cases n with
  | zero => cases h
  | succ n =>
    rw [segment?] at h
    split at h
    · rename_i hword
      simp [isStep, hword]
    · split at h
      · rename_i hword
        simp [isStep, Bool.or_assoc, hword]
      · cases h

/-- The word that steps are read from may be one. -/
theorem isStep_of_segments? {segments : List Segment}
    (h : segments? constant n (.word word :: ts) = some (segments, rest)) : isStep word = true := by
  cases n with
  | zero => cases h
  | succ n =>
    rw [segments?] at h
    split at h
    · cases h
    · rename_i hsegment
      exact isStep_of_segment? hsegment

/-- A path that is read begins as its tokens do: with `::`, or with a word that may be a step. -/
theorem begins_of_path? {path : Path} (h : path? constant n ts = some (path, rest)) :
    (path.leading = true ∧ ∃ joint more, ts = .mark ':' true :: .mark ':' joint :: more) ∨
      path.leading = false ∧ ∃ word more, ts = .word word :: more ∧ isStep word = true ∧
        (path.segments.map Segment.name).head? = some word := by
  cases n with
  | zero => cases h
  | succ n =>
    rw [path?] at h
    split at h
    · rename_i after hafter
      obtain ⟨_, _, heq⟩ := Option.map_eq_some_iff.mp h
      obtain ⟨joint, rfl⟩ := eq_of_afterMarks? hafter
      cases heq
      exact .inl ⟨rfl, joint, after, rfl⟩
    · obtain ⟨⟨segments, _⟩, hsegments, heq⟩ := Option.map_eq_some_iff.mp h
      obtain ⟨word, more, rfl⟩ := exists_of_segments? hsegments
      cases heq
      exact .inr ⟨rfl, word, more, rfl, isStep_of_segments? hsegments, head?_of_segments? hsegments⟩

/-- No single colon stands in front. -/
def Unlabelled (ts : List Token) : Prop := startsMark ':' ts = true → startsColons ts = true

theorem unlabelled_of_eq_false (h : startsMark ':' ts = false) : Unlabelled ts := by
  intro hcolon
  rw [h] at hcolon
  cases hcolon

/-- Tokens begin with `::`, or with a step behind which no single colon stands. -/
inductive PathHead : List Token → Prop
  | colons {joint : Bool} {ts : List Token} : PathHead (.mark ':' true :: .mark ':' joint :: ts)
  | word {word : String} {ts : List Token} (step : isStep word = true) (next : Unlabelled ts) :
    PathHead (.word word :: ts)

/-- Behind the name of a step stand its arguments, or the next step behind `::`. -/
theorem unlabelled_arguments (arguments : Arguments) (segments : List Segment)
    (hus : startsMark ':' us = false) :
    Unlabelled (arguments.tokens ++ furtherTokens segments ++ us) := by
  cases arguments with
  | angled colons items trailing =>
    cases colons with
    | true => exact fun _ => rfl
    | false => exact unlabelled_of_eq_false rfl
  | none =>
    rcases segments with _ | ⟨⟨name, arguments⟩, segments⟩
    · exact unlabelled_of_eq_false hus
    · rw [furtherTokens_cons]
      exact fun _ => rfl

/-- The tokens of a path begin as those that it was read from do. -/
theorem head_of_path? {path : Path} (h : path? constant n ts = some (path, rest)) :
    path.tokens.head? = ts.head? ∧
      ∀ us, startsMark ':' us = false → PathHead (path.tokens ++ us) := by
  obtain ⟨leading, segments⟩ := path
  rcases begins_of_path? h with ⟨rfl, joint, more, rfl⟩ | ⟨rfl, word, more, rfl, hstep, hhead⟩
  · exact ⟨rfl, fun us _ => .colons⟩
  · rcases segments with _ | ⟨⟨name, arguments⟩, segments⟩
    · cases hhead
    · obtain rfl : name = word := Option.some.inj hhead
      have htokens : Path.tokens ⟨false, .mk name arguments :: segments⟩ =
          .word name :: (arguments.tokens ++ furtherTokens segments) :=
        segmentsTokens_cons name arguments segments
      rw [htokens]
      exact ⟨rfl, fun us hus => .word hstep (unlabelled_arguments arguments segments hus)⟩

/-- The tokens of a path that begins as one may begin so, too. -/
theorem begins_tokens_of_path? {path : Path} (begins : Begins ts)
    (h : path? constant n ts = some (path, rest)) : Begins path.tokens := by
  have hhead := (head_of_path? h).1
  cases begins with
  | colons =>
    obtain ⟨leading, segments⟩ := path
    rcases begins_of_path? h with ⟨rfl, _⟩ | ⟨_, _, _, heq, _⟩
    · exact .colons
    · cases heq
  | word hword =>
    obtain ⟨more, heq⟩ := List.head?_eq_some_iff.mp hhead
    rw [heq]
    exact .word hword

/-- The same with nothing behind. -/
theorem pathHead_tokens {path : Path} (h : path? constant n ts = some (path, rest)) :
    PathHead path.tokens := by
  have hhead := (head_of_path? h).2 [] rfl
  rwa [List.append_nil] at hhead

/-- The tokens of a path begin as those that it was read from do, whatever stands behind. -/
theorem head_append_of_path? {path : Path} (h : path? constant n ts = some (path, rest))
    (us : List Token) :
    (path.tokens ++ us).head? = ts.head? ∧ (Begins ts → Begins (path.tokens ++ us)) := by
  have hpath := pathHead_tokens h
  refine ⟨?_, fun begins => (begins_tokens_of_path? begins h).append us⟩
  rw [← (head_of_path? h).1]
  generalize path.tokens = tokens at hpath
  cases hpath <;> rfl

/-! ## Bounds -/

/-- Lifetimes up to the closing bracket are read from the tokens that are given back for them. -/
theorem lifetimes?_append {inner : List Token} (h : lifetimes? ts = some (inner, rest))
    (us : List Token) : lifetimes? (inner ++ us) = some (inner, us) := by
  fun_induction lifetimes? ts generalizing inner rest with
  | case1 =>
    cases h
    rfl
  | case2 =>
    cases h
    rfl
  | case3 _ _ _ ih =>
    obtain ⟨⟨more, rest'⟩, hread, heq⟩ := Option.map_eq_some_iff.mp h
    cases heq
    rw [List.cons_append, List.cons_append, Token.lone, lifetimes?, ih hread]
    rfl
  | case4 => cases h

/-- Tokens are a binder, which is read from them, or none. -/
def IsBinder (binder : List Token) : Prop :=
  binder = [] ∨ (∃ inner, binder = .word "for" :: Token.lone '<' :: inner) ∧
    ∀ us, binder? (binder ++ us) = some (binder, us)

theorem isBinder_of_binder? {binder : List Token} (h : binder? ts = some (binder, rest)) :
    IsBinder binder ∧ (startsWord "for" ts = true → binder ≠ []) := by
  unfold binder? at h
  split at h
  · obtain ⟨⟨inner, rest'⟩, hread, heq⟩ := Option.map_eq_some_iff.mp h
    cases heq
    refine ⟨.inr ⟨⟨inner, rfl⟩, fun us => ?_⟩, fun _ => List.cons_ne_nil _ _⟩
    rw [List.cons_append, List.cons_append, Token.lone, binder?, lifetimes?_append hread]
    rfl
  · cases h
  · rename_i hbinder hother
    cases h
    refine ⟨.inl rfl, fun hfor => ?_⟩
    unfold startsWord at hfor
    split at hfor
    · rename_i word ts
      obtain rfl := eq_of_beq hfor
      exact absurd rfl (hother ts)
    · cases hfor

/-- Where no binder begins none is read. -/
theorem binder?_eq_nil (h : startsWord "for" ts = false) : binder? ts = some ([], ts) := by
  unfold binder?
  split
  · cases h
  · cases h
  · rfl

/-- The kinds of bounds that are no lifetimes, by their tokens: a path with what may stand before it, and
possibly with inputs and a result behind it. -/
inductive TraitForm (constant : Constant) (n : Nat) : List Token → List Token → Prop
  | plain {relaxed binder after rest : List Token} {path : Path}
    (hrelaxed : relaxed = [] ∨ relaxed = [Token.lone '?']) (hbinder : IsBinder binder)
    (hpath : path? constant n after = some (path, rest)) :
    TraitForm constant n (relaxed ++ binder ++ path.tokens) rest
  | function {relaxed binder after behind inner inputs more output rest : List Token} {path : Path}
    (hrelaxed : relaxed = [] ∨ relaxed = [Token.lone '?']) (hbinder : IsBinder binder)
    (hpath : path? constant n after = some (path, behind))
    (bare : (path.segments.getLast?.map fun s => s.arguments.isEmpty).getD true = true)
    (hinputs : types? constant n inner = some inputs)
    (houtput : output? constant n more = some (output, rest)) :
    TraitForm constant n (relaxed ++ binder ++ path.tokens ++ .group .paren inputs :: output) rest

theorem optionalMark_fst (c : Char) (ts : List Token) :
    (optionalMark c ts).1 = [] ∨ (optionalMark c ts).1 = [Token.lone c] := by
  unfold optionalMark
  split
  · exact .inr rfl
  · exact .inl rfl

/-- What is read as a bound that is no lifetime is of one of the kinds. -/
theorem traitForm_of_traitBound? {bound : List Token}
    (h : traitBound? constant (n + 1) ts = some (bound, rest)) : TraitForm constant n bound rest := by
  rw [traitBound?] at h
  split at h
  · cases h
  · rename_i binder after hbinder
    dsimp only at h
    split at h
    · cases h
    · rename_i binder' after' hbinder'
      have hrelaxed := optionalMark_fst '?' after
      have hbinder'' : IsBinder binder' := by
        split at hbinder'
        · exact (isBinder_of_binder? hbinder').1
        · cases hbinder'
          exact (isBinder_of_binder? hbinder).1
      split at h
      · cases h
      · rename_i path behind hpath
        split at h
        · rename_i inner more hgroup
          have hbare : (path.segments.getLast?.map fun s => s.arguments.isEmpty).getD true = true := by
            by_contra hfull
            rw [if_neg hfull] at hgroup
            cases hgroup
          split at h
          · cases h
          · rename_i inputs hinputs
            obtain ⟨⟨output, rest'⟩, houtput, heq⟩ := Option.map_eq_some_iff.mp h
            cases heq
            exact .function hrelaxed hbinder'' hpath hbare hinputs houtput
        · cases h
          exact .plain hrelaxed hbinder'' hpath

/-- A bound with a question mark is given back with it in front. -/
theorem exists_of_traitBound?_relaxed {joint : Bool} {bound : List Token}
    (h : traitBound? constant n (.mark '?' joint :: ts) = some (bound, rest)) :
    ∃ more, bound = Token.lone '?' :: more := by
  cases n with
  | zero => cases h
  | succ n =>
    have hbinder : binder? (.mark '?' joint :: ts) = some ([], .mark '?' joint :: ts) := rfl
    have hmark : optionalMark '?' (.mark '?' joint :: ts) = ([Token.lone '?'], ts) := rfl
    rw [traitBound?, hbinder] at h
    simp only [hmark, List.singleton_append] at h
    split at h
    · cases h
    · split at h
      · cases h
      · split at h
        · split at h
          · cases h
          · obtain ⟨_, _, heq⟩ := Option.map_eq_some_iff.mp h
            cases heq
            exact ⟨_, rfl⟩
        · cases h
          exact ⟨_, rfl⟩

/-- Tokens begin as a bound does that is no lifetime. -/
inductive BoundHead : List Token → Prop
  | relaxed {ts : List Token} : BoundHead (Token.lone '?' :: ts)
  | word {word : String} {ts : List Token} (other : word ≠ "use") : BoundHead (.word word :: ts)
  | colons {joint : Bool} {ts : List Token} : BoundHead (.mark ':' true :: .mark ':' joint :: ts)

theorem BoundHead.append (h : BoundHead ts) (us : List Token) : BoundHead (ts ++ us) := by
  cases h with
  | relaxed => exact .relaxed
  | word other => exact .word other
  | colons => exact .colons

theorem BoundHead.startsBound_eq (h : BoundHead ts) : startsBound ts = true := by
  cases h <;> rfl

/-- A path begins as a bound does, and so do a question mark and a binder in front of it. -/
theorem boundHead_of_path? {relaxed binder : List Token} {path : Path}
    (hrelaxed : relaxed = [] ∨ relaxed = [Token.lone '?']) (hbinder : IsBinder binder)
    (h : path? constant n ts = some (path, rest)) :
    BoundHead (relaxed ++ binder ++ path.tokens) := by
  rcases hrelaxed with rfl | rfl
  · rcases hbinder with rfl | ⟨⟨inner, rfl⟩, _⟩
    · have hhead := pathHead_tokens h
      cases hhead' : path.tokens with
      | nil =>
        rw [hhead'] at hhead
        cases hhead
      | cons t ts =>
        rw [hhead'] at hhead
        cases hhead with
        | colons => exact .colons
        | word step =>
          refine .word fun heq => ?_
          rw [heq] at step
          exact absurd step (by decide)
    · exact .word (by decide)
  · exact .relaxed

theorem boundHead_of_traitBound? {bound : List Token}
    (h : traitBound? constant n ts = some (bound, rest)) : BoundHead bound := by
  cases n with
  | zero => cases h
  | succ n =>
    cases traitForm_of_traitBound? h with
    | plain hrelaxed hbinder hpath => exact boundHead_of_path? hrelaxed hbinder hpath
    | function hrelaxed hbinder hpath =>
      exact (boundHead_of_path? hrelaxed hbinder hpath).append _

/-- The kinds of bounds, by their tokens: a lifetime, what may be captured, and the others, which may stand in
parentheses. -/
inductive BoundForm (constant : Constant) (n : Nat) (captures : Bool) :
    Bool × List Token → List Token → Prop
  | lifetime {name : String} {rest : List Token} :
    BoundForm constant n captures (false, [.lifetime name]) rest
  | captured {ts inner rest : List Token} (allowed : captures = true)
    (h : captured? ts = some (inner, rest)) :
    BoundForm constant n captures (false, .word "use" :: Token.lone '<' :: inner) rest
  | group {inner bound rest : List Token} (h : traitBound? constant n inner = some (bound, [])) :
    BoundForm constant n captures (true, [.group .paren bound]) rest
  | trait {ts bound rest : List Token} (h : traitBound? constant n ts = some (bound, rest)) :
    BoundForm constant n captures (true, bound) rest

/-- What is read as a bound is of one of the kinds. -/
theorem boundForm_of_bound? {captures : Bool} {read : Bool × List Token}
    (h : bound? constant (n + 1) captures ts = some (read, rest)) :
    BoundForm constant n captures read rest := by
  unfold bound? at h
  split at h
  · cases h
  · cases h
    exact .lifetime
  · split at h
    · rename_i hcaptures
      obtain ⟨⟨inner, rest'⟩, hread, heq⟩ := Option.map_eq_some_iff.mp h
      cases heq
      exact .captured hcaptures hread
    · cases h
  · rename_i hn
    obtain rfl := Nat.succ.inj hn
    split at h
    · rename_i hbound
      cases h
      exact .group hbound
    · cases h
  · rename_i hn _ _ _
    obtain rfl := Nat.succ.inj hn
    obtain ⟨⟨bound, rest'⟩, hbound, heq⟩ := Option.map_eq_some_iff.mp h
    cases heq
    exact .trait hbound

/-- A bound that is read begins as bounds do. -/
theorem startsBound_of_bound? {captures trait : Bool} {bound : List Token}
    (h : bound? constant n captures ts = some ((trait, bound), rest)) (us : List Token) :
    startsBound (bound ++ us) = true := by
  cases n with
  | zero => cases h
  | succ n =>
    cases boundForm_of_bound? h with
    | lifetime => rfl
    | captured => rfl
    | group => rfl
    | trait hbound => exact ((boundHead_of_traitBound? hbound).append us).startsBound_eq

/-- Bounds begin with the first of them. -/
theorem startsBound_of_bounds? {captures trait : Bool} {bounds : List Token}
    (h : bounds? constant n plus captures ts = some ((trait, bounds), rest)) (us : List Token) :
    startsBound (bounds ++ us) = true := by
  cases n with
  | zero => cases h
  | succ n =>
    rw [bounds?] at h
    split at h
    · cases h
    · rename_i hbound
      split at h
      · cases h
        exact startsBound_of_bound? hbound us
      · split at h
        · obtain ⟨⟨⟨_, more⟩, _⟩, _, heq⟩ := Option.map_eq_some_iff.mp h
          cases heq
          rw [List.append_assoc]
          exact startsBound_of_bound? hbound _
        · cases h
          rw [List.append_assoc]
          exact startsBound_of_bound? hbound _

/-- Bounds begin with no other marks than a question mark and a colon. -/
theorem startsMark_of_startsBound {c : Char} (h : startsBound ts = true) (hc : c ≠ '?' ∧ c ≠ ':') :
    startsMark c ts = false := by
  unfold startsBound at h
  split at h
  · rfl
  · rfl
  · rfl
  · rw [startsMark, afterMark?, if_neg hc.1, Option.isSome_none]
  · unfold startsColons startsMarks afterMarks? at h
    split at h
    · split at h
      · rename_i hcolons
        rw [← hcolons.1, startsMark, afterMark?, if_neg hc.2, Option.isSome_none]
      · cases h
    · cases h

theorem unlabelled_of_startsBound (h : startsBound ts = true) : Unlabelled ts := by
  intro hcolon
  unfold startsBound at h
  split at h <;> first | cases hcolon | exact h

/-! ## Types -/

/-- The kinds of types that begin with a path, by what is read behind it. -/
inductive PathForm (constant : Constant) (n : Nat) (plus : Bool) (binder ts : List Token) :
    TypeSyntax → List Token → Prop
  | path {rest : List Token} {path : Path} (unbound : binder = [])
    (h : path? constant n ts = some (path, rest)) :
    PathForm constant n plus binder ts (.path path.leading path.segments) rest
  | invocation {inner rest : List Token} {path : Path} {joint : Bool} {delimiter : Delimiter}
    (h : path? constant n ts = some (path, .mark '!' joint :: .group delimiter inner :: rest))
    (plain : isPlain path = true) :
    PathForm constant n plus binder ts
      (.other (path.tokens ++ [Token.lone '!', .group delimiter inner])) rest
  | bound {rest : List Token} {path : Path} (bound : binder ≠ []) (exact : plus = false)
    (h : path? constant n ts = some (path, rest)) :
    PathForm constant n plus binder ts (.other (binder ++ path.tokens)) rest
  | bounded {behind more rest : List Token} {path : Path} (open' : plus = true)
    (bounded : binder ≠ [] ∨ startsMark '+' behind = true)
    (h : path? constant n ts = some (path, behind))
    (hmore : moreBounds? constant n behind = some (more, rest)) :
    PathForm constant n plus binder ts (.other (binder ++ path.tokens ++ more)) rest

/-- A type that begins with a path is of one of the kinds. -/
theorem pathForm_of_pathType? {binder : List Token} {a : TypeSyntax}
    (h : pathType? constant (n + 1) plus binder ts = some (a, rest)) :
    PathForm constant n plus binder ts a rest := by
  rw [pathType?] at h
  split at h
  · cases h
  · rename_i path behind hpath
    split at h
    · rename_i hmark
      simp only [Bool.and_eq_true] at hmark
      obtain ⟨⟨hmark, -⟩, hplain⟩ := hmark
      split at h
      · rename_i delimiter inner more hgroup
        cases h
        unfold startsMark afterMark? at hmark
        split at hmark
        · split at hmark
          · rename_i hc
            cases hc
            cases hgroup
            exact .invocation hpath hplain
          · cases hmark
        · cases hmark
      · cases h
    · split at h
      · rename_i hbounded
        have hbinder : binder ≠ [] ∨ (plus && startsMark '+' behind) = true := by
          simpa [Bool.or_eq_true] using hbounded
        split at h
        · rename_i hplus
          obtain ⟨⟨more, rest'⟩, hmore, heq⟩ := Option.map_eq_some_iff.mp h
          cases heq
          rw [hplus, Bool.true_and] at hbinder
          exact .bounded hplus hbinder hpath hmore
        · rename_i hplus
          cases h
          rw [Bool.eq_false_iff.mpr hplus, Bool.false_and] at hbinder
          exact .bound (hbinder.resolve_right Bool.false_ne_true) (Bool.eq_false_iff.mpr hplus) hpath
      · rename_i hbounded
        cases h
        simp only [Bool.or_eq_true, not_or] at hbounded
        exact .path (by simpa using hbounded.1) hpath

/-- Tokens begin as a type does. No literal begins so, and no mark that leads to something else where a
type is expected. -/
inductive TypeHead : List Token → Prop
  | word {word : String} {ts : List Token} (other : word ∉ ["true", "false", "mut"])
    (next : Unlabelled ts) : TypeHead (.word word :: ts)
  | colons {joint : Bool} {ts : List Token} : TypeHead (.mark ':' true :: .mark ':' joint :: ts)
  | mark {c : Char} {ts : List Token} (h : c ∈ ['!', '*', '&', '<']) : TypeHead (Token.lone c :: ts)
  | group {delimiter : Delimiter} {inner ts : List Token} (h : delimiter ≠ .brace) :
    TypeHead (.group delimiter inner :: ts)
  | lifetime {name : String} {ts : List Token} : TypeHead (.lifetime name :: Token.lone '+' :: ts)

/-- Whether tokens begin with a lifetime. -/
def startsLifetime : List Token → Bool
  | .lifetime _ :: _ => true
  | _ => false

theorem startsLifetime_eq_false (h : ∀ name more, ts ≠ .lifetime name :: more) :
    startsLifetime ts = false := by
  unfold startsLifetime
  split
  · exact absurd rfl (h _ _)
  · rfl

theorem PathHead.typeHead (h : PathHead ts) : TypeHead ts ∧ startsLifetime ts = false := by
  cases h with
  | colons => exact ⟨.colons, rfl⟩
  | word step next => exact ⟨.word (not_mem_of_all_not step (by decide)) next, rfl⟩

/-- Bounds that are added are none, where no plus sign stands, or begin with one. -/
inductive AddedForm (ts rest : List Token) : List Token → Prop
  | none (h : startsMark '+' ts = false) (eq : rest = ts) : AddedForm ts rest []
  | some {bounds : List Token} (h : startsMark '+' ts = true) :
    AddedForm ts rest (Token.lone '+' :: bounds)

theorem AddedForm.startsMark_plus {more : List Token} (h : AddedForm ts rest more)
    (hplus : startsMark '+' ts = true) : startsMark '+' (more ++ us) = true := by
  cases h with
  | none h =>
    rw [hplus] at h
    cases h
  | some => rfl

theorem AddedForm.startsMark_colon {more : List Token} (h : AddedForm ts rest more)
    (hus : startsMark ':' us = false) : startsMark ':' (more ++ us) = false := by
  cases h with
  | none => exact hus
  | some => rfl

/-- Bounds that are added to a path. -/
theorem addedForm_of_moreBounds? {more : List Token}
    (h : moreBounds? constant n ts = some (more, rest)) : AddedForm ts rest more := by
  cases n with
  | zero => cases h
  | succ n =>
    rw [moreBounds?] at h
    split at h
    · rename_i hplus
      cases h
      exact .none (by rw [startsMark, hplus, Option.isSome_none]) rfl
    · rename_i after hafter
      have hplus : startsMark '+' ts = true := by rw [startsMark, hafter, Option.isSome_some]
      split at h
      · split at h
        · cases h
        · obtain ⟨_, _, heq⟩ := Option.map_eq_some_iff.mp h
          cases heq
          exact .some hplus
      · cases h
        exact .some hplus

/-- Bounds that are added to a group. -/
theorem addedForm_of_addedBounds? {more : List Token}
    (h : addedBounds? constant n ts = some (more, rest)) : AddedForm ts rest more := by
  cases n with
  | zero => cases h
  | succ n =>
    rw [addedBounds?] at h
    split at h
    · rename_i hplus
      cases h
      exact .none (by rw [startsMark, hplus, Option.isSome_none]) rfl
    · rename_i after hafter
      have hplus : startsMark '+' ts = true := by rw [startsMark, hafter, Option.isSome_some]
      split at h
      · cases h
      · obtain ⟨_, _, heq⟩ := Option.map_eq_some_iff.mp h
        cases heq
        exact .some hplus

/-- The tokens of a type that begins with a path begin as it does, or with the binder before it. -/
theorem typeHead_of_pathType? {binder : List Token} {a : TypeSyntax} (hbinder : IsBinder binder)
    (h : pathType? constant n plus binder ts = some (a, rest)) (hus : startsMark ':' us = false) :
    TypeHead (a.tokens ++ us) ∧ startsLifetime (a.tokens ++ us) = false := by
  cases n with
  | zero => cases h
  | succ n =>
    have hbound : ∀ {path : Path} {behind : List Token} (more : List Token),
        path? constant n ts = some (path, behind) → startsMark ':' (more ++ us) = false →
        TypeHead (binder ++ path.tokens ++ more ++ us) ∧
          startsLifetime (binder ++ path.tokens ++ more ++ us) = false := by
      intro path behind more hpath hmore
      rcases hbinder with rfl | ⟨⟨inner, rfl⟩, _⟩
      · rw [List.nil_append, List.append_assoc]
        exact ((head_of_path? hpath).2 _ hmore).typeHead
      · exact ⟨.word (by decide) (unlabelled_of_eq_false rfl), rfl⟩
    cases pathForm_of_pathType? h with
    | path _ hpath => exact ((head_of_path? hpath).2 us hus).typeHead
    | invocation hpath =>
      rw [TypeSyntax.tokens, List.append_assoc]
      exact ((head_of_path? hpath).2 _ rfl).typeHead
    | bound _ _ hpath =>
      have htokens := hbound [] hpath hus
      rwa [List.append_nil] at htokens
    | bounded _ _ hpath hmore => exact hbound _ hpath ((addedForm_of_moreBounds? hmore).startsMark_colon hus)

/-- The linkage of a function: nothing, or `extern`, possibly with the name of a convention. -/
inductive IsLinkage : List Token → Prop
  | none : IsLinkage []
  | plain : IsLinkage [.word "extern"]
  | named {text : String} (string : (text.startsWith "\"" || text.startsWith "r") = true) :
    IsLinkage [.word "extern", .literal text]

theorem isLinkage_linkage (ts : List Token) : IsLinkage (linkage ts).1 := by
  unfold linkage
  split
  · split
    · rename_i hstring
      exact .named hstring
    · exact .plain
  · exact .plain
  · exact .none

theorem optionalWord_fst (word : String) (ts : List Token) :
    (optionalWord word ts).1 = [] ∨ (optionalWord word ts).1 = [.word word] := by
  unfold optionalWord
  split
  · rename_i hword
    unfold startsWord at hword
    split at hword
    · rw [eq_of_beq hword]
      exact .inr rfl
    · cases hword
  · exact .inl rfl

/-- What a function pointer is put together from. -/
theorem exists_of_function? {function : List Token}
    (h : function? constant (n + 1) ts = some (function, rest)) :
    ∃ unchecked link inner inputs more output,
      (unchecked = [] ∨ unchecked = [.word "unsafe"]) ∧ IsLinkage link ∧
      inputs? constant n true inner = some inputs ∧ output? constant n more = some (output, rest) ∧
      function = unchecked ++ link ++ .word "fn" :: .group .paren inputs :: output := by
  rw [function?] at h
  dsimp only at h
  split at h
  · rename_i inner more _
    split at h
    · cases h
    · rename_i inputs hinputs
      obtain ⟨⟨output, rest'⟩, houtput, heq⟩ := Option.map_eq_some_iff.mp h
      cases heq
      exact ⟨_, _, inner, inputs, more, output, optionalWord_fst _ _, isLinkage_linkage _, hinputs,
        houtput, rfl⟩
  · cases h

/-- A function pointer begins with one of its words, and no mark stands behind it. -/
theorem typeHead_of_function? {function : List Token}
    (h : function? constant n ts = some (function, rest)) (us : List Token) :
    ∃ word more, startsFunction word = true ∧ function ++ us = .word word :: more ∧
      startsMark ':' more = false := by
  cases n with
  | zero => cases h
  | succ n =>
    obtain ⟨unchecked, link, _, inputs, _, output, hunchecked, hlink, -, -, rfl⟩ :=
      exists_of_function? h
    rcases hunchecked with rfl | rfl <;> cases hlink <;> exact ⟨_, _, rfl, rfl, rfl⟩

/-- The kinds of types that begin with a group in parentheses, by what the group holds: nothing, a type that
begins with a lifetime, a bound with a question mark, a type to which bounds are added or not, and types with
commas. -/
inductive ParenForm (constant : Constant) (n : Nat) (plus : Bool) (ts : List Token) :
    List Token → TypeSyntax → List Token → Prop
  | unit : ParenForm constant n plus ts [] (.other [.group .paren []]) ts
  | lifetime {name : String} {inner bounds : List Token}
    (h : bounds? constant n true false (.lifetime name :: inner) = some ((true, bounds), [])) :
    ParenForm constant n plus ts (.lifetime name :: inner) (.paren (.other bounds)) ts
  | relaxed {joint : Bool} {inner bound more rest : List Token}
    (h : traitBound? constant n (.mark '?' joint :: inner) = some (bound, []))
    (hmore : addedBounds? constant n ts = some (more, rest)) :
    ParenForm constant n plus ts (.mark '?' joint :: inner) (.other (.group .paren bound :: more)) rest
  | bounded {inner more rest : List Token} {leading : Bool} {segments : List Segment}
    (plain : startsLifetime inner = false)
    (h : type? constant n true inner = some (.path leading segments, [])) (open' : plus = true)
    (hplus : startsMark '+' ts = true) (hmore : addedBounds? constant n ts = some (more, rest)) :
    ParenForm constant n plus ts inner
      (.other (.group .paren (TypeSyntax.path leading segments).tokens :: more)) rest
  | single {inner : List Token} {type : TypeSyntax} (plain : startsLifetime inner = false)
    (h : type? constant n true inner = some (type, [])) :
    ParenForm constant n plus ts inner (.paren type) ts
  | tuple {inner behind after more : List Token} {first : TypeSyntax}
    (plain : startsLifetime inner = false) (h : type? constant n true inner = some (first, behind))
    (hmore : types? constant n after = some more) :
    ParenForm constant n plus ts inner
      (.other [.group .paren (first.tokens ++ Token.lone ',' :: more)]) ts

/-- A type that begins with a group in parentheses is of one of the kinds. -/
theorem parenForm_of_parenthesized? {inner : List Token} {a : TypeSyntax}
    (h : parenthesized? constant (n + 1) plus inner ts = some (a, rest)) :
    ParenForm constant n plus ts inner a rest := by
  unfold parenthesized? at h
  split at h
  · cases h
  · cases h
    exact .unit
  · rename_i hn _
    obtain rfl := Nat.succ.inj hn
    split at h
    · split at h
      · rename_i hbounds
        cases h
        exact .lifetime hbounds
      · cases h
    · split at h
      · rename_i hbound
        obtain ⟨⟨more, rest'⟩, hmore, heq⟩ := Option.map_eq_some_iff.mp h
        cases heq
        exact .relaxed hbound hmore
      · cases h
    · rename_i hlifetime _
      have plain := startsLifetime_eq_false hlifetime
      split at h
      · cases h
      · rename_i hfirst
        split at h
        · rename_i hplus
          rw [Bool.and_eq_true] at hplus
          split at h
          · obtain ⟨⟨more, rest'⟩, hmore, heq⟩ := Option.map_eq_some_iff.mp h
            cases heq
            exact .bounded plain hfirst hplus.1 hplus.2 hmore
          · cases h
            exact .single plain hfirst
        · cases h
          exact .single plain hfirst
      · rename_i hfirst
        split at h
        · cases h
        · obtain ⟨more, hmore, heq⟩ := Option.map_eq_some_iff.mp h
          cases heq
          exact .tuple plain hfirst hmore

/-- A type that begins with a group in parentheses is given back with such a group in front. -/
theorem exists_of_parenthesized? {inner : List Token} {a : TypeSyntax}
    (h : parenthesized? constant n plus inner ts = some (a, rest)) :
    ∃ inner' more, a.tokens = .group .paren inner' :: more := by
  cases n with
  | zero => cases h
  | succ n => cases parenForm_of_parenthesized? h <;> exact ⟨_, _, rfl⟩

/-- Behind a lifetime that is the first of bounds a plus sign stands, since some bound is no lifetime. -/
theorem exists_of_bounds?_lifetime {name : String} {bounds : List Token}
    (h : bounds? constant n true false (.lifetime name :: ts) = some ((true, bounds), rest)) :
    ∃ more, bounds = .lifetime name :: Token.lone '+' :: more := by
  cases n with
  | zero => cases h
  | succ n =>
    rw [bounds?] at h
    split at h
    · cases h
    · rename_i trait bound behind hbound
      have hlifetime : trait = false ∧ bound = [.lifetime name] := by
        cases n with
        | zero => cases hbound
        | succ n =>
          cases hbound
          exact ⟨rfl, rfl⟩
      obtain ⟨rfl, rfl⟩ := hlifetime
      split at h
      · cases h
      · split at h
        · obtain ⟨⟨⟨_, more⟩, _⟩, _, heq⟩ := Option.map_eq_some_iff.mp h
          cases heq
          exact ⟨more, rfl⟩
        · cases h

/-- The kinds of types with a qualification: of a type itself, or of a trait of it. -/
inductive QualifiedForm (constant : Constant) (n : Nat) (ts : List Token) :
    TypeSyntax → List Token → Prop
  | plain {behind after rest : List Token} {self : TypeSyntax} {segments : List Segment}
    (hself : type? constant n true ts = some (self, behind))
    (hsegments : segments? constant n after = some (segments, rest)) :
    QualifiedForm constant n ts
      (.other (Token.lone '<' :: (self.tokens ++ Token.lone '>' :: Token.colons
        ++ segmentsTokens segments))) rest
  | ofTrait {behind more after rest : List Token} {self : TypeSyntax} {path : Path}
    {segments : List Segment} (hself : type? constant n true ts = some (self, .word "as" :: more))
    (hpath : path? constant n more = some (path, behind))
    (hsegments : segments? constant n after = some (segments, rest)) :
    QualifiedForm constant n ts
      (.other (Token.lone '<' :: (self.tokens ++ .word "as" :: path.tokens
        ++ Token.lone '>' :: Token.colons ++ segmentsTokens segments))) rest

/-- A type with a qualification is of one of the kinds. -/
theorem qualifiedForm_of_qualified? {a : TypeSyntax}
    (h : qualified? constant (n + 1) ts = some (a, rest)) : QualifiedForm constant n ts a rest := by
  rw [qualified?] at h
  split at h
  · cases h
  · rename_i self behind hself
    dsimp only at h
    split at h
    · cases h
    · rename_i trait after htrait
      split at h
      · cases h
      · rename_i last _
        obtain ⟨⟨segments, rest'⟩, hsegments, heq⟩ := Option.map_eq_some_iff.mp h
        cases heq
        split at htrait
        · obtain ⟨⟨path, behind'⟩, hpath, heq⟩ := Option.map_eq_some_iff.mp htrait
          cases heq
          have hform := QualifiedForm.ofTrait hself hpath hsegments
          simpa only [List.cons_append, List.append_assoc] using hform
        · cases htrait
          have hform := QualifiedForm.plain hself hsegments
          simpa only [List.cons_append, List.append_assoc, List.append_nil] using hform

/-- What is given back for a type begins as a type does, and with a lifetime only if the type does. -/
theorem typeHead_of_type? {a : TypeSyntax} (h : type? constant n plus ts = some (a, rest))
    (us : List Token) (hus : startsMark ':' us = false) :
    TypeHead (a.tokens ++ us) ∧ startsLifetime (a.tokens ++ us) = startsLifetime ts := by
  cases n with
  | zero => cases h
  | succ n =>
    cases typeForm_of_type? h with
    | path begins hpath =>
      obtain ⟨hhead, hlifetime⟩ := typeHead_of_pathType? (.inl rfl) hpath hus
      exact ⟨hhead, by cases begins <;> exact hlifetime⟩
    | boundPath hbinder _ hpath => exact typeHead_of_pathType? (isBinder_of_binder? hbinder).1 hpath hus
    | function begins hfunction =>
      obtain ⟨word, more, hword, heq, hmore⟩ := typeHead_of_function? hfunction us
      rw [TypeSyntax.tokens, heq]
      exact ⟨.word (not_mem_of_all_not hword (by decide)) (unlabelled_of_eq_false hmore), rfl⟩
    | boundFunction hbinder =>
      obtain ⟨hbound, hne⟩ := isBinder_of_binder? hbinder
      obtain ⟨⟨inner, rfl⟩, _⟩ := hbound.resolve_left (hne rfl)
      exact ⟨.word (by decide) (unlabelled_of_eq_false rfl), rfl⟩
    | parenthesized hgroup =>
      obtain ⟨inner, more, heq⟩ := exists_of_parenthesized? hgroup
      rw [heq]
      exact ⟨.group (by decide), rfl⟩
    | @object ts inner _ hbounds =>
      have hnext : Unlabelled ((optionalMark '*' ts).1 ++ inner ++ us) := by
        rcases optionalMark_fst '*' ts with hstar | hstar
        · rw [hstar]
          exact unlabelled_of_startsBound (startsBound_of_bounds? hbounds us)
        · rw [hstar]
          exact unlabelled_of_eq_false rfl
      exact ⟨.word (by decide) hnext, rfl⟩
    | abstract hbounds =>
      exact ⟨.word (by decide) (unlabelled_of_startsBound (startsBound_of_bounds? hbounds us)), rfl⟩
    | bounded hbounds =>
      obtain ⟨more, rfl⟩ := exists_of_bounds?_lifetime hbounds
      exact ⟨.lifetime, rfl⟩
    | hole => exact ⟨.word (by decide) (unlabelled_of_eq_false hus), rfl⟩
    | never => exact ⟨.mark (by decide), rfl⟩
    | slice => exact ⟨.group (by decide), rfl⟩
    | array => exact ⟨.group (by decide), rfl⟩
    | pointer => exact ⟨.mark (by decide), rfl⟩
    | reference => exact ⟨.mark (by decide), rfl⟩
    | qualified hqualified =>
      cases n with
      | zero => cases hqualified
      | succ n =>
        cases qualifiedForm_of_qualified? hqualified with
        | plain => exact ⟨.mark (by decide), rfl⟩
        | ofTrait => exact ⟨.mark (by decide), rfl⟩

/-- The same with nothing behind. -/
theorem typeHead_tokens {a : TypeSyntax} (h : type? constant n plus ts = some (a, rest)) :
    TypeHead a.tokens ∧ startsLifetime a.tokens = startsLifetime ts := by
  have hhead := typeHead_of_type? h [] rfl
  rwa [List.append_nil] at hhead

/-! ## Arguments -/

/-- The kinds of arguments: a lifetime, a constant, a literal, a type, and a name that is given a value or
bounds. -/
inductive ArgumentForm (constant : Constant) (n : Nat) : Argument → Prop
  | lifetime {name : String} : ArgumentForm constant n (.lifetime name)
  | bounded {name : String} {ts rest : List Token} {type : TypeSyntax}
    (h : type? constant n true (.lifetime name :: ts) = some (type, rest)) :
    ArgumentForm constant n (.type type)
  | block {inner : List Token} (h : constant [.group .brace inner] = true) :
    ArgumentForm constant n (.other [.group .brace inner])
  | literal {ts literal rest : List Token} (h : literal? ts = some (literal, rest)) :
    ArgumentForm constant n (.other literal)
  | type {ts rest : List Token} {type : TypeSyntax} (plain : startsLifetime ts = false)
    (h : type? constant n true ts = some (type, rest)) : ArgumentForm constant n (.type type)
  | given {ts behind after value rest : List Token} {type : TypeSyntax}
    (plain : startsLifetime ts = false) (h : type? constant n true ts = some (type, behind))
    (name : isArgumentName type = true) (hvalue : given? constant n after = some (value, rest)) :
    ArgumentForm constant n (.other (type.tokens ++ Token.lone '=' :: value))
  | limited {ts behind after bounds rest : List Token} {type : TypeSyntax}
    (plain : startsLifetime ts = false) (h : type? constant n true ts = some (type, behind))
    (name : isArgumentName type = true)
    (hbounds : argumentBounds? constant n after = some (bounds, rest)) :
    ArgumentForm constant n (.other (type.tokens ++ Token.lone ':' :: bounds))

/-- What is read as an argument is of one of the kinds. -/
theorem argumentForm_of_argument? {a : Argument}
    (h : argument? constant (n + 1) ts = some (a, rest)) : ArgumentForm constant n a := by
  unfold argument? at h
  split at h
  · split at h
    · obtain ⟨⟨type, rest'⟩, htype, heq⟩ := Option.map_eq_some_iff.mp h
      cases heq
      exact .bounded htype
    · cases h
      exact .lifetime
  · split at h
    · rename_i hconstant
      cases h
      exact .block hconstant
    · cases h
  · rename_i hlifetime _
    have plain := startsLifetime_eq_false hlifetime
    split at h
    · rename_i hliteral
      cases h
      exact .literal hliteral
    · split at h
      · cases h
      · rename_i htype
        split at h
        · rename_i hname
          split at h
          · obtain ⟨⟨value, rest'⟩, hvalue, heq⟩ := Option.map_eq_some_iff.mp h
            cases heq
            exact .given plain htype hname hvalue
          · split at h
            · obtain ⟨⟨bounds, rest'⟩, hbounds, heq⟩ := Option.map_eq_some_iff.mp h
              cases heq
              exact .limited plain htype hname hbounds
            · cases h
              exact .type plain htype
        · cases h
          exact .type plain htype

end Specimen.Source.Grammar
