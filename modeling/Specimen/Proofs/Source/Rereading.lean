import Specimen.Proofs.Source.Composition

/-!
# Reading again what is given back

The tokens that are given back for a path or a type are not those that it was read from: marks are not
joint any more but in `::` and `->`, lifetimes come first among the arguments of a step, and a comma may be
added behind the last argument. They can be read again as what they are given back for, as a path or as a
type (`path?_tokens`, `type?_tokens`).

Behind the tokens of a part there stands something else than what stood behind the part when it was read.
What may stand there is the one thing to be careful about: nothing that the reader would take to belong to
the part (`Follows`, `Stops`, `Closing`). `AllReread` says of all readers at a number of steps that what they
read can be read again, with as many steps as there are tokens, eight for each; it holds for no steps and
carries over to one more step reader by reader (`AllReread.succ`).
-/

namespace Specimen.Source

open Text Token

namespace Grammar

variable {constant : Constant} {n : Nat} {plus : Bool} {ts us rest rest' : List Token}

/-! ## Reading again -/

/-- What a reader reads can be read again from its tokens, with other tokens behind it and with eight
steps for each token besides some. What is read then is alike. -/
def Rereads {α : Type} (tokens : α → List Token) (extra : Nat) (alike : α → α → Prop)
    (follows : List Token → List Token → Prop) (reader : Nat → Reader α) (n : Nat) : Prop :=
  ∀ ts a rest, reader n ts = some (a, rest) → ∀ rest', follows rest rest' →
    ∀ m, 8 * count (tokens a) + extra ≤ m →
      ∃ a', reader m (tokens a ++ rest') = some (a', rest') ∧ alike a a'

/-- The same of a reader that a whole sequence is read with, of which it gives back tokens. -/
def RereadsAll (extra : Nat) (reader : Nat → List Token → Option (List Token)) (n : Nat) : Prop :=
  ∀ ts us, reader n ts = some us → ∀ m, 8 * count us + extra ≤ m → ∃ us', reader m us = some us'

/-- The tokens of an argument can be read again. They do not begin with the bracket that closes
arguments. -/
structure RereadsArgument (constant : Constant) (ts : List Token) : Prop where
  opens : ∀ us, afterMark? '>' (ts ++ us) = none
  reads : ∀ rest', Closing rest' → ∀ m, 8 * count ts + 7 ≤ m →
    ∃ a, argument? constant m (ts ++ rest') = some (a, rest')

/-- What all readers read at a number of steps can be read again. -/
structure AllReread (constant : Constant) (n : Nat) : Prop where
  type : ∀ plus, Rereads TypeSyntax.tokens 6 TypeSyntax.Alike (Follows plus)
    (fun n => type? constant n plus) n
  pathType : ∀ plus binder, IsBinder binder → ∀ ts a rest,
    pathType? constant n plus binder ts = some (a, rest) → ∀ rest', Follows plus rest rest' →
      ∀ m, 8 * count a.tokens + 3 ≤ m → ∃ binder' us a', (binder' = [] ∨ binder' = binder) ∧
        a.tokens = binder' ++ us ∧ us.head? = ts.head? ∧ (Begins ts → Begins us) ∧
        pathType? constant m plus binder' (us ++ rest') = some (a', rest') ∧ a.Alike a'
  parenthesized : ∀ plus inner ts a rest, parenthesized? constant n plus inner ts = some (a, rest) →
    ∀ rest', Follows plus rest rest' → ∀ m, 8 * count a.tokens + 5 ≤ m →
      ∃ inner' us a', a.tokens = .group .paren inner' :: us ∧
        parenthesized? constant m plus inner' (us ++ rest') = some (a', rest') ∧ a.Alike a'
  types : RereadsAll 7 (types? constant) n
  qualified : ∀ ts a rest, qualified? constant n ts = some (a, rest) → ∀ rest', Stops rest' →
    ∀ m, 8 * count a.tokens ≤ m → ∃ us a', a.tokens = Token.lone '<' :: us ∧
      qualified? constant m (us ++ rest') = some (a', rest') ∧ a.Alike a'
  function : Rereads id 5 (fun _ _ => True) (Follows false) (function? constant) n
  inputs : ∀ first, RereadsAll 7 (fun n => inputs? constant n first) n
  output : Rereads id 1 (fun _ _ => True) (Follows false) (output? constant) n
  bounds : ∀ plus captures, Rereads Prod.snd 5 (fun read read' => read'.1 = read.1) (Follows false)
    (fun n => bounds? constant n plus captures) n
  moreBounds : Rereads id 1 (fun _ _ => True) (Follows false) (moreBounds? constant) n
  addedBounds : Rereads id 1 (fun _ _ => True) (Follows false) (addedBounds? constant) n
  bound : ∀ captures, Rereads Prod.snd 4 (fun read read' => read'.1 = read.1) (Follows false)
    (fun n => bound? constant n captures) n
  traitBound : Rereads id 3 (fun _ _ => True) (Follows false) (traitBound? constant) n
  path : Rereads Path.tokens 2 Path.Alike (fun _ => Stops) (path? constant) n
  segments : Rereads segmentsTokens 1 (List.Forall₂ Segment.Alike) (fun _ => Stops)
    (segments? constant) n
  segment : Rereads Segment.tokens 0 Segment.Alike (fun _ => StepEnds) (segment? constant) n
  arguments : ∀ ts items trailing rest, arguments? constant n ts = some ((items, trailing), rest) →
    ∀ item ∈ items, RereadsArgument constant item.tokens
  argument : ∀ ts a rest, argument? constant n ts = some (a, rest) → RereadsArgument constant a.tokens
  given : Rereads id 7 (fun _ _ => True) (fun _ => Closing) (given? constant) n
  argumentBounds : Rereads id 5 (fun _ _ => True) (fun _ => Closing) (argumentBounds? constant) n

/-- Without steps nothing is read, so nothing has to be read again. -/
theorem allReread_zero (constant : Constant) : AllReread constant 0 := by
  constructor <;> (try unfold Rereads) <;> (try unfold RereadsAll) <;> intros <;> contradiction

/-- A type can be read again with nothing behind it. -/
theorem AllReread.type_alone (ih : AllReread constant n) {a : TypeSyntax}
    (h : type? constant n plus ts = some (a, rest)) {m : Nat} (hm : 8 * count a.tokens + 6 ≤ m) :
    ∃ a', type? constant m plus a.tokens = some (a', []) ∧ a.Alike a' := by
  obtain ⟨a', hread, halike⟩ := ih.type plus _ _ _ h [] .nil m hm
  dsimp only at hread
  rw [List.append_nil] at hread
  exact ⟨a', hread, halike⟩

/-! ## Arguments -/

/-- Arguments in a row have commas between them, and possibly one behind the last. -/
theorem join_cons (argument : ArgumentTokens) (items : List ArgumentTokens) :
    ArgumentTokens.join true (argument :: items) =
        argument.tokens ++ Token.lone ',' :: ArgumentTokens.join true items ∨
      items = [] ∧ ArgumentTokens.join true (argument :: items) = argument.tokens := by
  cases hcomma : argument.comma with
  | true =>
    left
    simp only [ArgumentTokens.join, hcomma, if_true, List.nil_append, List.append_assoc,
      List.singleton_append]
  | false =>
    cases items with
    | nil =>
      right
      simp only [ArgumentTokens.join, hcomma, if_true, Bool.false_eq_true, if_false,
        List.nil_append, List.append_nil, true_and]
    | cons other items =>
      left
      simp only [ArgumentTokens.join, hcomma, if_true, Bool.false_eq_true, if_false,
        List.nil_append, List.append_nil, List.append_assoc, List.cons_append]

/-- Arguments that can be read again one by one can be read again in a row, in any order. -/
theorem arguments?_join {items : List ArgumentTokens}
    (h : ∀ item ∈ items, RereadsArgument constant item.tokens) (rest : List Token) {m : Nat}
    (hm : 8 * count (ArgumentTokens.join true items ++ [Token.lone '>']) + 8 ≤ m) :
    ∃ read trailing, arguments? constant m (ArgumentTokens.join true items ++ Token.lone '>' :: rest) =
      some ((read, trailing), rest) ∧ read.isEmpty = items.isEmpty := by
  induction items generalizing m with
  | nil =>
    obtain ⟨m, rfl⟩ : ∃ k, m = k + 1 := ⟨m - 1, by omega⟩
    refine ⟨[], false, ?_, rfl⟩
    rw [arguments?]
    rfl
  | cons argument items ih =>
    obtain ⟨m, rfl⟩ : ∃ k, m = k + 1 := ⟨m - 1, by omega⟩
    obtain ⟨⟨opens, reads⟩, hitems⟩ := List.forall_mem_cons.mp h
    rcases join_cons argument items with hjoin | ⟨rfl, hjoin⟩
    · have hcount : count (ArgumentTokens.join true (argument :: items) ++ [Token.lone '>']) =
          count argument.tokens +
            (count (ArgumentTokens.join true items ++ [Token.lone '>']) + 1) := by
        rw [hjoin, List.append_assoc, List.cons_append, count_append, count_lone]
      obtain ⟨a, hread⟩ := reads (Token.lone ',' ::
        (ArgumentTokens.join true items ++ Token.lone '>' :: rest)) .comma m (by omega)
      obtain ⟨read, trailing, hreadItems, -⟩ := ih hitems (m := m) (by omega)
      refine ⟨a :: read, trailing || read.isEmpty, ?_, rfl⟩
      have hclosing : ∀ ts, afterMark? '>' (Token.lone ',' :: ts) = none := fun _ => rfl
      have hcomma : ∀ ts, afterMark? ',' (Token.lone ',' :: ts) = some ts := fun _ => rfl
      rw [hjoin, List.append_assoc, List.cons_append, arguments?, opens, hread]
      simp only [hclosing, hcomma, hreadItems, Option.map_some]
    · have hcount : count (ArgumentTokens.join true [argument] ++ [Token.lone '>']) =
          count argument.tokens + 1 := by
        rw [hjoin, count_append, count_lone, count_nil]
      obtain ⟨a, hread⟩ := reads (Token.lone '>' :: rest) .bracket m (by omega)
      refine ⟨[a], false, ?_, rfl⟩
      rw [hjoin, arguments?, opens, hread]
      rfl

/-- What is given back for arguments is given back for each of them. -/
theorem exists_of_mem_argumentsTokens {trailing : Bool} {items : List Argument} {x : ArgumentTokens}
    (h : x ∈ argumentsTokens trailing items) : ∃ item ∈ items, x.tokens = item.tokens := by
  induction items with
  | nil => cases h
  | cons item items ih =>
    cases items with
    | nil =>
      rw [argumentsTokens, List.mem_singleton] at h
      exact ⟨item, List.mem_cons_self, congrArg _ h⟩
    | cons other items =>
      rw [argumentsTokens, List.mem_cons] at h
      · rcases h with rfl | h
        · exact ⟨item, List.mem_cons_self, rfl⟩
        · obtain ⟨item', hmem, heq⟩ := ih h
          exact ⟨item', List.mem_cons_of_mem _ hmem, heq⟩
      · exact List.cons_ne_nil _ _

theorem lifetimesFirst_isEmpty (trailing : Bool) (items : List Argument) :
    (ArgumentTokens.lifetimesFirst (argumentsTokens trailing items)).isEmpty = items.isEmpty := by
  have hperm : (ArgumentTokens.lifetimesFirst (argumentsTokens trailing items)).Perm
      (argumentsTokens trailing items) :=
    List.filter_append_perm _ _
  have hlength : (argumentsTokens trailing items).isEmpty = items.isEmpty := by
    rcases items with _ | ⟨item, _ | ⟨other, items⟩⟩ <;> simp [argumentsTokens]
  rw [← hlength]
  exact hperm.isEmpty_eq

namespace AllReread

/-! ## Paths -/

/-- Steps begin with a word, and so do their tokens. -/
theorem exists_segmentsTokens {segments : List Segment}
    (h : segments? constant n ts = some (segments, rest)) :
    ∃ word more, segmentsTokens segments = .word word :: more := by
  obtain ⟨word, more, rfl⟩ := exists_of_segments? h
  have hhead := head?_of_segments? h
  rcases segments with _ | ⟨⟨name, arguments⟩, segments⟩
  · cases hhead
  · exact ⟨_, _, segmentsTokens_cons name arguments segments⟩

/-- A path is read again from its steps. -/
theorem path_succ (ih : AllReread constant n) :
    Rereads Path.tokens 2 Path.Alike (fun _ => Stops) (path? constant) (n + 1) := by
  intro ts a rest h rest' stops m hm
  obtain ⟨m, rfl⟩ : ∃ k, m = k + 1 := ⟨m - 1, by omega⟩
  rw [path?] at h
  split at h
  · rename_i after hafter
    obtain ⟨⟨segments, rest⟩, hsegments, heq⟩ := Option.map_eq_some_iff.mp h
    cases heq
    have hcount : count (Path.tokens ⟨true, segments⟩) = 2 + count (segmentsTokens segments) := by
      rw [Path.tokens, if_pos rfl, count_append, count_colons]
    obtain ⟨segments', hread, halike⟩ := ih.segments _ _ _ hsegments rest' stops m (by omega)
    have hcolons : afterMarks? ':' ':' (Path.tokens ⟨true, segments⟩ ++ rest') =
        some (segmentsTokens segments ++ rest') := rfl
    refine ⟨⟨true, segments'⟩, ?_, ⟨rfl, halike⟩⟩
    rw [path?, hcolons]
    simp only [hread, Option.map_some]
  · obtain ⟨⟨segments, rest⟩, hsegments, heq⟩ := Option.map_eq_some_iff.mp h
    cases heq
    have htokens : Path.tokens ⟨false, segments⟩ = segmentsTokens segments := rfl
    rw [htokens] at hm ⊢
    obtain ⟨segments', hread, halike⟩ := ih.segments _ _ _ hsegments rest' stops m (by omega)
    have hcolons : afterMarks? ':' ':' (segmentsTokens segments ++ rest') = none := by
      obtain ⟨word, more, hword⟩ := exists_segmentsTokens hsegments
      rw [hword]
      rfl
    refine ⟨⟨false, segments'⟩, ?_, ⟨rfl, halike⟩⟩
    rw [path?, hcolons]
    simp only [hread, Option.map_some]

/-- Steps are read again one by one, and nothing more of the path is found behind the last. -/
theorem segments_succ (ih : AllReread constant n) :
    Rereads segmentsTokens 1 (List.Forall₂ Segment.Alike) (fun _ => Stops)
      (segments? constant) (n + 1) := by
  intro ts a rest h rest' stops m hm
  obtain ⟨m, rfl⟩ : ∃ k, m = k + 1 := ⟨m - 1, by omega⟩
  -- one step on its own ends where nothing continues the path
  have hlast : ∀ {segment : Segment} {behind : List Token},
      segment? constant n ts = some (segment, behind) → a = [segment] →
      ∃ a', segments? constant (m + 1) (segmentsTokens a ++ rest') = some (a', rest') ∧
        List.Forall₂ Segment.Alike a a' := by
    rintro segment behind hsegment rfl
    have htokens : segmentsTokens [segment] = segment.tokens := by rw [segmentsTokens]
    rw [htokens] at hm ⊢
    obtain ⟨segment', hread, halike⟩ :=
      ih.segment _ _ _ hsegment rest' stops.stepEnds m (by omega)
    refine ⟨[segment'], ?_, .cons halike .nil⟩
    rw [segments?, hread]
    simp only [stops.colons]
  rw [segments?] at h
  split at h
  · cases h
  · rename_i segment behind hsegment
    split at h
    · cases h
      exact hlast hsegment rfl
    · rename_i after hafter
      split at h
      · cases h
        exact hlast hsegment rfl
      · obtain ⟨⟨more, rest⟩, hmore, heq⟩ := Option.map_eq_some_iff.mp h
        cases heq
        obtain ⟨word, us, hword⟩ := exists_segmentsTokens hmore
        have htokens : segmentsTokens (segment :: more) =
            segment.tokens ++ Token.colons ++ segmentsTokens more := by
          cases more with
          | nil => cases hword
          | cons other more =>
            rw [segmentsTokens]
            exact List.cons_ne_nil _ _
        have hcount : count (segmentsTokens (segment :: more)) =
            count segment.tokens + 2 + count (segmentsTokens more) := by
          rw [htokens, count_append, count_append, count_colons]
        have hends : StepEnds (Token.colons ++ segmentsTokens more ++ rest') := by
          rw [hword]
          exact ⟨rfl, rfl⟩
        obtain ⟨segment', hread, halike⟩ := ih.segment _ _ _ hsegment _ hends m (by omega)
        obtain ⟨more', hreadMore, halikeMore⟩ := ih.segments _ _ _ hmore rest' stops m (by omega)
        refine ⟨segment' :: more', ?_, .cons halike halikeMore⟩
        have hcolons : afterMarks? ':' ':' (Token.colons ++ segmentsTokens more ++ rest') =
            some (segmentsTokens more ++ rest') := rfl
        have hparen : startsParen (segmentsTokens more ++ rest') = false := by
          rw [hword]
          rfl
        rw [htokens, List.append_assoc, List.append_assoc, ← List.append_assoc Token.colons,
          segments?, hread]
        simp only [hcolons, hparen, Bool.false_eq_true, if_false, hreadMore, Option.map_some]

/-- A step is read again with its arguments in the order in which they are given back. -/
theorem segment_succ (ih : AllReread constant n) :
    Rereads Segment.tokens 0 Segment.Alike (fun _ => StepEnds) (segment? constant) (n + 1) := by
  intro ts a rest h rest' ends m hm
  have hstep : isStep a.name = true := by
    obtain ⟨more, rfl, _⟩ := exists_of_segment? h
    exact isStep_of_segment? h
  obtain ⟨name, arguments⟩ := a
  rw [Segment.tokens, count] at hm
  obtain ⟨m, rfl⟩ : ∃ k, m = k + 1 := ⟨m - 1, by omega⟩
  cases arguments with
  | none => exact ⟨.mk name .none, segment?_bare hstep ends, ⟨rfl, rfl, rfl⟩⟩
  | angled colons items trailing =>
    obtain ⟨hplain, hname, after, hread⟩ := exists_of_segment?_angled h
    rw [Arguments.tokens] at hm
    have hitems : ∀ x ∈ ArgumentTokens.lifetimesFirst (argumentsTokens trailing items),
        RereadsArgument constant x.tokens := by
      intro x hx
      have hmem : x ∈ argumentsTokens trailing items :=
        (List.filter_append_perm _ _).mem_iff.mp hx
      obtain ⟨item, hitem, heq⟩ := exists_of_mem_argumentsTokens hmem
      rw [heq]
      exact ih.arguments _ _ _ _ hread item hitem
    rw [count_append, count_lone] at hm
    obtain ⟨items', trailing', hread', hempty⟩ := arguments?_join hitems rest' (m := m) (by omega)
    refine ⟨.mk name (.angled colons items' trailing'), ?_, ⟨rfl, rfl, ?_⟩⟩
    · rw [Segment.tokens, Arguments.tokens, List.cons_append, List.append_assoc, List.cons_append,
        List.append_assoc, List.singleton_append]
      exact segment?_brackets hplain hname colons hread'
    · rw [lifetimesFirst_isEmpty] at hempty
      exact hempty

/-! ## Arguments -/

/-- Every argument in brackets can be read again. -/
theorem arguments_succ (ih : AllReread constant n) (ts : List Token) (items : List Argument)
    (trailing : Bool) (rest : List Token)
    (h : arguments? constant (n + 1) ts = some ((items, trailing), rest)) :
    ∀ item ∈ items, RereadsArgument constant item.tokens := by
  rw [arguments?] at h
  split at h
  · cases h
    exact fun item hitem => absurd hitem List.not_mem_nil
  · split at h
    · cases h
    · rename_i argument behind hargument
      have hfirst := ih.argument _ _ _ hargument
      split at h
      · cases h
        exact List.forall_mem_singleton.mpr hfirst
      · split at h
        · cases h
        · obtain ⟨⟨⟨items, trailing⟩, rest⟩, hread, heq⟩ := Option.map_eq_some_iff.mp h
          cases heq
          exact List.forall_mem_cons.mpr ⟨hfirst, ih.arguments _ _ _ _ hread⟩

/-- An argument that is a type is read again as one. -/
theorem rereadsArgument_type (ih : AllReread constant n) {type : TypeSyntax}
    (plain : startsLifetime ts = false) (h : type? constant n true ts = some (type, rest)) :
    RereadsArgument constant type.tokens := by
  obtain ⟨head, hlifetime⟩ := typeHead_tokens h
  rw [plain] at hlifetime
  refine ⟨head.afterMark?_eq (by decide), fun rest' closing m hm => ?_⟩
  obtain ⟨m, rfl⟩ : ∃ k, m = k + 1 := ⟨m - 1, by omega⟩
  obtain ⟨type', hread, _⟩ := ih.type true _ _ _ h rest' closing.follows m (by omega)
  exact ⟨.type type', argument?_type head hlifetime hread (closing.afterMark?_eq (by decide))
    (closing.afterMark?_eq (by decide))⟩

/-- An argument that is given something by name is read again, if it can be read from its name and what it
is given. -/
theorem rereadsArgument_named (ih : AllReread constant n) {type : TypeSyntax}
    (plain : startsLifetime ts = false) (h : type? constant n true ts = some (type, rest)) {c : Char}
    (hc : c ∈ [',', '>', ';', '=', ':']) {value : List Token}
    (reads : ∀ m type' rest', TypeHead type.tokens → startsLifetime type.tokens = false →
      type.Alike type' → Closing rest' → 8 * count value + 7 ≤ m →
      type? constant m true (type.tokens ++ Token.lone c :: (value ++ rest')) =
        some (type', Token.lone c :: (value ++ rest')) →
      ∃ a, argument? constant (m + 1) (type.tokens ++ Token.lone c :: (value ++ rest')) =
        some (a, rest')) :
    RereadsArgument constant (type.tokens ++ Token.lone c :: value) := by
  obtain ⟨head, hlifetime⟩ := typeHead_tokens h
  rw [plain] at hlifetime
  refine ⟨fun us => ?_, fun rest' closing m hm => ?_⟩
  · rw [List.append_assoc]
    exact head.afterMark?_eq (by decide) _
  · rw [count_append, count_lone] at hm
    obtain ⟨m, rfl⟩ : ∃ k, m = k + 1 := ⟨m - 1, by omega⟩
    obtain ⟨type', hread, halike⟩ := ih.type true _ _ _ h
      (Token.lone c :: (value ++ rest')) (.mark hc) m (by omega)
    rw [List.append_assoc, List.cons_append]
    exact reads m type' rest' head hlifetime halike closing (by omega) hread

/-- A type that begins with a lifetime is read again as an argument, by the plus sign behind the lifetime. -/
theorem rereadsArgument_bounded (ih : AllReread constant n) {name : String} {type : TypeSyntax}
    (h : type? constant n true (.lifetime name :: ts) = some (type, rest)) :
    RereadsArgument constant type.tokens := by
  obtain ⟨head, hlifetime⟩ := typeHead_tokens h
  obtain ⟨name', us, htokens⟩ := head.exists_lifetime hlifetime
  refine ⟨head.afterMark?_eq (by decide), fun rest' closing m hm => ?_⟩
  obtain ⟨m, rfl⟩ : ∃ k, m = k + 1 := ⟨m - 1, by omega⟩
  obtain ⟨type', hread, -⟩ := ih.type true _ _ _ h rest' closing.follows m (by omega)
  have hplus : startsMark '+' (Token.lone '+' :: (us ++ rest')) = true := rfl
  refine ⟨.type type', ?_⟩
  rw [htokens, List.cons_append, List.cons_append] at hread ⊢
  rw [argument?]
  simp only [hplus, if_true, hread, Option.map_some]

/-- A lifetime is read again as an argument, since no plus sign stands behind it. -/
theorem rereadsArgument_lifetime (constant : Constant) (name : String) :
    RereadsArgument constant [.lifetime name] := by
  refine ⟨fun us => rfl, fun rest' closing m hm => ⟨.lifetime name, ?_⟩⟩
  obtain ⟨m, rfl⟩ : ∃ k, m = k + 1 := ⟨m - 1, by omega⟩
  have hplus : startsMark '+' rest' = false := by
    rw [startsMark, closing.afterMark?_eq (by decide), Option.isSome_none]
  rw [List.singleton_append, argument?]
  simp only [hplus, Bool.false_eq_true, if_false]

/-- A constant in braces is read again as an argument. -/
theorem rereadsArgument_block {inner : List Token} (h : constant [.group .brace inner] = true) :
    RereadsArgument constant [.group .brace inner] := by
  refine ⟨fun us => rfl, fun rest' closing m hm => ⟨.other [.group .brace inner], ?_⟩⟩
  obtain ⟨m, rfl⟩ : ∃ k, m = k + 1 := ⟨m - 1, by omega⟩
  rw [List.singleton_append, argument?]
  exact if_pos h

/-- A literal is read again as an argument. -/
theorem rereadsArgument_literal {literal : List Token} (h : literal? ts = some (literal, rest)) :
    RereadsArgument constant literal := by
  refine ⟨fun us => afterMark?_of_literal? (literal?_append h us) (by decide),
    fun rest' closing m hm => ⟨.other literal, ?_⟩⟩
  obtain ⟨m, rfl⟩ : ∃ k, m = k + 1 := ⟨m - 1, by omega⟩
  exact argument?_literal h rest'

/-- An argument is read again, whatever its kind. -/
theorem argument_succ (ih : AllReread constant n) (ts : List Token) (a : Argument)
    (rest : List Token) (h : argument? constant (n + 1) ts = some (a, rest)) :
    RereadsArgument constant a.tokens := by
  cases argumentForm_of_argument? h with
  | lifetime => exact rereadsArgument_lifetime constant _
  | bounded htype => exact rereadsArgument_bounded ih htype
  | block hconstant => exact rereadsArgument_block hconstant
  | literal hliteral => exact rereadsArgument_literal hliteral
  | type plain htype => exact rereadsArgument_type ih plain htype
  | given plain htype hname hvalue =>
    refine rereadsArgument_named ih plain htype (by decide) ?_
    intro m type' rest' head hlifetime halike closing hm hread
    obtain ⟨_, hreadValue, -⟩ := ih.given _ _ _ hvalue rest' closing m hm
    have hname' := halike.isArgumentName_eq.trans hname
    exact ⟨_, argument?_given head hlifetime hname' hread hreadValue⟩
  | limited plain htype hname hbounds =>
    refine rereadsArgument_named ih plain htype (by decide) ?_
    intro m type' rest' head hlifetime halike closing hm hread
    obtain ⟨_, hreadBounds, -⟩ := ih.argumentBounds _ _ _ hbounds rest' closing m (by rw [id]; omega)
    have hname' := halike.isArgumentName_eq.trans hname
    exact ⟨_, argument?_bounds head hlifetime hname' hread hreadBounds⟩

/-- What an argument is given is read again. -/
theorem given_succ (ih : AllReread constant n) :
    Rereads id 7 (fun _ _ => True) (fun _ => Closing) (given? constant) (n + 1) := by
  intro ts a rest h rest' closing m hm
  obtain ⟨m, rfl⟩ : ∃ k, m = k + 1 := ⟨m - 1, by omega⟩
  unfold given? at h
  split at h
  · rename_i inner more
    split at h
    · rename_i hconstant
      cases h
      refine ⟨[.group .brace inner], ?_, trivial⟩
      rw [id, List.singleton_append, given?]
      exact if_pos hconstant
    · cases h
  · split at h
    · rename_i hliteral
      cases h
      have hread := literal?_append hliteral rest'
      refine ⟨a, ?_, trivial⟩
      unfold given?
      split
      · rename_i heq
        rw [id] at heq
        rw [heq] at hread
        cases hread
      · simp only [id, hread]
    · obtain ⟨⟨type, rest⟩, htype, heq⟩ := Option.map_eq_some_iff.mp h
      cases heq
      obtain ⟨head, -⟩ := typeHead_tokens htype
      rw [id] at hm
      obtain ⟨type', hread, -⟩ := ih.type true _ _ _ htype rest' closing.follows m (by omega)
      refine ⟨type'.tokens, ?_, trivial⟩
      unfold given?
      split
      · rename_i heq
        exact absurd heq head.ne_brace
      · simp only [id, head.literal?_eq, hread, Option.map_some]

/-- The bounds of an argument are read again up to what ends it. -/
theorem argumentBounds_succ (ih : AllReread constant n) :
    Rereads id 5 (fun _ _ => True) (fun _ => Closing) (argumentBounds? constant) (n + 1) := by
  intro ts a rest h rest' closing m hm
  obtain ⟨m, rfl⟩ : ∃ k, m = k + 1 := ⟨m - 1, by omega⟩
  rw [argumentBounds?] at h
  split at h
  · cases h
    refine ⟨[], ?_, trivial⟩
    rw [id, List.nil_append, argumentBounds?]
    cases closing <;> rfl
  · split at h
    · cases h
    · rename_i trait bound behind hbound
      have hends : ∀ us, (startsMark ',' (bound ++ us) || startsMark '>' (bound ++ us)) = false :=
        fun us => by
          have hstarts := startsBound_of_bound? hbound us
          rw [startsMark_of_startsBound hstarts (by decide),
            startsMark_of_startsBound hstarts (by decide), Bool.or_self]
      split at h
      · cases h
        rw [id] at hm
        have hcount : 8 * count a + 4 ≤ m := by omega
        obtain ⟨⟨_, bound'⟩, hread, -⟩ := ih.bound false _ _ _ hbound rest' closing.follows m hcount
        refine ⟨bound', ?_, trivial⟩
        rw [id, argumentBounds?, hends]
        simp only [Bool.false_eq_true, if_false, hread, closing.afterMark?_eq (c := '+') (by decide)]
      · rename_i after hafter
        obtain ⟨⟨more, rest⟩, hmore, heq⟩ := Option.map_eq_some_iff.mp h
        cases heq
        rw [id, count_append, count_lone] at hm
        have hplus : startsMark '+' behind = true := by rw [startsMark, hafter, Option.isSome_some]
        have hafter' : afterMark? '+' (Token.lone '+' :: (more ++ rest')) = some (more ++ rest') := rfl
        have hcount : 8 * count bound + 4 ≤ m := by omega
        obtain ⟨⟨_, bound'⟩, hread, -⟩ := ih.bound false _ _ _ hbound
          (Token.lone '+' :: (more ++ rest')) (.added rfl hplus) m hcount
        obtain ⟨more', hreadMore, -⟩ := ih.argumentBounds _ _ _ hmore rest' closing m
          (by rw [id]; omega)
        refine ⟨bound' ++ Token.lone '+' :: more', ?_, trivial⟩
        rw [id, List.append_assoc, List.cons_append, argumentBounds?, hends]
        simp only [Bool.false_eq_true, if_false, hread, hafter']
        rw [id] at hreadMore
        rw [hreadMore, Option.map_some]

/-! ## Functions -/

/-- A result is read again, or none is. -/
theorem output_succ (ih : AllReread constant n) :
    Rereads id 1 (fun _ _ => True) (Follows false) (output? constant) (n + 1) := by
  intro ts a rest h rest' follows m hm
  obtain ⟨m, rfl⟩ : ∃ k, m = k + 1 := ⟨m - 1, by omega⟩
  rw [output?] at h
  split at h
  · obtain ⟨⟨type, rest⟩, htype, heq⟩ := Option.map_eq_some_iff.mp h
    cases heq
    have hcount : count (arrow ++ type.tokens) = 2 + count type.tokens := by
      rw [count_append, arrow, count, count_lone, count_nil]
    rw [id] at hm
    obtain ⟨type', hread, -⟩ := ih.type false _ _ _ htype rest' follows m (by omega)
    have harrow : afterMarks? '-' '>' (arrow ++ (type.tokens ++ rest')) =
        some (type.tokens ++ rest') := rfl
    refine ⟨arrow ++ type'.tokens, ?_, trivial⟩
    rw [id, List.append_assoc, output?, harrow]
    simp only [hread, Option.map_some]
  · cases h
    have harrow : afterMarks? '-' '>' rest' = none :=
      afterMarks?_eq_none (follows.afterMark?_eq (by decide))
    refine ⟨[], ?_, trivial⟩
    rw [id, List.nil_append, output?, harrow]

/-- A function pointer is read again with its inputs and its result. -/
theorem function_succ (ih : AllReread constant n) :
    Rereads id 5 (fun _ _ => True) (Follows false) (function? constant) (n + 1) := by
  intro ts a rest h rest' follows m hm
  obtain ⟨m, rfl⟩ : ∃ k, m = k + 1 := ⟨m - 1, by omega⟩
  obtain ⟨unchecked, link, inner, inputs, more, output, hunchecked, hlink, hinputs, houtput, rfl⟩ :=
    exists_of_function? h
  rw [id, count_append, count_append, count, count] at hm
  obtain ⟨inputs', hreadInputs⟩ := ih.inputs true _ _ hinputs m (by omega)
  obtain ⟨output', hreadOutput, -⟩ := ih.output _ _ _ houtput rest' follows m (by rw [id]; omega)
  rw [id] at hreadOutput
  have hword : startsWord "unsafe" (link ++ .word "fn" :: .group .paren inputs :: (output ++ rest')) =
      false := by
    cases hlink <;> rfl
  refine ⟨unchecked ++ link ++ .word "fn" :: .group .paren inputs' :: output', ?_, trivial⟩
  rw [id, List.append_assoc, List.append_assoc, List.cons_append, List.cons_append, function?,
    optionalWord_append hunchecked hword]
  dsimp only
  rw [linkage_append hlink]
  simp only [hreadInputs, hreadOutput, Option.map_some]

/-- Types with commas between them are read again. -/
theorem types_succ (ih : AllReread constant n) : RereadsAll 7 (types? constant) (n + 1) := by
  intro ts us h m hm
  obtain ⟨m, rfl⟩ : ∃ k, m = k + 1 := ⟨m - 1, by omega⟩
  unfold types? at h
  split at h
  · cases h
  · cases h
    exact ⟨[], rfl⟩
  · rename_i hn _
    obtain rfl := Nat.succ.inj hn
    split at h
    · rename_i type htype
      cases h
      obtain ⟨type', hread, -⟩ := ih.type_alone htype (m := m) (by omega)
      exact ⟨type'.tokens, types?_last (typeHead_tokens htype).1.ne_nil hread⟩
    · rename_i type behind _ htype
      split at h
      · obtain ⟨more, hmore, heq⟩ := Option.map_eq_some_iff.mp h
        cases heq
        rw [count_append, count_lone] at hm
        have hne := (typeHead_of_type? htype (Token.lone ',' :: more) rfl).1.ne_nil
        obtain ⟨type', hread, -⟩ :=
          ih.type true _ _ _ htype (Token.lone ',' :: more) (.mark (by decide)) m (by omega)
        obtain ⟨more', hreadMore⟩ := ih.types _ _ hmore m (by omega)
        exact ⟨_, types?_comma hne hread hreadMore⟩
      · cases h
    · cases h

/-- An input is read again as it was, the receiver or a type. -/
theorem input (ih : AllReread constant n) {receiver : Bool} {input behind : List Token}
    (h : input? receiver (type? constant n true) ts = some (input, behind))
    (hrest' : rest' = [] ∨ ∃ more, rest' = Token.lone ',' :: more) {m : Nat}
    (hm : 8 * count input + 6 ≤ m) :
    InputHead (input ++ rest') ∧ startsEllipsis (input ++ rest') = false ∧
      ∃ input', input? receiver (type? constant m true) (input ++ rest') = some (input', rest') := by
  have hcolon : startsMark ':' rest' = false := by
    rcases hrest' with rfl | ⟨more, rfl⟩ <;> rfl
  unfold input? at h
  split at h
  · split at h
    · rename_i hreceiver
      cases h
      refine ⟨⟨List.cons_ne_nil _ _, rfl, fun first => ?_⟩, rfl, _, if_pos hreceiver⟩
      rcases hrest' with rfl | ⟨more, rfl⟩ <;> rfl
    · cases h
  · obtain ⟨⟨type, rest⟩, htype, heq⟩ := Option.map_eq_some_iff.mp h
    cases heq
    obtain ⟨head, -⟩ := typeHead_of_type? htype rest' hcolon
    have follows : Follows true behind rest' := by
      rcases hrest' with rfl | ⟨more, rfl⟩
      · exact .nil
      · exact .mark (by decide)
    obtain ⟨type', hread, -⟩ := ih.type true _ _ _ htype rest' follows m hm
    have hash : startsMark '#' (type.tokens ++ rest') = false := by
      have hnone := head.afterMark?_eq (c := '#') (by decide) []
      rw [List.append_nil] at hnone
      rw [startsMark, hnone, Option.isSome_none]
    dsimp only at hread
    refine ⟨⟨head.ne_nil, hash, head.label_eq⟩, head.startsEllipsis_eq, type'.tokens, ?_⟩
    unfold input?
    split
    · rename_i heq
      rw [heq] at head
      cases head with
      | word other => exact absurd (by decide) other
    · rw [hread, Option.map_some]

/-- Inputs are read again one by one, and the dots at their end. -/
theorem inputs_succ (ih : AllReread constant n) (first : Bool) :
    RereadsAll 7 (fun n => inputs? constant n first) (n + 1) := by
  intro ts us h m hm
  obtain ⟨m, rfl⟩ : ∃ k, m = k + 1 := ⟨m - 1, by omega⟩
  rcases inputsForm_of_inputs? h with rfl | hform
  · refine ⟨[], ?_⟩
    dsimp only
    rw [inputs?]
  · cases hform with
    | ellipsis hattrs hname hending => exact inputs?_ellipsis hattrs hname hending
    | last hattrs hname hinput =>
      rw [count_append, count_append] at hm
      obtain ⟨head, hdot, input', hread⟩ := ih.input hinput (.inl rfl) (m := m) (by omega)
      rw [List.append_nil] at head hdot hread
      exact ⟨_, inputs?_last head hattrs hname hdot hread⟩
    | comma hattrs hname hinput hmore =>
      rw [count_append, count_append, count_append, count_lone] at hm
      obtain ⟨head, hdot, input', hread⟩ := ih.input hinput (.inr ⟨_, rfl⟩) (m := m) (by omega)
      obtain ⟨more', hreadMore⟩ := ih.inputs false _ _ hmore m (by omega)
      exact ⟨_, inputs?_comma head hattrs hname hdot hread hreadMore⟩

/-! ## Bounds -/

theorem traitBound_succ (ih : AllReread constant n) :
    Rereads id 3 (fun _ _ => True) (Follows false) (traitBound? constant) (n + 1) := by
  intro ts a rest h rest' follows m hm
  obtain ⟨m, rfl⟩ : ∃ k, m = k + 1 := ⟨m - 1, by omega⟩
  rw [id] at hm ⊢
  cases traitForm_of_traitBound? h with
  | plain hrelaxed hbinder hpath =>
    rw [count_append] at hm
    obtain ⟨path', hread, -⟩ := ih.path _ _ _ hpath rest' follows.stops m (by omega)
    rw [List.append_assoc]
    exact ⟨_, traitBound?_plain hrelaxed hbinder ((pathHead_tokens hpath).unmarked rest') hread follows.colons
      (follows.ne_group .paren), trivial⟩
  | @function _ _ _ _ _ inputs _ output _ path hrelaxed hbinder hpath bare hinputs houtput =>
    rw [count_append, count_append, count] at hm
    have stops : Stops (.group .paren inputs :: (output ++ rest')) := ⟨rfl, rfl⟩
    obtain ⟨path', hread, halike⟩ := ih.path _ _ _ hpath _ stops m (by omega)
    obtain ⟨inputs', hreadInputs⟩ := ih.types _ _ hinputs m (by omega)
    obtain ⟨output', hreadOutput, -⟩ := ih.output _ _ _ houtput rest' follows m (by rw [id]; omega)
    rw [List.append_assoc, List.cons_append, List.append_assoc]
    exact ⟨_, traitBound?_function hrelaxed hbinder ((pathHead_tokens hpath).unmarked _) hread
      (halike.bare_eq.trans bare) hreadInputs hreadOutput, trivial⟩

/-- A bound is read again, and is a lifetime only if it was one. -/
theorem bound_succ (ih : AllReread constant n) (captures : Bool) :
    Rereads Prod.snd 4 (fun read read' => read'.1 = read.1) (Follows false)
      (fun n => bound? constant n captures) (n + 1) := by
  intro ts a rest h rest' follows m hm
  obtain ⟨m, rfl⟩ : ∃ k, m = k + 1 := ⟨m - 1, by omega⟩
  cases boundForm_of_bound? h with
  | lifetime => exact ⟨_, rfl, rfl⟩
  | captured allowed hread =>
    refine ⟨_, ?_, rfl⟩
    dsimp only
    rw [List.cons_append, List.cons_append, Token.lone, bound?, if_pos allowed,
      captured?_append hread, Option.map_some]
    rfl
  | group hbound =>
    rw [count, count_nil] at hm
    obtain ⟨bound', hread, -⟩ := ih.traitBound _ _ _ hbound [] .nil m (by rw [id]; omega)
    rw [id, List.append_nil] at hread
    refine ⟨(true, [.group .paren bound']), ?_, rfl⟩
    dsimp only
    rw [List.singleton_append, bound?]
    simp only [hread]
  | trait hbound =>
    dsimp only at hm
    obtain ⟨bound', hread, -⟩ := ih.traitBound _ _ _ hbound rest' follows m (by rw [id]; omega)
    have head := (boundHead_of_traitBound? hbound).append rest'
    exact ⟨(true, bound'), bound?_of_boundHead head captures hread, rfl⟩

/-- Bounds are read again. Behind the last of them no plus sign stands that did not stand there. -/
theorem bounds_succ (ih : AllReread constant n) (plus captures : Bool) :
    Rereads Prod.snd 5 (fun read read' => read'.1 = read.1) (Follows false)
      (fun n => bounds? constant n plus captures) (n + 1) := by
  intro ts a rest h rest' follows m hm
  obtain ⟨m, rfl⟩ : ∃ k, m = k + 1 := ⟨m - 1, by omega⟩
  dsimp only at h ⊢
  rw [bounds?] at h
  split at h
  · cases h
  · rename_i trait bound behind hbound
    split at h
    · rename_i hplus
      cases h
      obtain ⟨read, hread, htrait⟩ := ih.bound captures _ _ _ hbound rest' follows m (by omega)
      refine ⟨read, bounds?_last hread ?_, htrait⟩
      rintro rfl
      exact (follows.closed hplus).plus_eq
    · rename_i after hafter
      obtain rfl : plus = true := by
        by_contra hplus
        rw [if_neg hplus] at hafter
        cases hafter
      rw [if_pos rfl] at hafter
      have hplus : startsMark '+' behind = true := by rw [startsMark, hafter, Option.isSome_some]
      split at h
      · obtain ⟨⟨⟨trait', more⟩, rest⟩, hmore, heq⟩ := Option.map_eq_some_iff.mp h
        cases heq
        dsimp only at hm ⊢
        rw [count_append, count_lone] at hm
        have hcount : 8 * count bound + 4 ≤ m := by omega
        have hcountMore : 8 * count more + 5 ≤ m := by omega
        obtain ⟨⟨_, bound'⟩, hread, rfl⟩ := ih.bound captures _ _ _ hbound
          (Token.lone '+' :: (more ++ rest')) (.added rfl hplus) m hcount
        obtain ⟨⟨_, more'⟩, hreadMore, rfl⟩ :=
          ih.bounds true captures _ _ _ hmore rest' follows m hcountMore
        rw [List.append_assoc, List.cons_append]
        exact ⟨_, bounds?_more hread (startsBound_of_bounds? hmore rest') hreadMore, rfl⟩
      · rename_i hends
        cases h
        dsimp only at hm ⊢
        rw [count_append, count_lone] at hm
        have hcount : 8 * count bound + 4 ≤ m := by omega
        obtain ⟨⟨_, bound'⟩, hread, rfl⟩ := ih.bound captures _ _ _ hbound
          (Token.lone '+' :: rest') (.added rfl hplus) m hcount
        rw [List.append_assoc, List.singleton_append]
        exact ⟨_, bounds?_plus hread (follows.startsBound_eq (Bool.eq_false_iff.mpr hends)), rfl⟩

/-- Bounds that are added stand in place of such. -/
theorem follows_of_addedForm {more : List Token} (h : AddedForm ts rest more)
    (follows : Follows false rest rest') : Follows false ts (more ++ rest') := by
  cases h with
  | none _ heq =>
    rw [← heq]
    exact follows
  | some hplus => exact .added rfl hplus

theorem moreBounds_succ (ih : AllReread constant n) :
    Rereads id 1 (fun _ _ => True) (Follows false) (moreBounds? constant) (n + 1) := by
  intro ts a rest h rest' follows m hm
  obtain ⟨m, rfl⟩ : ∃ k, m = k + 1 := ⟨m - 1, by omega⟩
  rw [id] at hm ⊢
  have hafter : ∀ us, afterMark? '+' (Token.lone '+' :: us) = some us := fun _ => rfl
  rw [moreBounds?] at h
  split at h
  · rename_i hplus
    cases h
    refine ⟨[], ?_, trivial⟩
    rw [List.nil_append, moreBounds?, (follows.closed hplus).plus_eq]
  · split at h
    · split at h
      · cases h
      · rename_i trait bound behind hbound
        obtain ⟨⟨more, rest⟩, hmore, heq⟩ := Option.map_eq_some_iff.mp h
        cases heq
        rw [count_append, count_lone] at hm
        have hcount : 8 * count bound + 4 ≤ m := by omega
        obtain ⟨⟨_, bound'⟩, hread, -⟩ := ih.bound false _ _ _ hbound _
          (follows_of_addedForm (addedForm_of_moreBounds? hmore) follows) m hcount
        obtain ⟨more', hreadMore, -⟩ := ih.moreBounds _ _ _ hmore rest' follows m
          (by rw [id]; omega)
        rw [id] at hreadMore
        refine ⟨Token.lone '+' :: bound' ++ more', ?_, trivial⟩
        rw [List.append_assoc, List.cons_append, moreBounds?, hafter]
        simp only [startsBound_of_bound? hbound, if_true, hread, hreadMore, Option.map_some]
    · rename_i hends
      cases h
      have hends' := follows.startsBound_eq (Bool.eq_false_iff.mpr hends)
      refine ⟨[Token.lone '+'], ?_, trivial⟩
      rw [List.singleton_append, moreBounds?, hafter]
      simp only [hends', Bool.false_eq_true, if_false]

theorem addedBounds_succ (ih : AllReread constant n) :
    Rereads id 1 (fun _ _ => True) (Follows false) (addedBounds? constant) (n + 1) := by
  intro ts a rest h rest' follows m hm
  obtain ⟨m, rfl⟩ : ∃ k, m = k + 1 := ⟨m - 1, by omega⟩
  rw [id] at hm ⊢
  have hafter : ∀ us, afterMark? '+' (Token.lone '+' :: us) = some us := fun _ => rfl
  rw [addedBounds?] at h
  split at h
  · rename_i hplus
    cases h
    refine ⟨[], ?_, trivial⟩
    rw [List.nil_append, addedBounds?, (follows.closed hplus).plus_eq]
  · split at h
    · cases h
    · rename_i trait bound behind hbound
      obtain ⟨⟨more, rest⟩, hmore, heq⟩ := Option.map_eq_some_iff.mp h
      cases heq
      rw [count_append, count_lone] at hm
      have hcount : 8 * count bound + 4 ≤ m := by omega
      obtain ⟨⟨_, bound'⟩, hread, -⟩ := ih.bound false _ _ _ hbound _
        (follows_of_addedForm (addedForm_of_addedBounds? hmore) follows) m hcount
      obtain ⟨more', hreadMore, -⟩ := ih.addedBounds _ _ _ hmore rest' follows m (by rw [id]; omega)
      rw [id] at hreadMore
      refine ⟨Token.lone '+' :: bound' ++ more', ?_, trivial⟩
      rw [List.append_assoc, List.cons_append, addedBounds?, hafter]
      simp only [hread, hreadMore, Option.map_some]

/-! ## Types -/

/-- A type that begins with a path is read again. The binder in front of a macro is not given back. -/
theorem pathType_succ (ih : AllReread constant n) (plus : Bool) (binder ts : List Token)
    (a : TypeSyntax) (rest : List Token)
    (h : pathType? constant (n + 1) plus binder ts = some (a, rest)) (rest' : List Token)
    (follows : Follows plus rest rest') (m : Nat) (hm : 8 * count a.tokens + 3 ≤ m) :
    ∃ binder' us a', (binder' = [] ∨ binder' = binder) ∧ a.tokens = binder' ++ us ∧
      us.head? = ts.head? ∧ (Begins ts → Begins us) ∧
      pathType? constant m plus binder' (us ++ rest') = some (a', rest') ∧ a.Alike a' := by
  obtain ⟨m, rfl⟩ : ∃ k, m = k + 1 := ⟨m - 1, by omega⟩
  cases pathForm_of_pathType? h with
  | @path _ path unbound hpath =>
    have htokens : (TypeSyntax.path path.leading path.segments).tokens = path.tokens := rfl
    rw [htokens] at hm
    obtain ⟨path', hread, halike⟩ := ih.path _ _ _ hpath rest' follows.stops m (by omega)
    refine ⟨[], path.tokens, _, .inl rfl, htokens, (head_of_path? hpath).1,
      fun begins => begins_tokens_of_path? begins hpath,
      pathType?_path hread (follows.startsMark_eq (by decide)) follows.and_startsMark_eq, ?_⟩
    rw [halike.leading_eq]
    exact .path halike.segments
  | @invocation inner _ path _ delimiter hpath plain =>
    rw [TypeSyntax.tokens, count_append, count_lone] at hm
    have stops : Stops (Token.lone '!' :: .group delimiter inner :: rest') := ⟨rfl, rfl⟩
    obtain ⟨path', hread, halike⟩ := ih.path _ _ _ hpath _ stops m (by omega)
    obtain ⟨hhead, hbegins⟩ := head_append_of_path? hpath [Token.lone '!', .group delimiter inner]
    refine ⟨[], path.tokens ++ [Token.lone '!', .group delimiter inner],
      .other (path'.tokens ++ [Token.lone '!', .group delimiter inner]), .inl rfl, rfl, hhead, hbegins,
      ?_, .other⟩
    rw [List.append_assoc]
    exact pathType?_invocation hread (halike.isPlain_eq.trans plain) []
  | @bound _ path bound exact hpath =>
    subst exact
    rw [TypeSyntax.tokens, count_append] at hm
    obtain ⟨path', hread, -⟩ := ih.path _ _ _ hpath rest' follows.stops m (by omega)
    exact ⟨binder, path.tokens, _, .inr rfl, rfl, (head_of_path? hpath).1,
      fun begins => begins_tokens_of_path? begins hpath,
      pathType?_bound hread (follows.startsMark_eq (by decide)) bound, .other⟩
  | @bounded behind more _ path open' bounded hpath hmore =>
    subst open'
    rw [TypeSyntax.tokens, count_append, count_append] at hm
    have hadded := addedForm_of_moreBounds? hmore
    have hfollows := follows_of_addedForm hadded follows.exact
    obtain ⟨path', hread, -⟩ := ih.path _ _ _ hpath _ hfollows.stops m (by omega)
    obtain ⟨more', hreadMore, -⟩ := ih.moreBounds _ _ _ hmore rest' follows.exact m
      (by rw [id]; omega)
    obtain ⟨hhead, hbegins⟩ := head_append_of_path? hpath more
    have hbounded : binder ≠ [] ∨ startsMark '+' (more ++ rest') = true :=
      bounded.imp_right hadded.startsMark_plus
    refine ⟨binder, path.tokens ++ more, .other (binder ++ path'.tokens ++ more'), .inr rfl,
      List.append_assoc _ _ _, hhead, hbegins, ?_, .other⟩
    rw [List.append_assoc]
    exact pathType?_bounded hread (hfollows.startsMark_eq (by decide)) hbounded hreadMore

/-- What stands in parentheses is read again in the same way. -/
theorem parenthesized_succ (ih : AllReread constant n) (plus : Bool) (inner ts : List Token)
    (a : TypeSyntax) (rest : List Token)
    (h : parenthesized? constant (n + 1) plus inner ts = some (a, rest)) (rest' : List Token)
    (follows : Follows plus rest rest') (m : Nat) (hm : 8 * count a.tokens + 5 ≤ m) :
    ∃ inner' us a', a.tokens = .group .paren inner' :: us ∧
      parenthesized? constant m plus inner' (us ++ rest') = some (a', rest') ∧ a.Alike a' := by
  obtain ⟨m, rfl⟩ : ∃ k, m = k + 1 := ⟨m - 1, by omega⟩
  cases parenForm_of_parenthesized? h with
  | unit => exact ⟨[], [], _, rfl, by rw [List.nil_append, parenthesized?], .other⟩
  | lifetime hbounds =>
    rw [TypeSyntax.tokens, count, count_nil, TypeSyntax.tokens] at hm
    obtain ⟨more, rfl⟩ := exists_of_bounds?_lifetime hbounds
    obtain ⟨⟨_, bounds'⟩, hread, rfl⟩ := ih.bounds true false _ _ _ hbounds [] .nil m
      (by dsimp only; omega)
    dsimp only at hread
    rw [List.append_nil] at hread
    exact ⟨_, [], _, rfl, parenthesized?_lifetime hread, .paren⟩
  | relaxed hbound hmore =>
    rw [TypeSyntax.tokens, count] at hm
    obtain ⟨bound, rfl⟩ := exists_of_traitBound?_relaxed hbound
    obtain ⟨bound', hread, -⟩ := ih.traitBound _ _ _ hbound [] .nil m (by rw [id]; omega)
    obtain ⟨more', hreadMore, -⟩ := ih.addedBounds _ _ _ hmore rest' follows.exact m
      (by rw [id]; omega)
    rw [id, List.append_nil] at hread
    rw [id] at hreadMore
    exact ⟨_, _, _, rfl, parenthesized?_relaxed hread hreadMore, .other⟩
  | @bounded inner more _ leading segments plain htype open' hplus hmore =>
    subst open'
    change 8 * count (.group .paren (TypeSyntax.path leading segments).tokens :: more) + 5 ≤ m + 1 at hm
    rw [count] at hm
    obtain ⟨type', hread, halike⟩ := ih.type_alone htype (m := m) (by omega)
    obtain ⟨more', hreadMore, -⟩ := ih.addedBounds _ _ _ hmore rest' follows.exact m
      (by rw [id]; omega)
    obtain ⟨head, hlifetime⟩ := typeHead_tokens htype
    have hbounded : startsMark '+' (more ++ rest') = true :=
      (addedForm_of_addedBounds? hmore).startsMark_plus hplus
    cases halike with
    | path =>
      exact ⟨_, _, _, rfl, parenthesized?_bounded head (hlifetime.trans plain) hread hbounded hreadMore,
        .other⟩
  | single plain htype =>
    rw [TypeSyntax.tokens, count, count_nil] at hm
    obtain ⟨type', hread, -⟩ := ih.type_alone htype (m := m) (by omega)
    obtain ⟨head, hlifetime⟩ := typeHead_tokens htype
    exact ⟨_, [], _, rfl, parenthesized?_single head (hlifetime.trans plain) hread
      follows.and_startsMark_eq, .paren⟩
  | @tuple _ _ _ more _ plain htype hmore =>
    rw [TypeSyntax.tokens, count, count_nil, count_append, count_lone] at hm
    obtain ⟨type', hread, -⟩ :=
      ih.type true _ _ _ htype (Token.lone ',' :: more) (.mark (by decide)) m (by omega)
    obtain ⟨more', hreadMore⟩ := ih.types _ _ hmore m (by omega)
    obtain ⟨head, hlifetime⟩ := typeHead_of_type? htype (Token.lone ',' :: more) rfl
    exact ⟨_, [], _, rfl, parenthesized?_tuple head (hlifetime.trans plain) hread hreadMore, .other⟩

theorem qualified_succ (ih : AllReread constant n) (ts : List Token) (a : TypeSyntax)
    (rest : List Token) (h : qualified? constant (n + 1) ts = some (a, rest)) (rest' : List Token)
    (stops : Stops rest') (m : Nat) (hm : 8 * count a.tokens ≤ m) :
    ∃ us a', a.tokens = Token.lone '<' :: us ∧
      qualified? constant m (us ++ rest') = some (a', rest') ∧ a.Alike a' := by
  cases qualifiedForm_of_qualified? h with
  | @plain _ _ _ self segments hself hsegments =>
    rw [TypeSyntax.tokens, count_lone, count_append, count_append, count_lone, count_colons] at hm
    obtain ⟨m, rfl⟩ : ∃ k, m = k + 1 := ⟨m - 1, by omega⟩
    obtain ⟨self', hread, -⟩ := ih.type true _ _ _ hself
      (Token.lone '>' :: (Token.colons ++ (segmentsTokens segments ++ rest'))) (.mark (by decide)) m
      (by omega)
    obtain ⟨segments', hreadSegments, -⟩ := ih.segments _ _ _ hsegments rest' stops m (by omega)
    obtain ⟨tokens, hagain⟩ := qualified?_plain hread hreadSegments
    refine ⟨_, .other tokens, rfl, ?_, .other⟩
    simpa only [List.append_assoc, List.cons_append] using hagain
  | @ofTrait _ _ _ _ self path segments hself hpath hsegments =>
    rw [TypeSyntax.tokens, count_lone, count_append, count_append, count_append, count, count_lone,
      count_colons] at hm
    obtain ⟨m, rfl⟩ : ∃ k, m = k + 1 := ⟨m - 1, by omega⟩
    obtain ⟨self', hread, -⟩ := ih.type true _ _ _ hself
      (.word "as" :: (path.tokens ++ Token.lone '>' :: (Token.colons ++
        (segmentsTokens segments ++ rest')))) (.word rfl) m (by omega)
    have hends : Stops (Token.lone '>' :: (Token.colons ++ (segmentsTokens segments ++ rest'))) :=
      ⟨rfl, rfl⟩
    obtain ⟨path', hreadPath, -⟩ := ih.path _ _ _ hpath _ hends m (by omega)
    obtain ⟨segments', hreadSegments, -⟩ := ih.segments _ _ _ hsegments rest' stops m (by omega)
    obtain ⟨tokens, hagain⟩ := qualified?_ofTrait hread hreadPath hreadSegments
    refine ⟨_, .other tokens, rfl, ?_, .other⟩
    simpa only [List.append_assoc, List.cons_append] using hagain

/-- A type can be read again with a number of steps, where certain tokens stand behind it. -/
def RereadsType (constant : Constant) (m : Nat) (plus : Bool) (a : TypeSyntax) (rest' : List Token) :
    Prop :=
  ∃ a', type? constant m plus (a.tokens ++ rest') = some (a', rest') ∧ a.Alike a'

section Kinds

variable {a : TypeSyntax} {m : Nat}

/-- A type that begins with a path still begins with one. -/
theorem rereadsType_path (ih : AllReread constant n) (begins : Begins ts)
    (h : pathType? constant n plus [] ts = some (a, rest)) (follows : Follows plus rest rest')
    (hm : 8 * count a.tokens + 3 ≤ m) : RereadsType constant (m + 1) plus a rest' := by
  obtain ⟨binder, us, a', hbinder, htokens, -, hbegins, hread, halike⟩ :=
    ih.pathType plus [] (.inl rfl) _ _ _ h rest' follows m hm
  obtain rfl : binder = [] := hbinder.elim id id
  rw [RereadsType, htokens, List.nil_append]
  exact ⟨a', type?_of_typeForm (.path ((hbegins begins).append rest') hread), halike⟩

/-- A path behind a binder is read again behind it, or alone if the binder is not given back. -/
theorem rereadsType_boundPath (ih : AllReread constant n) {binder after : List Token} {word : String}
    (hbinder : binder? (.word "for" :: ts) = some (binder, .word word :: after))
    (begins : startsPath word = true)
    (h : pathType? constant n plus binder (.word word :: after) = some (a, rest))
    (follows : Follows plus rest rest') (hm : 8 * count a.tokens + 3 ≤ m) :
    RereadsType constant (m + 1) plus a rest' := by
  obtain ⟨hbound, hne⟩ := isBinder_of_binder? hbinder
  obtain ⟨⟨inner, hfor⟩, hagain⟩ := hbound.resolve_left (hne rfl)
  obtain ⟨binder', us, a', hbinder', htokens, hhead, hbegins, hread, halike⟩ :=
    ih.pathType plus _ hbound _ _ _ h rest' follows m hm
  rw [RereadsType, htokens, List.append_assoc]
  rcases hbinder' with rfl | rfl
  · exact ⟨a', type?_of_typeForm (.path ((hbegins (.word begins)).append rest') hread), halike⟩
  · obtain ⟨more, rfl⟩ := List.head?_eq_some_iff.mp hhead
    have hagain := hagain (.word word :: more ++ rest')
    rw [hfor] at hagain hread ⊢
    exact ⟨a', type?_of_typeForm (.boundPath hagain begins hread), halike⟩

/-- A function pointer is read again as one. -/
theorem rereadsType_function (ih : AllReread constant n) {function : List Token}
    (h : function? constant n ts = some (function, rest)) (follows : Follows false rest rest')
    (hm : 8 * count function + 5 ≤ m) :
    RereadsType constant (m + 1) plus (.other function) rest' := by
  obtain ⟨function', hread, -⟩ := ih.function _ _ _ h rest' follows m hm
  obtain ⟨word, more, hword, heq, -⟩ := typeHead_of_function? h rest'
  rw [id, heq] at hread
  rw [RereadsType, TypeSyntax.tokens, heq]
  exact ⟨.other function', type?_of_typeForm (.function hword hread), .other⟩

/-- A function pointer behind a binder is read again as one. -/
theorem rereadsType_boundFunction (ih : AllReread constant n) {binder after function : List Token}
    (hbinder : binder? (.word "for" :: ts) = some (binder, after))
    (h : function? constant n after = some (function, rest)) (follows : Follows false rest rest')
    (hm : 8 * count function + 5 ≤ m) :
    RereadsType constant (m + 1) plus (.other (binder ++ function)) rest' := by
  obtain ⟨hbound, hne⟩ := isBinder_of_binder? hbinder
  obtain ⟨⟨inner, rfl⟩, hagain⟩ := hbound.resolve_left (hne rfl)
  obtain ⟨function', hread, -⟩ := ih.function _ _ _ h rest' follows m hm
  obtain ⟨word, more, hword, heq, -⟩ := typeHead_of_function? h rest'
  rw [id, heq] at hread
  rw [RereadsType, TypeSyntax.tokens, List.append_assoc, heq]
  exact ⟨_, type?_of_typeForm (.boundFunction (hagain _) hword hread), .other⟩

/-- Bounds behind `dyn` are read again, since none of them begins with the star that may stand there. -/
theorem rereadsType_object (ih : AllReread constant n) {inner : List Token}
    (h : bounds? constant n plus false (optionalMark '*' ts).2 = some ((true, inner), rest))
    (follows : Follows false rest rest') (hm : 8 * count inner + 5 ≤ m) :
    RereadsType constant (m + 1) plus (.other (.word "dyn" :: (optionalMark '*' ts).1 ++ inner))
      rest' := by
  obtain ⟨⟨_, inner'⟩, hread, rfl⟩ := ih.bounds plus false _ _ _ h rest' follows m hm
  have hmark := optionalMark_append (optionalMark_fst '*' ts)
    (startsMark_of_startsBound (startsBound_of_bounds? h rest') (by decide))
  obtain ⟨tokens, hagain⟩ := type?_object hmark hread
  refine ⟨.other tokens, ?_, .other⟩
  rw [TypeSyntax.tokens, List.cons_append, List.cons_append, List.append_assoc]
  exact hagain

/-- What a reference is to is read again behind what stood between it and the ampersand. -/
theorem rereadsType_reference (ih : AllReread constant n) {target : TypeSyntax}
    (h : type? constant n false (borrow ts).2 = some (target, rest))
    (follows : Follows false rest rest') (hm : 8 * count target.tokens + 6 ≤ m) :
    RereadsType constant (m + 1) plus (.other (Token.lone '&' :: (borrow ts).1 ++ target.tokens))
      rest' := by
  obtain ⟨target', hread, -⟩ := ih.type false _ _ _ h rest' follows m hm
  obtain ⟨head, hlifetime⟩ := typeHead_tokens h
  have hborrow := borrow_append (isBorrow_borrow ts) head
    (fun hnil => hlifetime.trans (startsLifetime_borrow hnil)) rest'
  obtain ⟨tokens, hagain⟩ := type?_reference hborrow hread
  refine ⟨.other tokens, ?_, .other⟩
  rw [TypeSyntax.tokens, List.cons_append, List.cons_append, List.append_assoc]
  exact hagain

end Kinds

/-- A type is read again as one of its kind. -/
theorem type_succ (ih : AllReread constant n) (plus : Bool) :
    Rereads TypeSyntax.tokens 6 TypeSyntax.Alike (Follows plus)
      (fun n => type? constant n plus) (n + 1) := by
  intro ts a rest h rest' follows m hm
  obtain ⟨m, rfl⟩ : ∃ k, m = k + 1 := ⟨m - 1, by omega⟩
  cases typeForm_of_type? h with
  | path begins hpath => exact ih.rereadsType_path begins hpath follows (by omega)
  | boundPath hbinder begins hpath =>
    exact ih.rereadsType_boundPath hbinder begins hpath follows (by omega)
  | function _ hfunction =>
    rw [TypeSyntax.tokens] at hm
    exact ih.rereadsType_function hfunction follows.exact (by omega)
  | boundFunction hbinder _ hfunction =>
    rw [TypeSyntax.tokens, count_append] at hm
    exact ih.rereadsType_boundFunction hbinder hfunction follows.exact (by omega)
  | parenthesized hgroup =>
    obtain ⟨inner, us, a', htokens, hread, halike⟩ :=
      ih.parenthesized plus _ _ _ _ hgroup rest' follows m (by omega)
    rw [htokens]
    exact ⟨a', type?_of_typeForm (.parenthesized hread), halike⟩
  | object hbounds =>
    rw [TypeSyntax.tokens, List.cons_append, count, count_append] at hm
    exact ih.rereadsType_object hbounds follows.exact (by omega)
  | abstract hbounds =>
    rw [TypeSyntax.tokens, count] at hm
    obtain ⟨⟨_, inner'⟩, hread, rfl⟩ := ih.bounds plus true _ _ _ hbounds rest' follows.exact m
      (by dsimp only; omega)
    exact ⟨_, type?_of_typeForm (.abstract hread), .other⟩
  | bounded hbounds =>
    obtain ⟨more, rfl⟩ := exists_of_bounds?_lifetime hbounds
    rw [TypeSyntax.tokens] at hm
    obtain ⟨⟨_, inner'⟩, hread, rfl⟩ := ih.bounds true false _ _ _ hbounds rest' follows.exact m
      (by dsimp only; omega)
    exact ⟨_, type?_of_typeForm (.bounded hread), .other⟩
  | hole => exact ⟨_, type?_of_typeForm .hole, .other⟩
  | never => exact ⟨_, type?_of_typeForm .never, .other⟩
  | slice helement =>
    rw [TypeSyntax.tokens, count, count_nil] at hm
    obtain ⟨element', hread, -⟩ := ih.type_alone helement (m := m) (by omega)
    exact ⟨_, type?_of_typeForm (.slice hread), .other⟩
  | @array inner length _ _ _ helement hlength =>
    rw [TypeSyntax.tokens, count, count_nil, count_append, count_lone] at hm
    obtain ⟨element', hread, -⟩ :=
      ih.type true _ _ _ helement (Token.lone ';' :: length) (.mark (by decide)) m (by omega)
    exact ⟨_, type?_of_typeForm (.array hread hlength), .other⟩
  | pointer hword htarget =>
    rw [TypeSyntax.tokens, count_lone, count] at hm
    obtain ⟨target', hread, -⟩ := ih.type false _ _ _ htarget rest' follows.exact m (by omega)
    exact ⟨_, type?_of_typeForm (.pointer hword hread), .other⟩
  | reference htarget =>
    rw [TypeSyntax.tokens, List.cons_append, count_lone, count_append] at hm
    exact ih.rereadsType_reference htarget follows.exact (by omega)
  | qualified hqualified =>
    obtain ⟨us, a', htokens, hread, halike⟩ :=
      ih.qualified _ _ _ hqualified rest' follows.stops m (by omega)
    rw [htokens]
    exact ⟨a', type?_of_typeForm (.qualified hread), halike⟩

/-- What is read with one more step can be read again if that holds for the steps so far. -/
theorem succ (ih : AllReread constant n) : AllReread constant (n + 1) where
  type := ih.type_succ
  pathType plus binder _ := ih.pathType_succ plus binder
  parenthesized := ih.parenthesized_succ
  types := ih.types_succ
  qualified := ih.qualified_succ
  function := ih.function_succ
  inputs := ih.inputs_succ
  output := ih.output_succ
  bounds := ih.bounds_succ
  moreBounds := ih.moreBounds_succ
  addedBounds := ih.addedBounds_succ
  bound := ih.bound_succ
  traitBound := ih.traitBound_succ
  path := ih.path_succ
  segments := ih.segments_succ
  segment := ih.segment_succ
  arguments := ih.arguments_succ
  argument := ih.argument_succ
  given := ih.given_succ
  argumentBounds := ih.argumentBounds_succ

end AllReread

/-- Whatever is read can be read again. -/
theorem allReread (constant : Constant) (n : Nat) : AllReread constant n := by
  induction n with
  | zero => exact allReread_zero constant
  | succ n ih => exact ih.succ

/-! ## Whole texts -/

/-- A path is read again from its tokens. -/
theorem path?_tokens {path : Path} {m : Nat} (h : path? constant n ts = some (path, []))
    (hm : stepsFor path.tokens ≤ m) :
    ∃ path', path? constant m path.tokens = some (path', []) ∧ path.Alike path' := by
  rw [stepsFor] at hm
  obtain ⟨path', hread, halike⟩ :=
    (allReread constant n).path _ _ _ h [] ⟨rfl, rfl⟩ m (by omega)
  rw [List.append_nil] at hread
  exact ⟨path', hread, halike⟩

/-- A type is read again from its tokens. -/
theorem type?_tokens {a : TypeSyntax} {m : Nat} (h : type? constant n plus ts = some (a, []))
    (hm : stepsFor a.tokens ≤ m) :
    ∃ a', type? constant m plus a.tokens = some (a', []) ∧ a.Alike a' := by
  rw [stepsFor] at hm
  exact (allReread constant n).type_alone h (by omega)

end Grammar

end Specimen.Source
