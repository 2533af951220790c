import Specimen.Proofs.Source.Following

/-!
# What is read from tokens put together

For every reader of the grammar, what it reads from tokens that are put together from those of parts. Each
lemma names the first part and what is read behind it. Where a reader looks at the first tokens to decide
what to do, a premise tells what they are like (`TypeHead`, `PathHead`, `BoundHead`, `InputHead`).
-/

namespace Specimen.Source.Grammar

open Text Token

variable {constant : Constant} {n : Nat} {plus : Bool} {ts us rest rest' : List Token}

/-! ## Steps -/

/-- A step with arguments in brackets is read from its name and the arguments. -/
theorem segment?_brackets {name : String} {items : List Argument} {trailing : Bool}
    (other : ¬ (name == "super" || name == "self" || name == "crate" || name == "try") = true)
    (hname : (isIdentifier name || name == "Self") = true) (colons : Bool)
    (h : arguments? constant n ts = some ((items, trailing), rest)) :
    segment? constant (n + 1)
        (.word name :: ((if colons then Token.colons else []) ++ Token.lone '<' :: ts)) =
      some (.mk name (.angled colons items trailing), rest) := by
  rw [segment?, if_neg other, if_pos hname]
  cases colons with
  | false =>
    have hequals : startsMarks '<' '=' (Token.lone '<' :: ts) = false := rfl
    have hopen : afterMark? '<' (Token.lone '<' :: ts) = some ts := rfl
    simp only [Bool.false_eq_true, if_false, List.nil_append, hequals, hopen, h, Option.map_some]
  | true =>
    have hequals : startsMarks '<' '=' (Token.colons ++ Token.lone '<' :: ts) = false := rfl
    have hclosed : afterMark? '<' (Token.colons ++ Token.lone '<' :: ts) = none := rfl
    have hopen : (afterMarks? ':' ':' (Token.colons ++ Token.lone '<' :: ts)).bind (afterMark? '<') =
        some ts := rfl
    simp only [Bool.false_eq_true, if_false, if_true, hequals, hclosed, hopen, h, Option.map_some]

/-- A step without arguments is read from its name. -/
theorem segment?_bare {name : String} (hname : isStep name = true) (ends : StepEnds rest) :
    segment? constant (n + 1) (.word name :: rest) = some (.mk name .none, rest) := by
  rw [segment?]
  split
  · rfl
  · rename_i hplain
    have hother : (isIdentifier name || name == "Self") = true := by
      simp only [isStep, Bool.or_eq_true] at hname hplain ⊢
      tauto
    rw [if_pos hother]
    simp only [ends.bracket, ends.colons, ite_self]

/-- A step with brackets has a name that may have them, and its arguments have been read. -/
theorem exists_of_segment?_angled {name : String} {colons trailing : Bool} {items : List Argument}
    (h : segment? constant (n + 1) ts = some (.mk name (.angled colons items trailing), rest)) :
    ¬ (name == "super" || name == "self" || name == "crate" || name == "try") = true ∧
      (isIdentifier name || name == "Self") = true ∧
      ∃ after, arguments? constant n after = some ((items, trailing), rest) := by
  unfold segment? at h
  split at h
  · cases h
  · rename_i hn
    obtain rfl := Nat.succ.inj hn
    split at h
    · cases h
    · rename_i hplain
      split at h
      · rename_i hname
        split at h
        · rename_i after _
          obtain ⟨⟨⟨items, trailing⟩, rest⟩, hread, heq⟩ := Option.map_eq_some_iff.mp h
          cases heq
          exact ⟨hplain, hname, after, hread⟩
        · split at h
          · rename_i after _
            obtain ⟨⟨⟨items, trailing⟩, rest⟩, hread, heq⟩ := Option.map_eq_some_iff.mp h
            cases heq
            exact ⟨hplain, hname, after, hread⟩
          · cases h
      · cases h
  · cases h

/-! ## What may stand in front -/

/-- A mark that may stand there is read, if no other follows. -/
theorem optionalMark_append {c : Char} {marked : List Token}
    (h : marked = [] ∨ marked = [Token.lone c]) (hus : startsMark c us = false) :
    optionalMark c (marked ++ us) = (marked, us) := by
  rcases h with rfl | rfl
  · rw [startsMark, Option.isSome_eq_false_iff, Option.isNone_iff_eq_none] at hus
    rw [List.nil_append, optionalMark, hus]
  · have hmark : afterMark? c (Token.lone c :: us) = some us := if_pos rfl
    rw [List.singleton_append, optionalMark, hmark]

theorem optionalWord_append {word : String} {unchecked : List Token}
    (h : unchecked = [] ∨ unchecked = [.word word]) (hus : startsWord word us = false) :
    optionalWord word (unchecked ++ us) = (unchecked, us) := by
  rcases h with rfl | rfl
  · rw [List.nil_append, optionalWord, hus, if_neg Bool.false_ne_true]
  · have hword : startsWord word (.word word :: us) = true := beq_self_eq_true word
    rw [List.singleton_append, optionalWord, hword, if_pos rfl]
    rfl

/-- The linkage in front of a function is read. -/
theorem linkage_append {link : List Token} (h : IsLinkage link) (us : List Token) :
    linkage (link ++ .word "fn" :: us) = (link, .word "fn" :: us) := by
  cases h with
  | none => rfl
  | plain => rfl
  | named string =>
    rw [List.cons_append, List.cons_append, linkage]
    exact if_pos string

/-- Attributes, each with its bracket. -/
inductive IsAttributes : List Token → Prop
  | nil : IsAttributes []
  | cons {inner attrs : List Token} (h : IsAttributes attrs) :
    IsAttributes (Token.lone '#' :: .group .bracket inner :: attrs)

theorem isAttributes_attributes (ts : List Token) : IsAttributes (attributes ts).1 := by
  fun_induction attributes ts with
  | case1 _ _ _ _ _ heq ih =>
    rw [heq] at ih
    exact .cons ih
  | case2 => exact .nil

/-- Attributes are read up to what is none. -/
theorem attributes_append {attrs : List Token} (h : IsAttributes attrs)
    (hus : startsMark '#' us = false) : attributes (attrs ++ us) = (attrs, us) := by
  induction h with
  | nil =>
    rw [List.nil_append]
    unfold attributes
    split
    · cases hus
    · rfl
  | cons _ ih =>
    rw [List.cons_append, List.cons_append, Token.lone, attributes, ih]
    rfl

/-- The name of an input with its colon, or nothing. -/
inductive IsLabel (first : Bool) : List Token → Prop
  | none : IsLabel first []
  | name {word : String}
    (h : (isIdentifier word || word == "_" || (first && word == "self")) = true) :
    IsLabel first [.word word, Token.lone ':']
  | receiver (h : first = true) : IsLabel first [.word "mut", .word "self", Token.lone ':']

/-- What is read as the name of an input is one. -/
theorem isLabel_label (first : Bool) (ts : List Token) : IsLabel first (label first ts).1 := by
  unfold label
  split
  · split
    · rename_i hname
      rw [Bool.and_eq_true] at hname
      exact .name hname.1
    · exact .none
  · split
    · rename_i hfirst
      exact .receiver hfirst
    · exact .none
  · exact .none

/-- The name of an input is read, if none follows. -/
theorem label_append {first : Bool} {name : List Token} (h : IsLabel first name)
    (unnamed : label first us = ([], us)) : label first (name ++ us) = (name, us) := by
  cases h with
  | none => exact unnamed
  | name h =>
    have hcolons : startsColons (.mark ':' false :: us) = false := rfl
    rw [List.cons_append, List.singleton_append, Token.lone, label, h, hcolons]
    rfl
  | receiver h =>
    rw [List.cons_append, List.cons_append, List.singleton_append, Token.lone, label]
    exact if_pos h

/-- Between an ampersand and a type may stand a lifetime and `mut`. -/
inductive IsBorrow : List Token → Prop
  | none : IsBorrow []
  | lifetime {name : String} : IsBorrow [.lifetime name]
  | mutable : IsBorrow [.word "mut"]
  | both {name : String} : IsBorrow [.lifetime name, .word "mut"]

/-- What is read between an ampersand and a type is what may stand there. -/
theorem isBorrow_borrow (ts : List Token) : IsBorrow (borrow ts).1 := by
  have hlifetime : (optionalLifetime ts).1 = [] ∨ ∃ name, (optionalLifetime ts).1 = [.lifetime name] := by
    unfold optionalLifetime
    split
    · exact .inr ⟨_, rfl⟩
    · exact .inl rfl
  unfold borrow
  dsimp only
  rcases hlifetime with hlifetime | ⟨name, hlifetime⟩ <;>
    rcases optionalWord_fst "mut" (optionalLifetime ts).2 with hword | hword <;>
    rw [hlifetime, hword]
  · exact .none
  · exact .mutable
  · exact .lifetime
  · exact .both

/-- Where nothing stands between an ampersand and a type, the type begins with no lifetime. -/
theorem startsLifetime_borrow (h : (borrow ts).1 = []) : startsLifetime (borrow ts).2 = false := by
  cases ts with
  | nil => rfl
  | cons t ts =>
    cases t with
    | lifetime => cases h
    | word word =>
      unfold borrow optionalLifetime optionalWord startsWord at h ⊢
      cases hmut : word == "mut" <;> simp_all [startsLifetime]
    | _ => rfl

/-- What may stand behind an ampersand is read, if the type behind it begins with no lifetime of its own. -/
theorem borrow_append {borrowed : List Token} (h : IsBorrow borrowed) (head : TypeHead ts)
    (plain : borrowed = [] → startsLifetime ts = false) (us : List Token) :
    borrow (borrowed ++ (ts ++ us)) = (borrowed, ts ++ us) := by
  have hword : optionalWord "mut" (ts ++ us) = ([], ts ++ us) := by
    refine if_neg ?_
    intro hmut
    cases head with
    | word other =>
      obtain rfl := eq_of_beq hmut
      exact absurd (by decide) other
    | _ => cases hmut
  cases h with
  | none =>
    have hlifetime : optionalLifetime (ts ++ us) = ([], ts ++ us) := by
      unfold optionalLifetime
      split
      · rename_i heq
        exact absurd heq (head.ne_lifetime (plain rfl))
      · rfl
    rw [List.nil_append, borrow, hlifetime]
    simp only [hword, List.nil_append]
  | lifetime =>
    rw [List.singleton_append, borrow, optionalLifetime]
    simp only [hword, List.append_nil]
  | mutable => rfl
  | both => rfl

/-! ## Literals and arguments -/

/-- The tokens of a literal are read as it. -/
theorem literal?_append {literal : List Token} (h : literal? ts = some (literal, rest))
    (us : List Token) : literal? (literal ++ us) = some (literal, us) := by
  unfold literal? at h
  split at h
  · cases h
    rfl
  · cases h
    rfl
  · cases h
    rfl
  · split at h
    · rename_i hnumber
      cases h
      exact if_pos hnumber
    · cases h
  · cases h

/-- A literal begins with no mark but a minus sign. -/
theorem afterMark?_of_literal? {c : Char} {read : List Token × List Token}
    (h : literal? ts = some read) (hc : c ≠ '-') : afterMark? c ts = none := by
  unfold literal? at h
  split at h
  · rfl
  · rfl
  · rfl
  · exact if_neg hc
  · cases h

/-- A literal is an argument. -/
theorem argument?_literal {literal : List Token} (h : literal? ts = some (literal, rest))
    (us : List Token) : argument? constant (n + 1) (literal ++ us) = some (.other literal, us) := by
  have hread := literal?_append h us
  unfold argument?
  split
  · rename_i heq
    rw [heq] at hread
    cases hread
  · rename_i heq
    rw [heq] at hread
    cases hread
  · simp only [hread]

section Argument

variable {type : TypeSyntax} {value : List Token}

/-- What begins as a type, and not with a lifetime, is an argument that is a type. -/
theorem argument?_type (head : TypeHead ts) (plain : startsLifetime ts = false)
    (h : type? constant n true (ts ++ us) = some (type, rest)) (equals : afterMark? '=' rest = none)
    (colon : afterMark? ':' rest = none) :
    argument? constant (n + 1) (ts ++ us) = some (.type type, rest) := by
  have hliteral := head.literal?_eq us
  unfold argument?
  split
  · rename_i heq
    exact absurd heq (head.ne_lifetime plain)
  · rename_i heq
    exact absurd heq head.ne_brace
  · simp only [hliteral, h, equals, colon, ite_self]

/-- The name of an argument may be given a value. -/
theorem argument?_given (head : TypeHead ts) (plain : startsLifetime ts = false)
    (name : isArgumentName type = true)
    (h : type? constant n true (ts ++ us) = some (type, Token.lone '=' :: rest))
    (hvalue : given? constant n rest = some (value, rest')) :
    argument? constant (n + 1) (ts ++ us) =
      some (.other (type.tokens ++ Token.lone '=' :: value), rest') := by
  have hliteral := head.literal?_eq us
  have hequals : afterMark? '=' (Token.lone '=' :: rest) = some rest := rfl
  unfold argument?
  split
  · rename_i heq
    exact absurd heq (head.ne_lifetime plain)
  · rename_i heq
    exact absurd heq head.ne_brace
  · simp only [hliteral, h, name, if_true, hequals, hvalue, Option.map_some]

/-- The name of an argument may be given bounds. -/
theorem argument?_bounds (head : TypeHead ts) (plain : startsLifetime ts = false)
    (name : isArgumentName type = true)
    (h : type? constant n true (ts ++ us) = some (type, Token.lone ':' :: rest))
    (hvalue : argumentBounds? constant n rest = some (value, rest')) :
    argument? constant (n + 1) (ts ++ us) =
      some (.other (type.tokens ++ Token.lone ':' :: value), rest') := by
  have hliteral := head.literal?_eq us
  have hequals : afterMark? '=' (Token.lone ':' :: rest) = none := rfl
  have hcolon : afterMark? ':' (Token.lone ':' :: rest) = some rest := rfl
  unfold argument?
  split
  · rename_i heq
    exact absurd heq (head.ne_lifetime plain)
  · rename_i heq
    exact absurd heq head.ne_brace
  · simp only [hliteral, h, name, if_true, hequals, hcolon, hvalue, Option.map_some]

end Argument

/-! ## Types and inputs with commas between them -/

/-- A type that fills the tokens is the last. -/
theorem types?_last {type : TypeSyntax} (ne : ts ≠ [])
    (h : type? constant n true ts = some (type, [])) :
    types? constant (n + 1) ts = some type.tokens := by
  cases ts with
  | nil => exact absurd rfl ne
  | cons t ts =>
    rw [types?]
    · simp only [h]
    · exact List.cons_ne_nil _ _

/-- A type with a comma behind it stands before the others. -/
theorem types?_comma {type : TypeSyntax} {more : List Token} (ne : ts ≠ [])
    (h : type? constant n true ts = some (type, Token.lone ',' :: rest))
    (hmore : types? constant n rest = some more) :
    types? constant (n + 1) ts = some (type.tokens ++ Token.lone ',' :: more) := by
  have hcomma : afterMark? ',' (Token.lone ',' :: rest) = some rest := rfl
  cases ts with
  | nil => exact absurd rfl ne
  | cons t ts =>
    rw [types?]
    · simp only [h, hcomma, hmore, Option.map_some]
    · exact List.cons_ne_nil _ _

/-- Tokens begin as an input does, without attributes or a name. -/
structure InputHead (ts : List Token) : Prop where
  ne_nil : ts ≠ []
  hash : startsMark '#' ts = false
  unnamed : ∀ first, label first ts = ([], ts)

section Inputs

variable {first : Bool} {attrs name : List Token}

/-- Behind attributes and a name an input is read. -/
theorem InputHead.split (head : InputHead us) (hattrs : IsAttributes attrs)
    (hname : IsLabel first name) :
    attrs ++ (name ++ us) ≠ [] ∧ attributes (attrs ++ (name ++ us)) = (attrs, name ++ us) ∧
      label first (name ++ us) = (name, us) := by
  have hash : startsMark '#' (name ++ us) = false := by
    cases hname with
    | none => exact head.hash
    | name => rfl
    | receiver => rfl
  refine ⟨?_, attributes_append hattrs hash, label_append hname (head.unnamed first)⟩
  exact List.append_ne_nil_of_right_ne_nil _ (List.append_ne_nil_of_right_ne_nil _ head.ne_nil)

/-- The dots that stand for further inputs are the last. -/
theorem inputs?_ellipsis (hattrs : IsAttributes attrs) (hname : IsLabel first name)
    {ending : List Token} (hending : ending = [] ∨ ending = [Token.lone ',']) :
    ∃ inputs, inputs? constant (n + 1) first (attrs ++ (name ++ (ellipsis ++ ending))) =
      some inputs := by
  have head : InputHead (ellipsis ++ ending) :=
    ⟨List.cons_ne_nil _ _, rfl, fun _ => rfl⟩
  obtain ⟨hne, hattributes, hlabel⟩ := head.split hattrs hname
  have hellipsis : startsEllipsis (ellipsis ++ ending) = true := rfl
  rw [inputs?]
  · rcases hending with rfl | rfl <;>
      simp only [hattributes, hlabel, hellipsis, if_true] <;> exact ⟨_, rfl⟩
  · exact hne

/-- An input that fills the tokens is the last. -/
theorem inputs?_last (head : InputHead us) (hattrs : IsAttributes attrs)
    (hname : IsLabel first name) (closed : startsEllipsis us = false) {input : List Token}
    (h : input? (first && name.isEmpty) (type? constant n true) us = some (input, [])) :
    inputs? constant (n + 1) first (attrs ++ (name ++ us)) = some (attrs ++ name ++ input) := by
  obtain ⟨hne, hattributes, hlabel⟩ := head.split hattrs hname
  rw [inputs?]
  · simp only [hattributes, hlabel, closed, Bool.false_eq_true, if_false, h]
  · exact hne

/-- An input with a comma behind it stands before the others. -/
theorem inputs?_comma (head : InputHead us) (hattrs : IsAttributes attrs)
    (hname : IsLabel first name) (closed : startsEllipsis us = false) {input more : List Token}
    (h : input? (first && name.isEmpty) (type? constant n true) us =
      some (input, Token.lone ',' :: rest))
    (hmore : inputs? constant n false rest = some more) :
    inputs? constant (n + 1) first (attrs ++ (name ++ us)) =
      some (attrs ++ name ++ input ++ Token.lone ',' :: more) := by
  obtain ⟨hne, hattributes, hlabel⟩ := head.split hattrs hname
  have hcomma : afterMark? ',' (Token.lone ',' :: rest) = some rest := rfl
  rw [inputs?]
  · simp only [hattributes, hlabel, closed, Bool.false_eq_true, if_false, h, hcomma, hmore,
      Option.map_some]
  · exact hne

/-- What inputs are put together from: the first of them, and the others behind a comma. -/
inductive InputsForm (constant : Constant) (n : Nat) (first : Bool) : List Token → Prop
  | ellipsis {attrs name ending : List Token} (hattrs : IsAttributes attrs)
    (hname : IsLabel first name) (hending : ending = [] ∨ ending = [Token.lone ',']) :
    InputsForm constant n first (attrs ++ (name ++ (Grammar.ellipsis ++ ending)))
  | last {attrs name input ts : List Token} (hattrs : IsAttributes attrs)
    (hname : IsLabel first name)
    (h : input? (first && name.isEmpty) (type? constant n true) ts = some (input, [])) :
    InputsForm constant n first (attrs ++ (name ++ input))
  | comma {attrs name input ts behind rest more : List Token} (hattrs : IsAttributes attrs)
    (hname : IsLabel first name)
    (h : input? (first && name.isEmpty) (type? constant n true) ts = some (input, behind))
    (hmore : inputs? constant n false rest = some more) :
    InputsForm constant n first (attrs ++ (name ++ (input ++ Token.lone ',' :: more)))

/-- Inputs that are read are none, or of one of the kinds. -/
theorem inputsForm_of_inputs? (h : inputs? constant (n + 1) first ts = some us) :
    us = [] ∨ InputsForm constant n first us := by
  have hattrs := isAttributes_attributes ts
  have hname := isLabel_label first (attributes ts).2
  unfold inputs? at h
  split at h
  · cases h
  · cases h
    exact .inl rfl
  · rename_i hn _
    obtain rfl := Nat.succ.inj hn
    right
    dsimp only at h
    split at h
    · split at h
      · cases h
        have hform : InputsForm constant n _ _ := .ellipsis hattrs hname (.inl rfl)
        simpa only [List.append_assoc, List.append_nil] using hform
      · cases h
        have hform : InputsForm constant n _ _ := .ellipsis hattrs hname (.inr rfl)
        simpa only [List.append_assoc] using hform
      · cases h
    · split at h
      · cases h
      · rename_i input hinput
        cases h
        have hform := InputsForm.last hattrs hname hinput
        simpa only [List.append_assoc] using hform
      · rename_i input behind _ hinput
        split at h
        · cases h
        · obtain ⟨more, hmore, heq⟩ := Option.map_eq_some_iff.mp h
          cases heq
          have hform := InputsForm.comma hattrs hname hinput hmore
          simpa only [List.append_assoc] using hform

end Inputs

/-! ## Bounds -/

/-- What may be captured is read from the tokens that are given back for it. -/
theorem captured?_append {inner : List Token} (h : captured? ts = some (inner, rest))
    (us : List Token) : captured? (inner ++ us) = some (inner, us) := by
  fun_induction captured? ts generalizing inner rest with
  | case1 =>
    cases h
    rfl
  | case2 t joint ts hclosed =>
    cases h
    rw [List.cons_append, List.singleton_append, Token.lone, captured?]
    · rfl
    · exact hclosed
  | case3 t joint ts hclosed ih =>
    obtain ⟨⟨more, rest'⟩, hread, heq⟩ := Option.map_eq_some_iff.mp h
    cases heq
    rw [List.cons_append, List.cons_append, Token.lone, captured?, ih hread]
    · rfl
    all_goals simp_all
  | case4 => cases h

/-- What begins as a bound that is no lifetime is read as one. -/
theorem bound?_of_boundHead {bound : List Token} (head : BoundHead ts) (captures : Bool)
    (h : traitBound? constant n ts = some (bound, rest)) :
    bound? constant (n + 1) captures ts = some ((true, bound), rest) := by
  cases head with
  | relaxed =>
    rw [bound?]
    · rw [h, Option.map_some]
    all_goals simp [Token.lone]
  | word other =>
    rw [bound?]
    · rw [h, Option.map_some]
    all_goals simp_all
  | colons =>
    rw [bound?]
    · rw [h, Option.map_some]
    all_goals simp

/-- A bound that no further one follows is the last. -/
theorem bounds?_last {captures : Bool} {read : Bool × List Token}
    (h : bound? constant n captures ts = some (read, rest))
    (plain : plus = true → afterMark? '+' rest = none) :
    bounds? constant (n + 1) plus captures ts = some (read, rest) := by
  rw [bounds?, h]
  cases plus with
  | false => rfl
  | true => simp only [if_true, plain rfl]

/-- A plus sign that no further bound follows belongs to the bound before it. -/
theorem bounds?_plus {captures trait : Bool} {bound : List Token}
    (h : bound? constant n captures ts = some ((trait, bound), Token.lone '+' :: rest))
    (ends : startsBound rest = false) :
    bounds? constant (n + 1) true captures ts =
      some ((trait, bound ++ [Token.lone '+']), rest) := by
  have hplus : afterMark? '+' (Token.lone '+' :: rest) = some rest := rfl
  rw [bounds?, h]
  simp only [if_true, hplus, ends, Bool.false_eq_true, if_false]

/-- A bound with a plus sign behind it stands before the others. -/
theorem bounds?_more {captures trait trait' : Bool} {bound more : List Token}
    (h : bound? constant n captures ts = some ((trait, bound), Token.lone '+' :: us))
    (starts : startsBound us = true)
    (hmore : bounds? constant n true captures us = some ((trait', more), rest)) :
    bounds? constant (n + 1) true captures ts =
      some ((trait || trait', bound ++ Token.lone '+' :: more), rest) := by
  have hplus : afterMark? '+' (Token.lone '+' :: us) = some us := rfl
  rw [bounds?, h]
  simp only [if_true, hplus, starts, hmore, Option.map_some]

section Trait

variable {relaxed binder : List Token} {path : Path}

/-- Tokens begin with neither a binder nor a question mark. -/
def Unmarked (ts : List Token) : Prop := startsWord "for" ts = false ∧ startsMark '?' ts = false

theorem PathHead.unmarked (h : PathHead ts) (us : List Token) : Unmarked (ts ++ us) := by
  cases h with
  | colons => exact ⟨rfl, rfl⟩
  | word step =>
    refine ⟨beq_false_of_ne ?_, rfl⟩
    rintro rfl
    exact absurd step (by decide)

/-- The question mark and the binder in front of a path are read. -/
theorem exists_binder? (hrelaxed : relaxed = [] ∨ relaxed = [Token.lone '?'])
    (hbinder : IsBinder binder) (unmarked : Unmarked us) :
    ∃ first after, binder? (relaxed ++ binder ++ us) = some (first, after) ∧
      (optionalMark '?' after).1 = relaxed ∧
      (if first.isEmpty && !relaxed.isEmpty then binder? (optionalMark '?' after).2
        else some (first, (optionalMark '?' after).2)) = some (binder, us) := by
  have hmark : optionalMark '?' us = ([], us) := optionalMark_append (.inl rfl) unmarked.2
  have hread : binder? (binder ++ us) = some (binder, us) := by
    rcases hbinder with rfl | ⟨_, hread⟩
    · exact binder?_eq_nil unmarked.1
    · exact hread us
  rcases hrelaxed with rfl | rfl
  · refine ⟨binder, us, hread, by rw [hmark], ?_⟩
    rw [hmark, List.isEmpty_nil, Bool.not_true, Bool.and_false, if_neg Bool.false_ne_true]
  · exact ⟨[], Token.lone '?' :: (binder ++ us), rfl, rfl, hread⟩

/-- A bound that is a path is read from the path and what stands in front of it. -/
theorem traitBound?_plain (hrelaxed : relaxed = [] ∨ relaxed = [Token.lone '?'])
    (hbinder : IsBinder binder) (unmarked : Unmarked us)
    (h : path? constant n us = some (path, rest)) (colons : afterMarks? ':' ':' rest = none)
    (plain : ∀ inner more, rest ≠ .group .paren inner :: more) :
    traitBound? constant (n + 1) (relaxed ++ binder ++ us) =
      some (relaxed ++ binder ++ path.tokens, rest) := by
  obtain ⟨first, after, hfirst, hmark, hread⟩ := exists_binder? hrelaxed hbinder unmarked
  rw [traitBound?, hfirst]
  simp only [hmark, hread, h, colons, Option.getD_none]
  split
  · rename_i inner more hgroup
    split at hgroup
    · exact absurd hgroup (plain inner more)
    · cases hgroup
  · rfl

/-- A bound with inputs is read from the path, the inputs and the result. -/
theorem traitBound?_function (hrelaxed : relaxed = [] ∨ relaxed = [Token.lone '?'])
    (hbinder : IsBinder binder) (unmarked : Unmarked us) {inner inputs more output : List Token}
    (h : path? constant n us = some (path, .group .paren inner :: more))
    (bare : (path.segments.getLast?.map fun s => s.arguments.isEmpty).getD true = true)
    (hinputs : types? constant n inner = some inputs)
    (houtput : output? constant n more = some (output, rest)) :
    traitBound? constant (n + 1) (relaxed ++ binder ++ us) =
      some (relaxed ++ binder ++ path.tokens ++ .group .paren inputs :: output, rest) := by
  obtain ⟨first, after, hfirst, hmark, hread⟩ := exists_binder? hrelaxed hbinder unmarked
  have hgroup : afterMarks? ':' ':' (.group .paren inner :: more) = none := rfl
  rw [traitBound?, hfirst]
  simp only [hmark, hread, h, bare, if_true, hgroup, Option.getD_none, hinputs, houtput,
    Option.map_some]

/-! ## Types that begin with a path -/

/-- A path that no bounds are added to is a type. -/
theorem pathType?_path (h : path? constant n ts = some (path, rest))
    (plain : startsMark '!' rest = false) (closed : (plus && startsMark '+' rest) = false) :
    pathType? constant (n + 1) plus [] ts = some (.path path.leading path.segments, rest) := by
  rw [pathType?, h]
  simp only [plain, closed, Bool.false_and, List.isEmpty_nil, Bool.not_true, Bool.or_false,
    Bool.false_eq_true, if_false]

/-- The name of a macro and what it is given are a type. -/
theorem pathType?_invocation {delimiter : Delimiter} {inner : List Token}
    (h : path? constant n ts = some (path, Token.lone '!' :: .group delimiter inner :: rest))
    (plain : isPlain path = true) (binder : List Token) :
    pathType? constant (n + 1) plus binder ts =
      some (.other (path.tokens ++ [Token.lone '!', .group delimiter inner]), rest) := by
  have hmark : (startsMark '!' (Token.lone '!' :: .group delimiter inner :: rest) &&
      !startsMarks '!' '=' (Token.lone '!' :: .group delimiter inner :: rest)) = true := rfl
  rw [pathType?, h]
  simp only [hmark, plain, Bool.and_self, if_true, List.drop_one, List.tail_cons]

/-- A path behind a binder is a type. -/
theorem pathType?_bound (h : path? constant n ts = some (path, rest))
    (plain : startsMark '!' rest = false) (bound : binder ≠ []) :
    pathType? constant (n + 1) false binder ts = some (.other (binder ++ path.tokens), rest) := by
  have hbound := List.isEmpty_eq_false_iff.mpr bound
  rw [pathType?, h]
  simp only [plain, hbound, Bool.false_and, Bool.not_false, Bool.true_or, Bool.false_eq_true,
    if_false, if_true]

/-- A path that bounds are added to is a type. -/
theorem pathType?_bounded {more : List Token} (h : path? constant n ts = some (path, us))
    (plain : startsMark '!' us = false) (bounded : binder ≠ [] ∨ startsMark '+' us = true)
    (hmore : moreBounds? constant n us = some (more, rest)) :
    pathType? constant (n + 1) true binder ts =
      some (.other (binder ++ path.tokens ++ more), rest) := by
  have hbounded : (!binder.isEmpty || (true && startsMark '+' us)) = true := by
    simpa using bounded
  rw [pathType?, h]
  simp only [plain, hbounded, Bool.false_and, Bool.false_eq_true, if_false, if_true, hmore,
    Option.map_some]

end Trait

/-! ## Groups in parentheses -/

section Group

variable {inner : List Token} {type : TypeSyntax}

/-- Bounds in parentheses of which the first is a lifetime are a type. -/
theorem parenthesized?_lifetime {name : String} {bounds : List Token}
    (h : bounds? constant n true false (.lifetime name :: us) = some ((true, bounds), [])) :
    parenthesized? constant (n + 1) plus (.lifetime name :: us) ts =
      some (.paren (.other bounds), ts) := by
  rw [parenthesized?]
  simp only [h]

/-- A bound with a question mark in parentheses is a type, possibly with bounds that are added to it. -/
theorem parenthesized?_relaxed {joint : Bool} {bound more : List Token}
    (h : traitBound? constant n (.mark '?' joint :: us) = some (bound, []))
    (hmore : addedBounds? constant n ts = some (more, rest)) :
    parenthesized? constant (n + 1) plus (.mark '?' joint :: us) ts =
      some (.other (.group .paren bound :: more), rest) := by
  rw [parenthesized?]
  simp only [h, hmore, Option.map_some]

/-- A type in parentheses that no bounds are added to is one. -/
theorem parenthesized?_single (head : TypeHead inner) (plain : startsLifetime inner = false)
    (h : type? constant n true inner = some (type, []))
    (closed : (plus && startsMark '+' ts) = false) :
    parenthesized? constant (n + 1) plus inner ts = some (.paren type, ts) := by
  obtain ⟨hne, hlifetime, hmark⟩ := head.excludes plain
  rw [parenthesized?]
  · simp only [h, closed, Bool.false_eq_true, if_false]
  exacts [hne, hlifetime, hmark]

/-- A path in parentheses that bounds are added to is a type. -/
theorem parenthesized?_bounded {leading : Bool} {segments : List Segment} {more : List Token}
    (head : TypeHead inner) (plain : startsLifetime inner = false)
    (h : type? constant n true inner = some (.path leading segments, []))
    (hplus : startsMark '+' ts = true) (hmore : addedBounds? constant n ts = some (more, rest)) :
    parenthesized? constant (n + 1) true inner ts =
      some (.other (.group .paren (TypeSyntax.path leading segments).tokens :: more), rest) := by
  obtain ⟨hne, hlifetime, hmark⟩ := head.excludes plain
  rw [parenthesized?]
  · simp only [h, hplus, Bool.and_self, if_true, hmore, Option.map_some]
  exacts [hne, hlifetime, hmark]

/-- Types with commas between them in parentheses are a type. -/
theorem parenthesized?_tuple {more : List Token} (head : TypeHead inner)
    (plain : startsLifetime inner = false)
    (h : type? constant n true inner = some (type, Token.lone ',' :: us))
    (hmore : types? constant n us = some more) :
    parenthesized? constant (n + 1) plus inner ts =
      some (.other [.group .paren (type.tokens ++ Token.lone ',' :: more)], ts) := by
  have hcomma : afterMark? ',' (Token.lone ',' :: us) = some us := rfl
  obtain ⟨hne, hlifetime, hmark⟩ := head.excludes plain
  rw [parenthesized?]
  · simp only [h, hcomma, hmore, Option.map_some]
  exacts [hne, hlifetime, hmark]

end Group

/-! ## Types with a qualification -/

/-- A type in angle brackets with steps behind it is one. -/
theorem qualified?_plain {self : TypeSyntax} {segments : List Segment}
    (h : type? constant n true ts = some (self, Token.lone '>' :: (Token.colons ++ us)))
    (hsegments : segments? constant n us = some (segments, rest)) :
    ∃ tokens, qualified? constant (n + 1) ts = some (.other tokens, rest) := by
  have hcolons : (afterMark? '>' (Token.lone '>' :: (Token.colons ++ us))).bind
      (afterMarks? ':' ':') = some us := rfl
  rw [Token.lone] at h hcolons
  rw [qualified?, h]
  simp only [hcolons, hsegments, Option.map_some]
  exact ⟨_, rfl⟩

/-- A type with a trait of it in angle brackets and steps behind them is one. -/
theorem qualified?_ofTrait {self : TypeSyntax} {path : Path} {segments : List Segment}
    {more : List Token} (h : type? constant n true ts = some (self, .word "as" :: more))
    (hpath : path? constant n more = some (path, Token.lone '>' :: (Token.colons ++ us)))
    (hsegments : segments? constant n us = some (segments, rest)) :
    ∃ tokens, qualified? constant (n + 1) ts = some (.other tokens, rest) := by
  have hcolons : (afterMark? '>' (Token.lone '>' :: (Token.colons ++ us))).bind
      (afterMarks? ':' ':') = some us := rfl
  rw [qualified?, h]
  simp only [hpath, Option.map_some, hcolons, hsegments]
  exact ⟨_, rfl⟩

/-! ## Types behind a star or an ampersand -/

/-- Bounds behind `dyn` and what may stand between them are a type. -/
theorem type?_object {star inner : List Token} (hstar : optionalMark '*' ts = (star, us))
    (h : bounds? constant n plus false us = some ((true, inner), rest)) :
    ∃ tokens, type? constant (n + 1) plus (.word "dyn" :: ts) = some (.other tokens, rest) := by
  have hbounds : bounds? constant n plus false (optionalMark '*' ts).2 = some ((true, inner), rest) := by
    rw [hstar]
    exact h
  exact ⟨_, type?_of_typeForm (.object hbounds)⟩

/-- A type behind an ampersand and what may stand between them are a type. -/
theorem type?_reference {joint : Bool} {borrowed : List Token} {target : TypeSyntax}
    (hborrow : borrow ts = (borrowed, us))
    (h : type? constant n false us = some (target, rest)) :
    ∃ tokens, type? constant (n + 1) plus (.mark '&' joint :: ts) = some (.other tokens, rest) := by
  have htarget : type? constant n false (borrow ts).2 = some (target, rest) := by
    rw [hborrow]
    exact h
  exact ⟨_, type?_of_typeForm (.reference htarget)⟩

end Specimen.Source.Grammar
