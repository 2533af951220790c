import Specimen.Proofs.Text.Word
import Specimen.Source.Reader

/-!
# The kinds of types

What stands in front of a type tells its kind, and the kind tells the reader that goes on. `TypeForm` lists
the kinds, each with the tokens that a type of this kind begins with, so that what is to be said about types
can be said kind by kind.

Main statement: `Grammar.type?_eq_some_iff`.
-/

namespace Specimen.Source.Grammar

open Text

variable {constant : Constant} {n : Nat} {plus : Bool} {ts rest : List Token} {a : TypeSyntax}

/-! ## Beginnings of paths -/

/-- Tokens begin with `::`, or with a word that may begin a path. -/
inductive Begins : List Token → Prop
  | colons {joint : Bool} {ts : List Token} : Begins (.mark ':' true :: .mark ':' joint :: ts)
  | word {word : String} {ts : List Token} (h : startsPath word = true) : Begins (.word word :: ts)

theorem Begins.append (h : Begins ts) (us : List Token) : Begins (ts ++ us) := by
  cases h with
  | colons => exact .colons
  | word hword => exact .word hword

/-- Tokens in front of which `::` is found begin as a path may. -/
theorem begins_of_startsColons (h : startsColons ts = true) : Begins ts := by
  unfold startsColons startsMarks afterMarks? at h
  split at h
  · split at h
    · rename_i hcolons
      obtain ⟨rfl, rfl⟩ := hcolons
      exact .colons
    · cases h
  · cases h

/-- Whether a word begins a function pointer. -/
def startsFunction (word : String) : Bool := word == "fn" || word == "unsafe" || word == "extern"

/-! ## Kinds -/

/-- What begins as a path may is read as a type that begins with a path. -/
theorem type?_of_begins (h : Begins ts) (plus : Bool) :
    type? constant (n + 1) plus ts = pathType? constant n plus [] ts := by
  cases h with
  | @colons joint ts =>
    have hcolons : startsColons (.mark ':' true :: .mark ':' joint :: ts) = true := rfl
    unfold type?
    split <;> simp_all
  | @word word ts hword =>
    have hother : word ∉ ["for", "dyn", "impl", "_"] := not_mem_of_all_not hword (by decide)
    have hfunction : word ∉ ["fn", "unsafe", "extern"] := not_mem_of_all_not hword (by decide)
    simp only [List.mem_cons, List.not_mem_nil, or_false, not_or] at hother hfunction
    rw [type?]
    · simp [hfunction, hword]
    all_goals simp_all

/-- The kinds of types, by the tokens that they begin with. -/
inductive TypeForm (constant : Constant) (n : Nat) (plus : Bool) :
    List Token → TypeSyntax → List Token → Prop
  | path {ts rest : List Token} {a : TypeSyntax} (begins : Begins ts)
    (h : pathType? constant n plus [] ts = some (a, rest)) : TypeForm constant n plus ts a rest
  | boundPath {ts binder after rest : List Token} {word : String} {a : TypeSyntax}
    (hbinder : binder? (.word "for" :: ts) = some (binder, .word word :: after))
    (begins : startsPath word = true)
    (h : pathType? constant n plus binder (.word word :: after) = some (a, rest)) :
    TypeForm constant n plus (.word "for" :: ts) a rest
  | function {ts inner rest : List Token} {word : String} (begins : startsFunction word = true)
    (h : function? constant n (.word word :: ts) = some (inner, rest)) :
    TypeForm constant n plus (.word word :: ts) (.other inner) rest
  | boundFunction {ts binder after inner rest : List Token} {word : String}
    (hbinder : binder? (.word "for" :: ts) = some (binder, .word word :: after))
    (begins : startsFunction word = true)
    (h : function? constant n (.word word :: after) = some (inner, rest)) :
    TypeForm constant n plus (.word "for" :: ts) (.other (binder ++ inner)) rest
  | parenthesized {inner ts rest : List Token} {a : TypeSyntax}
    (h : parenthesized? constant n plus inner ts = some (a, rest)) :
    TypeForm constant n plus (.group .paren inner :: ts) a rest
  | object {ts inner rest : List Token}
    (h : bounds? constant n plus false (optionalMark '*' ts).2 = some ((true, inner), rest)) :
    TypeForm constant n plus (.word "dyn" :: ts) (.other (.word "dyn" :: (optionalMark '*' ts).1 ++ inner))
      rest
  | abstract {ts inner rest : List Token}
    (h : bounds? constant n plus true ts = some ((true, inner), rest)) :
    TypeForm constant n plus (.word "impl" :: ts) (.other (.word "impl" :: inner)) rest
  | bounded {name : String} {ts inner rest : List Token}
    (h : bounds? constant n true false (.lifetime name :: ts) = some ((true, inner), rest)) :
    TypeForm constant n plus (.lifetime name :: ts) (.other inner) rest
  | hole {ts : List Token} : TypeForm constant n plus (.word "_" :: ts) (.other [.word "_"]) ts
  | never {joint : Bool} {ts : List Token} :
    TypeForm constant n plus (.mark '!' joint :: ts) (.other [Token.lone '!']) ts
  | slice {inner ts : List Token} {element : TypeSyntax}
    (h : type? constant n true inner = some (element, [])) :
    TypeForm constant n plus (.group .bracket inner :: ts) (.other [.group .bracket element.tokens]) ts
  | array {inner length ts : List Token} {joint : Bool} {element : TypeSyntax}
    (h : type? constant n true inner = some (element, .mark ';' joint :: length))
    (hlength : constant length = true) :
    TypeForm constant n plus (.group .bracket inner :: ts)
      (.other [.group .bracket (element.tokens ++ Token.lone ';' :: length)]) ts
  | pointer {joint : Bool} {word : String} {ts rest : List Token} {target : TypeSyntax}
    (hword : word = "const" ∨ word = "mut") (h : type? constant n false ts = some (target, rest)) :
    TypeForm constant n plus (.mark '*' joint :: .word word :: ts)
      (.other (Token.lone '*' :: .word word :: target.tokens)) rest
  | reference {joint : Bool} {ts rest : List Token} {target : TypeSyntax}
    (h : type? constant n false (borrow ts).2 = some (target, rest)) :
    TypeForm constant n plus (.mark '&' joint :: ts)
      (.other (Token.lone '&' :: (borrow ts).1 ++ target.tokens)) rest
  | qualified {joint : Bool} {ts rest : List Token} {a : TypeSyntax}
    (h : qualified? constant n ts = some (a, rest)) :
    TypeForm constant n plus (.mark '<' joint :: ts) a rest

/-- A type is of one of the kinds. The cases are those of the reader, by what stands in front. -/
theorem typeForm_of_type? (h : type? constant (n + 1) plus ts = some (a, rest)) :
    TypeForm constant n plus ts a rest := by
  unfold type? at h
  split at h
  · -- no steps are left
    cases h
  · -- a binder
    rename_i m ts hm
    obtain rfl := Nat.succ.inj hm
    split at h
    · cases h
    · rename_i hbinder
      split at h
      · split at h
        · rename_i hfunction
          obtain ⟨⟨inner, rest'⟩, hread, heq⟩ := Option.map_eq_some_iff.mp h
          cases heq
          exact .boundFunction hbinder hfunction hread
        · split at h
          · rename_i hpath
            exact .boundPath hbinder hpath h
          · cases h
      · cases h
  · -- parentheses
    rename_i m inner ts hm
    obtain rfl := Nat.succ.inj hm
    exact .parenthesized h
  · -- `dyn`
    rename_i m ts hm
    obtain rfl := Nat.succ.inj hm
    dsimp only at h
    split at h
    · rename_i hbounds
      cases h
      exact .object hbounds
    · cases h
  · -- `impl`
    rename_i m ts hm
    obtain rfl := Nat.succ.inj hm
    split at h
    · rename_i hbounds
      cases h
      exact .abstract hbounds
    · cases h
  · -- `_`
    cases h
    exact .hole
  · -- another word
    rename_i m word ts _ _ _ _ hm
    obtain rfl := Nat.succ.inj hm
    split at h
    · rename_i hfunction
      obtain ⟨⟨inner, rest'⟩, hread, heq⟩ := Option.map_eq_some_iff.mp h
      cases heq
      exact .function hfunction hread
    · split at h
      · rename_i hpath
        exact .path (.word hpath) h
      · cases h
  · -- brackets
    rename_i m inner ts hm
    obtain rfl := Nat.succ.inj hm
    split at h
    · rename_i helement
      cases h
      exact .slice helement
    · rename_i helement
      split at h
      · rename_i hlength
        cases h
        exact .array helement hlength
      · cases h
    · cases h
  · -- a star
    rename_i m joint word ts hm
    obtain rfl := Nat.succ.inj hm
    split at h
    · rename_i hword
      obtain ⟨⟨target, rest'⟩, hread, heq⟩ := Option.map_eq_some_iff.mp h
      cases heq
      simp only [Bool.or_eq_true, beq_iff_eq] at hword
      exact .pointer hword hread
    · cases h
  · -- an ampersand
    rename_i m joint ts hm
    obtain rfl := Nat.succ.inj hm
    obtain ⟨⟨target, rest'⟩, hread, heq⟩ := Option.map_eq_some_iff.mp h
    cases heq
    exact .reference hread
  · -- an exclamation mark
    cases h
    exact .never
  · -- an angle bracket
    rename_i m joint ts hm
    obtain rfl := Nat.succ.inj hm
    exact .qualified h
  · -- a lifetime
    rename_i m name ts hm
    obtain rfl := Nat.succ.inj hm
    split at h
    · rename_i hbounds
      cases h
      exact .bounded hbounds
    · cases h
  · -- anything else
    rename_i hm _ _ _ _ _ _ _ _ _ _ _ _
    obtain rfl := Nat.succ.inj hm
    split at h
    · rename_i hcolons
      exact .path (begins_of_startsColons hcolons) h
    · cases h

/-- A word that begins a function pointer begins no path. -/
theorem startsFunction_eq_false {word : String} (h : startsPath word = true) :
    startsFunction word = false := by
  have hother : word ∉ ["fn", "unsafe", "extern"] := not_mem_of_all_not h (by decide)
  simp only [List.mem_cons, List.not_mem_nil, or_false, not_or] at hother
  simp [startsFunction, hother]

/-- Every kind is read as a type. -/
theorem type?_of_typeForm (h : TypeForm constant n plus ts a rest) :
    type? constant (n + 1) plus ts = some (a, rest) := by
  cases h with
  | path begins h => rw [type?_of_begins begins, h]
  | boundPath hbinder begins h =>
    have hother := startsFunction_eq_false begins
    rw [startsFunction] at hother
    rw [type?, hbinder]
    simp only [hother, begins, h, if_true, Bool.false_eq_true, if_false]
  | @function ts inner rest word begins h =>
    have hother : word ∉ ["for", "dyn", "impl", "_"] := not_mem_of_all_not begins (by decide)
    rw [startsFunction] at begins
    rw [type?]
    · simp only [begins, h, if_true, Option.map_some]
    all_goals
      rintro rfl
      simp at hother
  | boundFunction hbinder begins h =>
    rw [startsFunction] at begins
    rw [type?, hbinder]
    simp only [begins, h, if_true, Option.map_some]
  | parenthesized h => rw [type?, h]
  | object h =>
    rw [type?]
    simp only [h]
  | abstract h =>
    rw [type?]
    simp only [h]
  | bounded h =>
    rw [type?]
    simp only [h]
  | hole => rw [type?]
  | never => rw [type?]
  | slice h =>
    rw [type?]
    simp only [h]
  | array h hlength =>
    rw [type?]
    simp only [h, hlength, if_true]
  | pointer hword h =>
    rw [type?]
    rcases hword with rfl | rfl <;> simp [h]
  | @reference joint ts rest target h =>
    rw [type?]
    simp only [h, Option.map_some]
  | qualified h => rw [type?, h]

/-- What is read as a type is of one of the kinds. -/
theorem type?_eq_some_iff :
    type? constant (n + 1) plus ts = some (a, rest) ↔ TypeForm constant n plus ts a rest :=
  ⟨typeForm_of_type?, type?_of_typeForm⟩

end Specimen.Source.Grammar
