import Specimen.Proofs.Source.PathText

/-!
# Reading types with arguments

How the readers of types go through a path, with or without arguments behind it, where it stands alone
or as an argument itself. A path that begins as one may is read as a type (`type?_of_begins`), and what
may stand behind it there, a closing bracket or a comma, does not belong to it (`Closes`).
-/

namespace Specimen.Source.Grammar

open Text Token

variable {constant : Constant} {n : Nat} {ts rest : List Token}

/-! ## Beginnings and ends -/

/-- Tokens that end a type before them: none, or a closing bracket or a comma in front. -/
inductive Closes : List Token → Prop
  | nil : Closes []
  | bracket {joint : Bool} {ts : List Token} : Closes (.mark '>' joint :: ts)
  | comma {joint : Bool} {ts : List Token} : Closes (.mark ',' joint :: ts)

/-- What ends a type begins with no other mark than a closing bracket or a comma. -/
theorem Closes.afterMark?_eq {c : Char} (h : Closes rest) (hc : c ≠ '>' ∧ c ≠ ',') :
    afterMark? c rest = none := by
  cases h with
  | nil => rfl
  | bracket => exact if_neg hc.1
  | comma => exact if_neg hc.2

theorem afterMarks?_eq_none {c d : Char} (h : afterMark? c ts = none) : afterMarks? c d ts = none := by
  unfold afterMarks?
  split
  · refine if_neg fun hmarks => ?_
    rw [afterMark?, if_pos hmarks.1] at h
    cases h
  · rfl

/-- What begins as a path begins with no other mark than a colon. -/
theorem Begins.afterMark?_eq {c : Char} (h : Begins ts) (hc : c ≠ ':') : afterMark? c ts = none := by
  cases h with
  | colons => exact if_neg hc
  | word => rfl

/-! ## Types that are paths -/

/-- A path behind which the type ends is a type that is that path. -/
theorem pathType?_of_path? {path : Path} (plus : Bool) (h : path? constant n ts = some (path, rest))
    (closes : Closes rest) :
    pathType? constant (n + 1) plus [] ts = some (.path path.leading path.segments, rest) := by
  have hbang : startsMark '!' rest = false := by
    rw [startsMark, closes.afterMark?_eq (by decide), Option.isSome_none]
  have hplus : startsMark '+' rest = false := by
    rw [startsMark, closes.afterMark?_eq (by decide), Option.isSome_none]
  rw [pathType?, h]
  simp [hbang, hplus]

/-- The tokens of a path that a type can be begin as a path may. -/
theorem begins_of_isTypePath {leading : Bool} {names : List String}
    (h : IsTypePath leading names) : Begins (Path.tokens ⟨leading, plain names⟩) := by
  cases leading with
  | true => exact .colons
  | false =>
    obtain ⟨name, hhead, hstart⟩ := h.headed.resolve_left Bool.false_ne_true
    obtain ⟨rest, rfl⟩ := List.head?_eq_some_iff.mp hhead
    obtain ⟨ts, hts⟩ := exists_segmentsTokens_plain name rest
    have htokens : Path.tokens ⟨false, plain (name :: rest)⟩ =
        segmentsTokens (plain (name :: rest)) := rfl
    rw [htokens, hts]
    exact .word hstart

/-- A path of plain names is read as it is. -/
theorem type?_plain {leading : Bool} {names : List String} (hpath : IsTypePath leading names)
    (hn : names.length + 3 < n) (plus : Bool) (closes : Closes rest) :
    type? constant n plus (Path.tokens ⟨leading, plain names⟩ ++ rest) =
      some (.path leading (plain names), rest) := by
  obtain ⟨n, rfl⟩ : ∃ m, n = m + 2 := ⟨n - 2, by omega⟩
  have hread : path? constant n (Path.tokens ⟨leading, plain names⟩ ++ rest) =
      some (⟨leading, plain names⟩, rest) :=
    path?_plain leading hpath.ne_nil hpath.isStep (by omega) (closes.afterMark?_eq (by decide))
      (afterMarks?_eq_none (closes.afterMark?_eq (by decide)))
  rw [type?_of_begins ((begins_of_isTypePath hpath).append rest), pathType?_of_path? plus hread closes]

/-- An identifier may begin a path. -/
theorem startsPath_of_isIdentifier {name : String} (h : isIdentifier name = true) :
    startsPath name = true := by
  simp [startsPath, h]

/-- A step with arguments in brackets is read as it is. -/
theorem segment?_angled {name : String} (hname : isIdentifier name = true) {items : List Argument}
    {trailing joint : Bool} (begins : Begins ts)
    (h : arguments? constant n ts = some ((items, trailing), rest)) :
    segment? constant (n + 1) (.word name :: .mark '<' joint :: ts) =
      some (.mk name (.angled false items trailing), rest) := by
  have hother : name ∉ ["super", "self", "crate", "try"] := not_mem_of_all_not hname (by decide)
  have hequals : startsMarks '<' '=' (.mark '<' joint :: ts) = false := by
    cases begins <;> cases joint <;> rfl
  have hopen : afterMark? '<' (.mark '<' joint :: ts) = some ts := rfl
  simp only [List.mem_cons, List.not_mem_nil, or_false, not_or] at hother
  rw [segment?, hequals, hopen]
  simp [hother, hname, h]

/-- A type with arguments in brackets is read as it is. -/
theorem type?_angled {name : String} (hname : isIdentifier name = true) {items : List Argument}
    {trailing : Bool} (joint : Bool) (begins : Begins ts)
    (h : arguments? constant n ts = some ((items, trailing), rest)) (plus : Bool)
    (closes : Closes rest) :
    type? constant (n + 5) plus (.word name :: .mark '<' joint :: ts) =
      some (.path false [.mk name (.angled false items trailing)], rest) := by
  have hcolons : afterMarks? ':' ':' rest = none :=
    afterMarks?_eq_none (closes.afterMark?_eq (by decide))
  have hsegments : segments? constant (n + 2) (.word name :: .mark '<' joint :: ts) =
      some ([.mk name (.angled false items trailing)], rest) := by
    rw [segments?, segment?_angled hname begins h]
    simp only [hcolons]
  have hpath : path? constant (n + 3) (.word name :: .mark '<' joint :: ts) =
      some (⟨false, [.mk name (.angled false items trailing)]⟩, rest) := by
    have hnone : afterMarks? ':' ':' (.word name :: .mark '<' joint :: ts) = none := rfl
    rw [path?, hnone]
    simp only [hsegments, Option.map_some]
  rw [type?_of_begins (.word (startsPath_of_isIdentifier hname)),
    pathType?_of_path? plus hpath closes]

/-! ## Arguments -/

/-- A path that is an argument is read as a type. -/
theorem argument?_of_type? {type : TypeSyntax} (begins : Begins ts)
    (h : type? constant n true ts = some (type, rest)) (closes : Closes rest) :
    argument? constant (n + 1) ts = some (.type type, rest) := by
  have hequals : afterMark? '=' rest = none := closes.afterMark?_eq (by decide)
  have hcolon : afterMark? ':' rest = none := closes.afterMark?_eq (by decide)
  have hliteral : literal? ts = none := by
    cases begins with
    | colons => rfl
    | @word word ts hword =>
      have hother : word ∉ ["true", "false"] := not_mem_of_all_not hword (by decide)
      unfold literal?
      split <;> simp_all
  unfold argument?
  split
  · cases begins
  · cases begins
  · simp only [hliteral, h, hequals, hcolon, ite_self]

/-- An argument with the closing bracket behind it is the last one. -/
theorem arguments?_last {argument : Argument} {joint : Bool} (begins : Begins ts)
    (h : argument? constant n ts = some (argument, .mark '>' joint :: rest)) :
    arguments? constant (n + 1) ts = some (([argument], false), rest) := by
  rw [arguments?, begins.afterMark?_eq (by decide), h]
  rfl

/-- An argument with a comma behind it stands before the arguments that are read after the comma. -/
theorem arguments?_comma {argument : Argument} {joint trailing : Bool} {us : List Token}
    {items : List Argument} (begins : Begins ts)
    (h : argument? constant n ts = some (argument, .mark ',' joint :: us))
    (hrest : arguments? constant n us = some ((items, trailing), rest)) :
    arguments? constant (n + 1) ts =
      some ((argument :: items, trailing || items.isEmpty), rest) := by
  have hclosing : afterMark? '>' (.mark ',' joint :: us) = none := rfl
  have hcomma : afterMark? ',' (.mark ',' joint :: us) = some us := rfl
  rw [arguments?, begins.afterMark?_eq (by decide), h]
  simp only [hclosing, hcomma, hrest, Option.map_some]

end Specimen.Source.Grammar
