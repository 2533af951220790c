import Specimen.Proofs.Category.Token
import Specimen.Proofs.Text.Numeral
import Specimen.Proofs.Text.Split
import Specimen.Proofs.Traversal

/-!
# The grammar of category tokens

A text is read as a category exactly when it spells the category, with blanks around it
(`Category.grammar`). A category without arguments is spelled by its token, and some have a second
spelling; an image is spelled by its two sides, with blanks between all parts, and each side by a
numeral of any length whose value fits in 32 bits.
-/

namespace Specimen

open Text

namespace Category

/-! ## Spellings -/

/-- The second spelling of a category. -/
def alias? : Category → Option String
  | .firstName => some "first_name"
  | .lastName => some "last_name"
  | .fullName => some "full_name"
  | .appVersion => some "app_version"
  | .creditCardNumber => some "credit_card_number"
  | .companyName => some "company_name"
  | .username => some "user_name"
  | _ => none

/-- A side of an image: its label, a colon and a numeral of value `n`, with blanks around the label and
around the numeral. -/
def IsSide (label : String) (n : Nat) (cs : List Char) : Prop :=
  ∃ name value numeral, cs = name ++ ':' :: value ∧ Padded label.toList name ∧
    Padded numeral value ∧ IsNumeral numeral n

/-- The texts that stand for a category, without blanks around them. -/
inductive Spells : List Char → Category → Prop
  | token {category : Category} (plain : category ∈ simple) :
      Spells category.token.toList category
  | other {category : Category} {word : String} (second : category.alias? = some word) :
      Spells word.toList category
  | image {gap first second : List Char} {width height : UInt32}
      (blank : ∀ c ∈ gap, isBlank c = true) (left : IsSide "width" width.toNat first)
      (right : IsSide "height" height.toNat second) :
      Spells ("image".toList ++ (gap ++ '(' :: (first ++ ',' :: second ++ [')']))) (.image width height)

/-- A word stands for a category if it is the category's token or its other name. -/
theorem ofWord?_eq_some_iff {word : String} {category : Category} :
    ofWord? word = some category ↔
      category ∈ simple ∧ word = category.token ∨ category.alias? = some word := by
  constructor
  · intro h
    unfold ofWord? at h
    split at h <;> first | cases h; decide | cases h
  · rintro (⟨hplain, rfl⟩ | halias)
    · revert category
      decide
    · cases category <;> cases halias <;> rfl

/-! ## Images -/

/-- Besides digits a numeral may hold a plus sign only. -/
theorem not_mem_of_isNumeral {c : Char} (digit : c.isDigit = false) (plus : c ≠ '+')
    {cs : List Char} {n : Nat} (h : IsNumeral cs n) : c ∉ cs := by
  obtain ⟨digits, hcs, _, hdigits, _⟩ := h
  have hnot : c ∉ digits := fun hc => Bool.noConfusion (digit.symm.trans (hdigits c hc))
  rcases hcs with rfl | rfl
  · exact hnot
  · exact fun hc => (List.mem_cons.mp hc).elim plus hnot

/-- A numeral has no blanks at its ends. -/
theorem trim_of_isNumeral {cs : List Char} {n : Nat} (h : IsNumeral cs n) : trim cs = cs := by
  have hblank : ∀ c ∈ cs, isBlank c = false := by
    obtain ⟨digits, hcs, _, hdigits, _⟩ := h
    have hdigit : ∀ c ∈ digits, isBlank c = false := fun c hc =>
      isBlank_eq_false_of_isDigit (hdigits c hc)
    rcases hcs with rfl | rfl
    · exact hdigit
    · exact List.forall_mem_cons.mpr ⟨by decide, hdigit⟩
  exact trim_eq_self_iff.mpr ⟨fun c hc => hblank c (List.mem_of_mem_head? hc),
    fun c hc => hblank c (List.mem_of_getLast? hc)⟩

/-- Padding adds blanks and nothing else. -/
theorem not_mem_of_padded {c : Char} (blank : isBlank c = false) {core cs : List Char}
    (h : Padded core cs) (hcore : c ∉ core) : c ∉ cs := by
  obtain ⟨front, back, hfront, hback, rfl⟩ := h
  simp only [List.mem_append, not_or]
  exact ⟨⟨fun hc => Bool.noConfusion (blank.symm.trans (hfront c hc)), hcore⟩,
    fun hc => Bool.noConfusion (blank.symm.trans (hback c hc))⟩

section Sides

variable {label : String} {n : Nat} {part : List Char}

/-- A side is cut at its first colon, and each half is trimmed. -/
theorem isSide_iff (colon : ':' ∉ label.toList) (plain : trim label.toList = label.toList) :
    IsSide label n part ↔ ∃ name value, splitFirst? [':'] part = some (name, value) ∧
      trim name = label.toList ∧ IsNumeral (trim value) n := by
  constructor
  · rintro ⟨name, value, numeral, rfl, hname, hvalue, hnumeral⟩
    have hvalue' : trim value = numeral := trim_eq_iff.mpr ⟨hvalue, trim_of_isNumeral hnumeral⟩
    exact ⟨name, value,
      splitFirst?_singleton_eq_some_iff.mpr ⟨rfl, not_mem_of_padded (by decide) hname colon⟩,
      trim_eq_iff.mpr ⟨hname, plain⟩, hvalue' ▸ hnumeral⟩
  · rintro ⟨name, value, hcut, hname, hnumeral⟩
    exact ⟨name, value, trim value, (splitFirst?_singleton_eq_some_iff.mp hcut).1,
      hname ▸ padded_trim name, padded_trim value, hnumeral⟩

/-- A number of 32 bits is read from the numerals of its value. -/
theorem isNumeral_toNat_iff {cs : List Char} {side : UInt32} :
    IsNumeral cs side.toNat ↔ readBounded? (UInt32.size - 1) cs = some side.toNat := by
  rw [readBounded?_eq_some_iff, and_iff_left (Nat.le_sub_one_of_lt side.toNat_lt_size)]

/-- The sides that are read from a part are the ones that the part spells. -/
theorem readSide_eq_ok_iff (colon : ':' ∉ label.toList) (plain : trim label.toList = label.toList)
    {side : UInt32} : readSide label (some part) = .ok side ↔ IsSide label side.toNat part := by
  rw [isSide_iff colon plain]
  simp only [readSide]
  cases hcut : splitFirst? [':'] part with
  | none => simp
  | some cut =>
    obtain ⟨name, value⟩ := cut
    constructor
    · intro h
      dsimp only at h
      split at h
      · cases h
      · rename_i hname
        split at h
        · cases h
        · rename_i m hvalue
          obtain rfl := Except.ok.inj h
          obtain ⟨hnumeral, hle⟩ := readBounded?_eq_some_iff.mp hvalue
          have hm : (UInt32.ofNat m).toNat = m :=
            UInt32.toNat_ofNat_of_lt' (Nat.lt_of_le_sub_one (by decide) hle)
          exact ⟨name, value, rfl, not_not.mp hname, hm.symm ▸ hnumeral⟩
    · rintro ⟨_, _, heq, hname, hnumeral⟩
      cases heq
      simp only [hname, ne_eq, not_true_eq_false, if_false, isNumeral_toNat_iff.mp hnumeral,
        UInt32.ofNat_toNat]

/-- There is no comma in a side. -/
theorem comma_not_mem_of_isSide (comma : ',' ∉ label.toList) (h : IsSide label n part) :
    ',' ∉ part := by
  obtain ⟨name, value, numeral, rfl, hname, hvalue, hnumeral⟩ := h
  have hnumeral' : ',' ∉ numeral := not_mem_of_isNumeral (by decide) (by decide) hnumeral
  rw [List.mem_append, List.mem_cons, not_or, not_or]
  exact ⟨not_mem_of_padded (by decide) hname comma, by decide,
    not_mem_of_padded (by decide) hvalue hnumeral'⟩

end Sides

/-- A side is read from a part that is there and that spells it. -/
theorem exists_of_readSide {label : String} (colon : ':' ∉ label.toList)
    (plain : trim label.toList = label.toList) {part? : Option (List Char)} {side : UInt32}
    (h : readSide label part? = .ok side) :
    ∃ part, part? = some part ∧ IsSide label side.toNat part := by
  cases part? with
  | none => cases h
  | some part => exact ⟨part, rfl, (readSide_eq_ok_iff colon plain).mp h⟩

/-- Two parts are the text with a comma between them. -/
theorem eq_of_splitOn {inner first second : List Char} (hfirst : (inner.splitOn ',')[0]? = some first)
    (hsecond : (inner.splitOn ',')[1]? = some second) (length : (inner.splitOn ',').length ≤ 2) :
    inner = first ++ ',' :: second := by
  have hparts : inner.splitOn ',' = [first, second] := by
    refine List.ext_getElem? fun i => ?_
    match i with
    | 0 => exact hfirst
    | 1 => exact hsecond
    | i + 2 => exact List.getElem?_eq_none (by omega)
  have hjoin : [','].intercalate (inner.splitOn ',') = inner := List.intercalate_splitOn ','
  rw [← hjoin, hparts]
  simp [List.intercalate]

/-- The arguments of an image are its two sides, in parentheses. -/
theorem readImage_eq_ok_iff {rest : List Char} {category : Category} :
    readImage rest = .ok category ↔ ∃ first second width height,
      trim rest = '(' :: (first ++ ',' :: second ++ [')']) ∧ IsSide "width" width.toNat first ∧
        IsSide "height" height.toNat second ∧ category = .image width height := by
  constructor
  · intro h
    unfold readImage at h
    split at h
    · cases h
    · rename_i inner hinner
      obtain ⟨front, hfront, hback⟩ := Option.bind_eq_some_iff.mp hinner
      rw [dropFront?_eq_some_iff] at hfront
      rw [dropBack?_eq_some_iff] at hback
      dsimp only at h
      split at h
      · cases h
      · rename_i width hwidth
        split at h
        · cases h
        · rename_i height hheight
          split at h
          · rename_i hlength
            obtain ⟨first, hfirst, hleft⟩ := exists_of_readSide (by decide) (by decide) hwidth
            obtain ⟨second, hsecond, hright⟩ := exists_of_readSide (by decide) (by decide) hheight
            have heq := eq_of_splitOn hfirst hsecond hlength
            exact ⟨first, second, width, height, by rw [hfront, hback, heq]; rfl, hleft, hright,
              (Except.ok.inj h).symm⟩
          · cases h
  · rintro ⟨first, second, width, height, hrest, hleft, hright, rfl⟩
    have hfront : dropFront? ['('] (trim rest) = some (first ++ ',' :: second ++ [')']) :=
      dropFront?_eq_some_iff.mpr hrest
    have hback : dropBack? [')'] (first ++ ',' :: second ++ [')']) = some (first ++ ',' :: second) :=
      dropBack?_eq_some_iff.mpr rfl
    have hsplit : (first ++ ',' :: second).splitOn ',' = [first, second] := by
      rw [List.splitOn_append_cons_self_of_not_mem (comma_not_mem_of_isSide (by decide) hleft),
        List.splitOn_eq_singleton (comma_not_mem_of_isSide (by decide) hright)]
    rw [readImage, hfront, Option.bind_some, hback]
    simp only [hsplit, List.getElem?_cons_zero, List.getElem?_cons_succ,
      (readSide_eq_ok_iff (by decide) (by decide)).mpr hleft,
      (readSide_eq_ok_iff (by decide) (by decide)).mpr hright, List.length_cons, List.length_nil,
      Nat.reduceAdd, Nat.le_refl, if_true]

/-! ## Tokens -/

/-- The arguments of an image, from the first parenthesis to the last. -/
theorem trim_parentheses (inner : List Char) : trim ('(' :: (inner ++ [')'])) = '(' :: (inner ++ [')']) :=
  trim_between (by decide) (by decide) inner

/-- A spelling has no blanks at its ends. -/
theorem trim_of_spells {cs : List Char} {category : Category} (h : Spells cs category) :
    trim cs = cs := by
  cases h with
  | token plain =>
    revert category
    decide
  | other second => cases category <;> cases second <;> decide
  | @image gap first second _ _ _ _ _ =>
    have hends := @trim_between 'i' ')' (by decide) (by decide)
      ("mage".toList ++ (gap ++ '(' :: (first ++ ',' :: second)))
    simpa using hends

/-- A trimmed text that goes on after its front has no blanks at its end. -/
theorem eq_append_trim {front rest : List Char} (h : trim (front ++ rest) = front ++ rest) :
    ∃ gap, (∀ c ∈ gap, isBlank c = true) ∧ rest = gap ++ trim rest := by
  obtain ⟨gap, back, hgap, hback, hrest⟩ := padded_trim rest
  have hnil : back = [] := by
    rcases back.eq_nil_or_concat with hnil | ⟨_, last, rfl⟩
    · exact hnil
    · have hlast := (trim_eq_self_iff.mp h).2 last (by rw [hrest]; simp)
      exact absurd (hback last (by simp)) (by simp [hlast])
  refine ⟨gap, hgap, ?_⟩
  rwa [hnil, List.append_nil] at hrest

/-- A text that is read spells the category that it is read as. -/
theorem spells_of_read {text : String} {category : Category} (h : read text = .ok category) :
    Spells (trim text.toList) category := by
  have htoken : (trimmed text).toList = trim text.toList := String.toList_ofList
  unfold read at h
  dsimp only at h
  split at h
  · rename_i found hword
    obtain rfl := Except.ok.inj h
    rcases ofWord?_eq_some_iff.mp hword with ⟨hplain, heq⟩ | hsecond
    · exact htoken ▸ heq ▸ .token hplain
    · exact htoken ▸ .other hsecond
  · split at h
    · cases h
    · rename_i rest hfront
      rw [dropFront?_eq_some_iff, htoken] at hfront
      have himage : readImage rest = .ok category := by
        cases hrest : readImage rest with
        | ok found => rw [hrest] at h; exact congrArg _ (Except.ok.inj h)
        | error fault => rw [hrest] at h; cases h
      obtain ⟨first, second, width, height, hrest, hleft, hright, rfl⟩ :=
        readImage_eq_ok_iff.mp himage
      obtain ⟨gap, hgap, heq⟩ := eq_append_trim (hfront ▸ trim_trim text.toList)
      rw [hfront, heq, hrest]
      exact .image hgap hleft hright

/-- Whatever spells a category is read as it. -/
theorem read_of_spells {text : String} {category : Category}
    (h : Spells (trim text.toList) category) : read text = .ok category := by
  have htoken : (trimmed text).toList = trim text.toList := String.toList_ofList
  generalize hcs : trim text.toList = cs at h htoken
  cases h with
  | token plain =>
    have hword : ofWord? (trimmed text) = some category :=
      ofWord?_eq_some_iff.mpr (.inl ⟨plain, String.toList_inj.mp htoken⟩)
    simp only [read, hword]
  | other second =>
    have hword : ofWord? (trimmed text) = some category :=
      ofWord?_eq_some_iff.mpr (.inr (by rw [String.toList_inj.mp htoken, second]))
    simp only [read, hword]
  | @image gap first second width height blank left right =>
    have hword : ofWord? (trimmed text) = none := ofWord?_eq_none (by rw [htoken]; simp)
    have hrest : trim (gap ++ '(' :: (first ++ ',' :: second ++ [')'])) =
        '(' :: (first ++ ',' :: second ++ [')']) := by
      rw [trim, trimFront_append blank]
      exact trim_parentheses _
    have himage := readImage_eq_ok_iff.mpr ⟨first, second, width, height, hrest, left, right, rfl⟩
    simp only [read, hword, htoken, dropFront?_append, himage]
    rfl

/-- A text is read as a category exactly when it is a spelling of the category with blanks around it. In
particular a category is read from its own token, and a token that is read and written again stays
as it is. -/
theorem grammar :
    (∀ text category, read text = .ok category ↔
      ∃ core, Padded core text.toList ∧ Spells core category) ∧
    (∀ category : Category, read category.token = .ok category) ∧
    ∀ text token, (read text).map Category.token = .ok token →
      (read token).map Category.token = .ok token := by
  refine ⟨fun text category => ?_, read_token, fun text token h => ?_⟩
  · constructor
    · intro h
      exact ⟨_, padded_trim _, spells_of_read h⟩
    · rintro ⟨core, hpadded, hspells⟩
      refine read_of_spells ?_
      rwa [trim_eq_iff.mpr ⟨hpadded, trim_of_spells hspells⟩]
  · obtain ⟨category, _, rfl⟩ := map_eq_ok_iff.mp h
    rw [read_token]
    rfl

/-- Signs, zeros in front and blanks are read over. -/
example : read " image ( width\t: +0064 ,height:32)\n" = .ok (.image 64 32) := by decide +kernel

end Category

end Specimen
