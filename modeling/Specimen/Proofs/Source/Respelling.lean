import Specimen.Proofs.Source.Joint
import Specimen.Proofs.Source.PathText

/-!
# Texts that spell one path

Two texts spell the same path if the paths that are read from them have the same tokens (`SamePath`).
Blanks and comments between tokens are dropped, so there are many texts of each path.

For a path of plain names that is all: a text spells it exactly when it is cut into the tokens of the
path (`samePath_iff_lex?_eq`), and of all these texts one is the text of the path (`eq_of_samePath`). Two
more choices are conceivable and excluded. A reader takes the second colon of a `::` whether it is joint
or not, but it never is (`Grammar.eq_of_colons`). And a path may have arguments, but their brackets are
among its tokens (`eq_of_tokens_eq`).
-/

namespace Specimen.Source

open Specimen.Text

/-! ## Reading plain names -/

namespace Grammar

variable {constant : Constant} {ts rest : List Token} {names : List String}

/-- Two marks that are passed over stand in front. -/
theorem eq_of_afterMarks? {c d : Char} (h : afterMarks? c d ts = some rest) :
    ∃ joint, ts = .mark c true :: .mark d joint :: rest := by
  unfold afterMarks? at h
  split at h
  · split at h
    · rename_i hmarks
      obtain ⟨rfl, rfl⟩ := hmarks
      cases h
      exact ⟨_, rfl⟩
    · cases h
  · cases h

/-- A plain step is read from its name alone. -/
theorem eq_of_segment?_plain {n : Nat} {name : String}
    (h : segment? constant n ts = some (.mk name .none, rest)) : ts = .word name :: rest := by
  obtain ⟨more, rfl, hrest⟩ := exists_of_segment? h
  rw [hrest rfl]
  rfl

/-- Steps begin with a word. -/
theorem exists_of_segments? {n : Nat} {segments : List Segment}
    (h : segments? constant n ts = some (segments, rest)) : ∃ word more, ts = .word word :: more := by
  unfold segments? at h
  split at h
  · cases h
  · split at h
    · cases h
    · rename_i segment _ hsegment
      obtain ⟨more, hts, _⟩ := exists_of_segment? hsegment
      exact ⟨segment.name, more, hts⟩

/-- The second colon in front of steps is not joint. -/
theorem eq_of_colons {n : Nat} {segments : List Segment} {after : List Token}
    (colons : afterMarks? ':' ':' ts = some after)
    (h : segments? constant n after = some (segments, rest)) (chain : ts.IsChain Token.Precedes) :
    ts = Token.colons ++ after ∧ after.IsChain Token.Precedes := by
  obtain ⟨joint, rfl⟩ := eq_of_afterMarks? colons
  obtain ⟨word, more, rfl⟩ := exists_of_segments? h
  rw [List.isChain_cons_cons, List.isChain_cons_cons] at chain
  obtain ⟨_, hword, chain⟩ := chain
  cases joint with
  | false => exact ⟨rfl, chain⟩
  | true => exact hword.elim

/-- Plain steps that fill a text are read from their own tokens. -/
theorem eq_of_segments?_plain {n : Nat} (h : segments? constant n ts = some (plain names, []))
    (chain : ts.IsChain Token.Precedes) : ts = segmentsTokens (plain names) := by
  induction n generalizing names ts with
  | zero => cases h
  | succ n ih =>
    unfold segments? at h
    split at h
    · cases h
    · rename_i segment rest hsegment
      split at h
      · -- the last step
        obtain ⟨hplain, rfl⟩ := Prod.mk.inj (Option.some.inj h)
        obtain ⟨name, rfl, rfl⟩ := List.map_eq_singleton_iff.mp hplain.symm
        exact eq_of_segment?_plain hsegment
      · rename_i after hafter
        split at h
        · -- something is left behind the step
          obtain ⟨_, rfl⟩ := Prod.mk.inj (Option.some.inj h)
          cases hafter
        · obtain ⟨⟨more, rest'⟩, hmore, heq⟩ := Option.map_eq_some_iff.mp h
          obtain ⟨hplain, rfl⟩ := Prod.mk.inj heq
          obtain ⟨name, names, rfl, rfl, rfl⟩ := List.map_eq_cons_iff.mp hplain.symm
          obtain rfl := eq_of_segment?_plain hsegment
          obtain ⟨rfl, hchain⟩ := eq_of_colons hafter hmore (List.isChain_cons.mp chain).2
          have hrest := ih hmore hchain
          cases names with
          | nil =>
            obtain ⟨word, ts, hword⟩ := exists_of_segments? hmore
            cases hword.symm.trans hrest
          | cons other names =>
            rw [hrest, segmentsTokens_plain_cons]
            rfl

/-- A path of plain names that fills a text is read from its own tokens. -/
theorem eq_of_path?_plain {n : Nat} {leading : Bool}
    (h : path? constant n ts = some (⟨leading, plain names⟩, []))
    (chain : ts.IsChain Token.Precedes) : ts = Path.tokens ⟨leading, plain names⟩ := by
  unfold path? at h
  split at h
  · cases h
  · split at h
    · rename_i rest hafter
      obtain ⟨⟨steps, rest'⟩, hsteps, heq⟩ := Option.map_eq_some_iff.mp h
      obtain ⟨hpath, rfl⟩ := Prod.mk.inj heq
      obtain ⟨rfl, rfl⟩ := Path.mk.inj hpath
      obtain ⟨rfl, hchain⟩ := eq_of_colons hafter hsteps chain
      rw [eq_of_segments?_plain hsteps hchain]
      rfl
    · obtain ⟨⟨steps, rest'⟩, hsteps, heq⟩ := Option.map_eq_some_iff.mp h
      obtain ⟨hpath, rfl⟩ := Prod.mk.inj heq
      obtain ⟨rfl, rfl⟩ := Path.mk.inj hpath
      exact eq_of_segments?_plain hsteps chain

end Grammar

/-! ## Paths with the same tokens -/

variable {names : List String}

/-- The tokens of steps that stand behind another step. -/
def furtherTokens (segments : List Segment) : List Token :=
  if (segmentsTokens segments).isEmpty then [] else Token.colons ++ segmentsTokens segments

/-- The tokens of a path are its first step and the further ones. -/
theorem segmentsTokens_cons (name : String) (arguments : Arguments) (segments : List Segment) :
    segmentsTokens (.mk name arguments :: segments) =
      .word name :: (arguments.tokens ++ furtherTokens segments) := by
  rcases segments with _ | ⟨⟨name', arguments'⟩, _ | ⟨segment, segments⟩⟩ <;>
    simp [segmentsTokens, Segment.tokens, furtherTokens]

/-- Further steps stand behind `::`, each with its arguments. -/
theorem furtherTokens_cons (name : String) (arguments : Arguments) (segments : List Segment) :
    furtherTokens (.mk name arguments :: segments) =
      Token.colons ++ .word name :: (arguments.tokens ++ furtherTokens segments) := by
  rw [furtherTokens, segmentsTokens_cons, List.isEmpty_cons, if_neg Bool.false_ne_true]

/-- No bracket stands where a plain step ends, and none behind the `::` there. -/
theorem eq_none_of_furtherTokens {arguments : Arguments} {segments : List Segment}
    (h : arguments.tokens ++ furtherTokens segments = furtherTokens (plain names)) :
    arguments = .none := by
  cases arguments with
  | none => rfl
  | angled colons items trailing =>
    rcases names with _ | ⟨name, names⟩
    · cases colons <;> cases h
    · rw [plain, List.map_cons, furtherTokens_cons] at h
      cases colons <;> cases h

/-- Steps with the tokens of plain steps are these. -/
theorem eq_of_furtherTokens_eq {segments : List Segment}
    (h : furtherTokens segments = furtherTokens (plain names)) : segments = plain names := by
  induction names generalizing segments with
  | nil =>
    rcases segments with _ | ⟨⟨name, arguments⟩, segments⟩
    · rfl
    · cases (furtherTokens_cons name arguments segments).symm.trans h
  | cons name names ih =>
    rcases segments with _ | ⟨⟨name', arguments⟩, segments⟩
    · cases h.trans (furtherTokens_cons name .none (plain names))
    · have hcons := (furtherTokens_cons name' arguments segments).symm.trans
        (h.trans (furtherTokens_cons name .none (plain names)))
      obtain ⟨hname, htail⟩ := List.cons.inj (List.append_cancel_left hcons)
      obtain rfl := Token.word.inj hname
      obtain rfl := eq_none_of_furtherTokens htail
      obtain rfl := ih htail
      rfl

/-- Steps do not begin with `::`. -/
theorem segmentsTokens_ne_colons (segments : List Segment) (ts : List Token) :
    segmentsTokens segments ≠ Token.colons ++ ts := by
  intro h
  rcases segments with _ | ⟨⟨name, arguments⟩, segments⟩
  · cases h
  · cases (segmentsTokens_cons name arguments segments).symm.trans h

/-- A path with the tokens of a path of plain names is this path. -/
theorem eq_of_tokens_eq {path : Path} {leading : Bool}
    (h : path.tokens = Path.tokens ⟨leading, plain names⟩) : path = ⟨leading, plain names⟩ := by
  obtain ⟨leading', segments⟩ := path
  have hleading : leading' = leading := by
    cases leading' <;> cases leading
    · rfl
    · exact absurd h (segmentsTokens_ne_colons segments _)
    · exact absurd h.symm (segmentsTokens_ne_colons (plain names) _)
    · rfl
  obtain rfl := hleading
  have hsegments := List.append_cancel_left h
  obtain rfl : segments = plain names :=
    eq_of_furtherTokens_eq (by rw [furtherTokens, hsegments, furtherTokens])
  rfl

/-! ## Spelling -/

/-- Two texts spell the same path: they are read as paths with the same tokens. -/
def SamePath (text text' : String) : Prop :=
  ∃ path path', path? text = some path ∧ path? text' = some path' ∧ path.tokens = path'.tokens

/-- A path of plain names is read from texts that are cut into its tokens. -/
theorem lex?_eq_of_path? {text : String} {leading : Bool}
    (h : path? text = some ⟨leading, plain names⟩) :
    Token.lex? text.toList = some (Path.tokens ⟨leading, plain names⟩) := by
  unfold path? at h
  split at h
  · cases h
  · rename_i tokens hlex
    split at h
    · rename_i hpath
      cases h
      rw [hlex, Grammar.eq_of_path?_plain hpath (Token.isChain_of_lex? hlex)]
    · cases h

/-- A text spells the same path as one that is read as plain names exactly when both are cut into the
same tokens. -/
theorem samePath_iff_lex?_eq {text text' : String} {leading : Bool}
    (h : path? text = some ⟨leading, plain names⟩) :
    SamePath text text' ↔ Token.lex? text.toList = Token.lex? text'.toList := by
  constructor
  · rintro ⟨path, path', hpath, hpath', htokens⟩
    obtain rfl := Option.some.inj (h.symm.trans hpath)
    obtain rfl := eq_of_tokens_eq htokens.symm
    rw [lex?_eq_of_path? hpath, lex?_eq_of_path? hpath']
  · intro hlex
    refine ⟨_, _, h, ?_, rfl⟩
    rw [← h, path?, path?, hlex]

/-- The texts of different paths of plain names do not spell the same path. -/
theorem eq_of_samePath {text text' : String} (htext : IsPathText text) (htext' : IsPathText text')
    (h : SamePath text text') : text = text' := by
  obtain ⟨leading, names, ne, hnames, rfl⟩ := htext
  obtain ⟨leading', names', ne', hnames', rfl⟩ := htext'
  obtain ⟨path, path', hpath, hpath', htokens⟩ := h
  obtain rfl := Option.some.inj ((path?_pathText leading ne hnames).symm.trans hpath)
  obtain rfl := Option.some.inj ((path?_pathText leading' ne' hnames').symm.trans hpath')
  obtain ⟨rfl, hplain⟩ := Path.mk.inj (eq_of_tokens_eq htokens)
  rw [hplain]

/-- A blank behind the text of a path of plain names is dropped. -/
theorem samePath_blank {text : String} (h : IsPathText text) : SamePath text (text ++ " ") := by
  obtain ⟨leading, names, ne, hnames, rfl⟩ := h
  have hlexes := lexes_pathText leading ne hnames lexes_nil.blank
    (ends_cons (by decide) (by decide) (by decide) (by decide))
  rw [List.append_nil] at hlexes
  obtain ⟨c, cs, htext, hc⟩ := exists_start_pathText leading ne hnames
  have horder : ∀ c ∈ ((pathText leading (plain names)).toList ++ [' ']).head?, c.toNat ≠ 0xFEFF := by
    rw [htext]
    simpa using toNat_ne_of_start hc
  rw [samePath_iff_lex?_eq (path?_pathText leading ne hnames), lex?_pathText leading ne hnames,
    String.toList_append]
  exact (lex?_of_lexes hlexes horder).symm

end Specimen.Source
