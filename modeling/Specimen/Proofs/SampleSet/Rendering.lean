import Specimen.Proofs.Generation.Doubling
import Specimen.Proofs.Source.Rereading
import Specimen.SampleSet.Rendering

/-!
# Blocks next to each other

As long as every block of a file can be read, the file is its blocks one after the other, and what is
written for a sample set does not depend on the sets around it. One block that cannot be read takes this
from all of them, since the whole file is then written as bare tokens: a block that is laid out on its own
is not any more, and blanks stand between the blocks. Only if it is the one block of the file nothing
changes (`SampleSet.rendersApart_iff`).

Behind `impl` a block has what is given back for the path that the name of its type is read as, and a type has
to stand there. The names that are read as paths are read as types, but for those that begin with the word
`try` (`Source.readsAsType_iff`), and what is given back for them is read again (`Grammar.type?_tokens`). So
these names are the ones whose blocks cannot be read (`SampleSet.isReadable_iff`).

Main statement: `Generation.rendering`; in `Generation.attempts` the name of one type changes what is
written for the other.
-/

namespace Specimen

open Source

/-! ## The one-line form of blocks -/

namespace Source.Token

/-- A group stands for itself in the one-line form, since no mark is joint with a bracket. -/
theorem parts_append_group (ts : List Token) (delimiter : Delimiter) (inner us : List Token) :
    parts (ts ++ .group delimiter inner :: us) =
      parts ts ++ groupText delimiter (text inner) :: parts us := by
  fun_induction parts ts with
  | case4 c joint rest hcolons harrow ih =>
    -- a mark that is last in `ts` is not the first of a pair, because a group is no mark
    have hmark : parts (.mark c joint :: (rest ++ .group delimiter inner :: us)) =
        String.singleton c :: parts (rest ++ .group delimiter inner :: us) := by
      cases rest with
      | nil => simp [parts]
      | cons t rest =>
        rw [List.cons_append, parts]
        · simpa using hcolons
        · simpa using harrow
    rw [List.cons_append, hmark, ih, List.cons_append]
  | _ => simp_all [parts, text]

end Source.Token

namespace SampleSet

variable {sets : List SampleSet} {set : SampleSet}

/-- The tokens of a block end with a group. -/
theorem exists_tokens (set : SampleSet) :
    ∃ ts inner, set.tokens = .word "impl" :: ts ++ [.group .brace inner] :=
  ⟨_, _, rfl⟩

/-- Blocks next to each other do not mix. -/
theorem parts_tokens_append (set : SampleSet) (us : List Token) :
    Token.parts (set.tokens ++ us) = Token.parts set.tokens ++ Token.parts us := by
  obtain ⟨ts, inner, htokens⟩ := exists_tokens set
  rw [htokens, List.append_assoc, List.singleton_append, Token.parts_append_group,
    Token.parts_append_group, Token.parts, List.append_assoc, List.singleton_append]

theorem parts_tokens_ne_nil (set : SampleSet) : Token.parts set.tokens ≠ [] := by
  rw [tokens, Token.parts]
  exact List.cons_ne_nil _ _

/-- The blocks of a file of bare tokens stand one after the other. -/
theorem parts_flatMap_tokens (sets : List SampleSet) :
    Token.parts (sets.flatMap tokens) = sets.flatMap fun set => Token.parts set.tokens := by
  induction sets with
  | nil => rw [List.flatMap_nil, Token.parts, List.flatMap_nil]
  | cons set sets ih => rw [List.flatMap_cons, parts_tokens_append, ih, List.flatMap_cons]

/-- The last block of a file of bare tokens stands behind a blank. -/
theorem text_concat (ne : sets ≠ []) (last : SampleSet) :
    Token.text ((sets ++ [last]).flatMap tokens) =
      Token.text (sets.flatMap tokens) ++ " " ++ Token.text last.tokens := by
  have hparts : Token.parts (sets.flatMap tokens) ≠ [] := by
    obtain ⟨first, rest, rfl⟩ := List.exists_cons_of_ne_nil ne
    rw [List.flatMap_cons, parts_tokens_append]
    exact List.append_ne_nil_of_left_ne_nil (parts_tokens_ne_nil first) _
  have hsets : Token.parts ((sets ++ [last]).flatMap tokens) =
      Token.parts (sets.flatMap tokens) ++ Token.parts last.tokens := by
    rw [parts_flatMap_tokens, List.flatMap_append, List.flatMap_singleton, parts_flatMap_tokens]
  rw [Token.text, hsets, String.intercalate_append_of_ne_nil hparts (parts_tokens_ne_nil last)]
  rfl

/-! ## How a block ends -/

/-- A block of bare tokens ends with its brace. -/
theorem getLast?_text_tokens (set : SampleSet) :
    (Token.text set.tokens).toList.getLast? = some '\x7d' := by
  obtain ⟨ts, inner, htokens⟩ := exists_tokens set
  have hgroup : ∀ s, ∃ cs, (Token.groupText .brace s).toList = cs ++ ['\x7d'] := by
    intro s
    rw [Token.groupText]
    split
    · exact ⟨['\x7b', ' '], rfl⟩
    · exact ⟨"\x7b ".toList ++ s.toList ++ [' '], by simp⟩
  obtain ⟨cs, hcs⟩ := hgroup (Token.text inner)
  have hparts : Token.parts (.word "impl" :: ts) ≠ [] := by
    rw [Token.parts]
    exact List.cons_ne_nil _ _
  rw [htokens, Token.text, Token.parts_append_group,
    String.intercalate_append_of_ne_nil hparts (List.cons_ne_nil _ _), Token.parts,
    String.intercalate_singleton, String.toList_append, hcs, ← List.append_assoc,
    List.getLast?_concat]

/-- A block that is laid out ends with a line break. -/
theorem getLast?_block (set : SampleSet) : set.block.toList.getLast? = some '\n' := by
  have hend : "\n    \x7d\n\x7d\n".toList = "\n    \x7d\n\x7d".toList ++ ['\n'] := rfl
  rw [block, String.toList_append, hend, ← List.append_assoc, List.getLast?_concat]

/-- A set on its own is laid out if and only if its block can be read. -/
theorem renderAll_singleton (set : SampleSet) :
    renderAll [set] = if set.isReadable then set.block else Token.text set.tokens := by
  simp [renderAll]

/-- The last character that is written for a set on its own tells whether it is laid out. -/
theorem getLast?_renderAll_singleton (set : SampleSet) :
    (renderAll [set]).toList.getLast? = some (if set.isReadable then '\n' else '\x7d') := by
  rw [renderAll_singleton]
  split
  · exact getLast?_block set
  · exact getLast?_text_tokens set

/-! ## Files of blocks -/

/-- If all blocks can be read, each of them is laid out. -/
theorem renderAll_of_readable (h : ∀ set ∈ sets, set.isReadable = true) :
    renderAll sets = String.join (sets.map block) :=
  if_pos (List.all_eq_true.mpr h)

/-- If one block cannot be read, all of them are written as bare tokens. -/
theorem renderAll_of_unreadable (hset : set ∈ sets) (h : set.isReadable = false) :
    renderAll sets = Token.text (sets.flatMap tokens) := by
  refine if_neg fun hall => ?_
  rw [List.all_eq_true.mp hall set hset] at h
  cases h

/-- What is written for sets is what is written for each of them on its own, one after the other. -/
def RendersApart (sets : List SampleSet) : Prop :=
  renderAll sets = String.join (sets.map fun set => renderAll [set])

/-- Blocks that can all be read do not depend on each other. -/
theorem rendersApart_of_readable (h : ∀ set ∈ sets, set.isReadable = true) :
    RendersApart sets := by
  have hblock : ∀ set ∈ sets, renderAll [set] = set.block := by
    intro set hset
    rw [renderAll_singleton, if_pos (h set hset)]
  rw [RendersApart, renderAll_of_readable h, List.map_congr_left hblock]

theorem rendersApart_singleton (set : SampleSet) : RendersApart [set] := by
  rw [RendersApart, List.map_singleton, String.join_cons, String.join_nil, String.append_empty]

/-- What is written for sets one by one ends with what is written for the last. -/
theorem join_concat (sets : List SampleSet) (last : SampleSet) :
    String.join ((sets ++ [last]).map fun set => renderAll [set]) =
      String.join (sets.map fun set => renderAll [set]) ++ renderAll [last] := by
  rw [List.map_append, String.join_append, List.map_singleton, String.join_cons, String.join_nil,
    String.append_empty]

/-- What is written for sets one by one does not end with a blank. -/
theorem getLast?_join (ne : sets ≠ []) :
    (String.join (sets.map fun set => renderAll [set])).toList.getLast? ≠ some ' ' := by
  obtain ⟨init, last, rfl⟩ := (List.eq_nil_or_concat' sets).resolve_left ne
  rw [join_concat, String.toList_append, List.getLast?_append, getLast?_renderAll_singleton,
    Option.some_or]
  split <;> decide

/-- In a file of bare tokens with several blocks the last one either is laid out on its own, or it stands
behind a blank, which the blocks before it do not end with. -/
theorem not_rendersApart (ne : sets ≠ []) {last : SampleSet} (hset : set ∈ sets ++ [last])
    (h : set.isReadable = false) : ¬ RendersApart (sets ++ [last]) := by
  intro hapart
  rw [RendersApart, renderAll_of_unreadable hset h, text_concat ne, join_concat] at hapart
  cases hlast : last.isReadable with
  | true =>
    have hends := congrArg (fun s => s.toList.getLast?) hapart
    simp only [String.toList_append, List.getLast?_append, getLast?_text_tokens,
      getLast?_renderAll_singleton, hlast, Option.some_or] at hends
    exact absurd hends (by decide)
  | false =>
    rw [renderAll_singleton, hlast, if_neg Bool.false_ne_true, ← String.toList_inj,
      String.toList_append, String.toList_append, String.toList_append] at hapart
    have hblank := List.append_cancel_right hapart
    refine getLast?_join ne ?_
    rw [← hblank]
    exact List.getLast?_concat

/-- What is written for sets is what is written for each of them, if all blocks can be read or there is no
more than one, and not otherwise. -/
theorem rendersApart_iff (sets : List SampleSet) :
    RendersApart sets ↔ sets.length ≤ 1 ∨ ∀ set ∈ sets, set.isReadable = true := by
  constructor
  · intro hapart
    rcases List.eq_nil_or_concat' sets with rfl | ⟨init, last, rfl⟩
    · exact .inl (Nat.zero_le 1)
    · rcases eq_or_ne init [] with rfl | ne
      · exact .inl le_rfl
      · refine .inr fun set hset => ?_
        by_contra hunreadable
        exact not_rendersApart ne hset (Bool.eq_false_iff.mpr hunreadable) hapart
  · rintro (hlength | hreadable)
    · rcases sets with _ | ⟨set, _ | ⟨other, rest⟩⟩
      · exact rendersApart_of_readable fun set hset => absurd hset List.not_mem_nil
      · exact rendersApart_singleton set
      · rw [List.length_cons, List.length_cons] at hlength
        omega
    · exact rendersApart_of_readable hreadable

end SampleSet

/-! ## Paths that are no types -/

namespace Source

open Grammar

variable {constant : Constant} {n : Nat} {word : String} {ts rest : List Token}

/-- Tokens are read as a type, with some number of steps. -/
def ReadsAsType (ts : List Token) : Prop :=
  ∃ n type, Grammar.type? Constant.isConstant n true ts = some (type, [])

/-- No type begins with the word `try`. -/
theorem not_readsAsType_try (ts : List Token) : ¬ ReadsAsType (.word "try" :: ts) := by
  rintro ⟨n, type, h⟩
  cases n with
  | zero => cases h
  | succ n =>
    have hstart : startsPath "try" = false := by decide
    simp [Grammar.type?, hstart] at h

/-- The word `try` is the only step that may not begin a path in a type. -/
theorem startsPath_of_isStep (h : isStep word = true) (ne : word ≠ "try") :
    startsPath word = true := by
  simp only [isStep, startsPath, Bool.or_eq_true, beq_iff_eq] at h ⊢
  tauto

/-- Tokens that are read as a path begin as one may in a type, unless they begin with the word `try`. -/
theorem begins_of_ne_try {path : Path} (h : Grammar.path? constant n ts = some (path, rest))
    (ne : ∀ more, ts ≠ .word "try" :: more) : Begins ts := by
  rcases begins_of_path? h with ⟨_, joint, more, rfl⟩ | ⟨_, word, more, rfl, hstep, _⟩
  · exact .colons
  · exact .word (startsPath_of_isStep hstep fun heq => ne more (by rw [heq]))

/-- A path that begins as one may in a type is a type. -/
theorem type?_of_path? {path : Path} (begins : Begins ts)
    (h : Grammar.path? constant n ts = some (path, [])) :
    Grammar.type? constant (n + 2) true ts = some (.path path.leading path.segments, []) :=
  (type?_of_begins begins true).trans (pathType?_of_path? true h .nil)

/-- Tokens that are read as a path are read as a type, unless they begin with the word `try`. -/
theorem readsAsType_iff {path : Path}
    (h : Grammar.path? Constant.isConstant n ts = some (path, [])) :
    ReadsAsType ts ↔ ∀ more, ts ≠ .word "try" :: more := by
  refine ⟨?_, fun hne => ⟨_, _, type?_of_path? (begins_of_ne_try h hne) h⟩⟩
  rintro htype more rfl
  exact not_readsAsType_try more htype

end Source

/-- The block of a type can be read if and only if the name of the type does not begin with the word `try`.
What stands in the block is not the name, but what is given back for it; this begins with the same word, and
is read again as the type that the name is read as. -/
theorem SampleSet.isReadable_iff {set : SampleSet} {n : Nat} {ts : List Token}
    (h : Grammar.path? Constant.isConstant n ts = some (set.typePath, [])) :
    set.isReadable = true ↔ ∀ more, ts ≠ .word "try" :: more := by
  constructor
  · rintro hreadable more rfl
    unfold isReadable at hreadable
    split at hreadable
    · rename_i hread
      obtain ⟨us, htokens⟩ := List.head?_eq_some_iff.mp (Grammar.head_of_path? h).1
      rw [htokens] at hread
      exact not_readsAsType_try us ⟨_, _, hread⟩
    · cases hreadable
  · intro hne
    obtain ⟨type, hread, -⟩ := Grammar.type?_tokens (type?_of_path? (begins_of_ne_try h hne) h) le_rfl
    have htokens : (TypeSyntax.path set.typePath.leading set.typePath.segments).tokens =
        set.typePath.tokens := rfl
    rw [htokens] at hread
    unfold isReadable
    simp only [hread]

/-! ## Files of a run -/

namespace Generation

variable {schema : Schema} {targets : Targets} {identifiers : Identifiers} {set : SampleSet}

/-- The path of a sample set is read from the tokens of its name. -/
theorem exists_tokens_of_mem (h : set ∈ (run schema targets identifiers).sets) :
    ∃ ts, Token.lex? set.typeName.toList = some ts ∧
      ∃ n, Grammar.path? Constant.isConstant n ts = some (set.typePath, []) := by
  obtain ⟨d, _, hname, hread, _⟩ := exists_origin h
  rw [← hname] at hread
  unfold path? at hread
  split at hread
  · cases hread
  · rename_i ts hlex
    split at hread
    · rename_i path hpath
      cases hread
      exact ⟨ts, hlex, _, hpath⟩
    · cases hread

/-- A file is a header, an empty line and what is written for the sets. This is what is written for each of
them on its own if and only if there is at most one, or all blocks can be read. A block of a run can be read
if and only if the name of its type is read as a type, so exactly if the name does not begin with the word
`try`. -/
theorem rendering (sets : List SampleSet) :
    SampleSet.file sets = SampleSet.header ++ "\n\n" ++ SampleSet.renderAll sets ∧
    (SampleSet.RendersApart sets ↔ sets.length ≤ 1 ∨ ∀ set ∈ sets, set.isReadable = true) ∧
    ∀ schema targets identifiers, ∀ set ∈ (run schema targets identifiers).sets,
      ∃ ts, Token.lex? set.typeName.toList = some ts ∧
        (set.isReadable = true ↔ ReadsAsType ts) ∧
        (ReadsAsType ts ↔ ∀ more, ts ≠ .word "try" :: more) := by
  refine ⟨rfl, SampleSet.rendersApart_iff sets, fun schema targets identifiers set hset => ?_⟩
  obtain ⟨ts, hlex, n, hpath⟩ := exists_tokens_of_mem hset
  have htype := readsAsType_iff hpath
  exact ⟨ts, hlex, (SampleSet.isReadable_iff hpath).trans htype.symm, htype⟩

/-- Two structs, of which one is named `try`. -/
def attempts : Schema where
  types := [Declaration.ofKind "Attempt" .struct 1, Declaration.ofKind "try" .struct 1]
  distinct := by decide

/-- The block of the second cannot be read, so its name is no type. -/
theorem rendering_attempts :
    ∃ set ∈ (run attempts .standard {}).sets, set.typeName = "try" ∧ set.isReadable = false ∧
      ∃ ts, Token.lex? set.typeName.toList = some ts ∧ ¬ ReadsAsType ts := by
  obtain ⟨set, hset, hname, hunreadable⟩ :
      ∃ set ∈ (run attempts .standard {}).sets, set.typeName = "try" ∧ set.isReadable = false := by
    decide +kernel
  obtain ⟨ts, hlex, hreadable, _⟩ :=
    (rendering (run attempts .standard {}).sets).2.2 attempts .standard {} set hset
  refine ⟨set, hset, hname, hunreadable, ts, hlex, fun htype => ?_⟩
  rw [hreadable.mpr htype] at hunreadable
  cases hunreadable

/-- Both get a sample set. The block of the first is laid out on its own, and the file is not what is
written for each of them. -/
theorem rendering_unlaid : Schema.ofTypes attempts.types = .ok attempts ∧
    (∃ set ∈ (run attempts .standard {}).sets, set.typeName = "Attempt" ∧
      SampleSet.renderAll [set] = set.block) ∧
    ¬ SampleSet.RendersApart (run attempts .standard {}).sets := by
  have hschema : Schema.ofTypes attempts.types = .ok attempts := by
    rw [Schema.ofTypes, Schema.ofParts, dif_pos attempts.distinct]
    rfl
  obtain ⟨set, hset, hname, hreadable⟩ :
      ∃ set ∈ (run attempts .standard {}).sets, set.typeName = "Attempt" ∧ set.isReadable = true := by
    decide +kernel
  have hlength : ¬ (run attempts .standard {}).sets.length ≤ 1 := by decide +kernel
  have hunreadable : ¬ ∀ set ∈ (run attempts .standard {}).sets, set.isReadable = true := by
    decide +kernel
  refine ⟨hschema, ⟨set, hset, hname, ?_⟩, ?_⟩
  · rw [SampleSet.renderAll_singleton, if_pos hreadable]
  · rw [SampleSet.rendersApart_iff]
    exact not_or_intro hlength hunreadable

end Generation

end Specimen
