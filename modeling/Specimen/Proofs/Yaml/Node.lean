import Mathlib.Tactic.SplitIfs
import Specimen.Yaml.Node.Value

/-!
# Texts of nodes

A node can be asked for its text, whatever the text stands for, or for its value. The two agree where the
value is a text, with a tag or without one: it is the text of the node (`Node.text?_of_valueWithin?`). So
nothing that is a text can be missed by asking for the text.
-/

namespace Specimen.Yaml

variable {value : Value} {s text : String}

namespace Value

/-- A value behind a tag is the text that it is without the tag. -/
theorem exists_of_behindTag? {tag : String} {bare? : Option Value}
    (h : behindTag? tag bare? = some value) :
    ∃ bare, bare? = some bare ∧ value.text? = bare.text? := by
  rw [behindTag?] at h
  split at h
  · cases h
  · obtain ⟨bare, hbare, rfl⟩ := Option.map_eq_some_iff.mp h
    exact ⟨bare, hbare, by simp [text?, untagged]⟩

/-- A plain scalar that stands for a text stands for its own. -/
theorem eq_of_text?_ofPlain? (h : ofPlain? text = some value) (hs : value.text? = some s) : text = s := by
  unfold ofPlain? at h
  cases hmeaning : Plain.meaning text with rw [hmeaning] at h
  | text =>
    cases h
    rwa [text?_text, Option.some.injEq] at hs
  | integer n =>
    dsimp only at h
    split at h
    · cases h; cases hs
    · cases h
  | null | bool b | real => cases h; cases hs

theorem eq_of_text?_ofTagged? {tag : String} (h : ofTagged? tag text = some value)
    (hs : value.text? = some s) : text = s := by
  have notText : ∀ {α : Type} {found? : Option α} {make : α → Value}, found?.map make = some value →
      (∀ a, (make a).text? = none) → text = s := by
    intro α found? make hmake hnone
    obtain ⟨a, _, rfl⟩ := Option.map_eq_some_iff.mp hmake
    cases (hnone a).symm.trans hs
  dsimp only [ofTagged?] at h
  split_ifs at h
  · exact notText h fun _ => rfl
  · exact notText h fun _ => rfl
  · cases h; cases hs
  · cases h; cases hs
  · cases h
    rwa [text?_text, Option.some.injEq] at hs

end Value

namespace Node

/-- A value that stands behind a local tag, if there is one, has the text that it has without it. -/
theorem exists_of_localTag? {tag : Option String} {bare? : Option Value}
    (h : (match localTag? tag with
      | some name => Value.behindTag? name bare?
      | none => bare?) = some value) :
    ∃ bare, bare? = some bare ∧ value.text? = bare.text? := by
  split at h
  · exact Value.exists_of_behindTag? h
  · exact ⟨value, h, rfl⟩

/-- If the value of a node is a text, it is the text of the node. -/
theorem text?_of_valueWithin? {depth : Nat} {node : Node} (h : node.valueWithin? depth = some value)
    (hs : value.text? = some s) : node.text? = some s := by
  cases node with
  | scalar form tag text =>
    have hbare : ∀ bare, (if form = .plain then Value.ofPlain? text else some (.text text)) = some bare →
        bare.text? = some s → text = s := by
      intro bare hbare hs
      split at hbare
      · exact Value.eq_of_text?_ofPlain? hbare hs
      · cases hbare
        rwa [Value.text?_text, Option.some.injEq] at hs
    refine congrArg some ?_
    unfold valueWithin? at h
    generalize (if form = .plain then Value.ofPlain? text else some (.text text)) = bare? at h hbare
    split at h
    · obtain ⟨bare, hfound, heq⟩ := Value.exists_of_behindTag? h
      exact hbare bare hfound (heq ▸ hs)
    · exact Value.eq_of_text?_ofTagged? h hs
    · exact hbare value h hs
  -- neither a list nor a table is a text
  | list tag items =>
    rw [valueWithin?] at h
    obtain ⟨bare, hbare, heq⟩ := exists_of_localTag? h
    split at hbare
    · cases hbare
    · obtain ⟨_, _, rfl⟩ := Option.map_eq_some_iff.mp hbare
      cases heq.symm.trans hs
  | table tag entries =>
    rw [valueWithin?] at h
    obtain ⟨bare, hbare, heq⟩ := exists_of_localTag? h
    split at hbare
    · cases hbare
    · obtain ⟨_, _, rfl⟩ := Option.map_eq_some_iff.mp hbare
      cases heq.symm.trans hs
  | «alias» number => cases h

end Node

end Specimen.Yaml
