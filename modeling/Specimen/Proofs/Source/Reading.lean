import Specimen.Proofs.Source.Token
import Specimen.Proofs.Source.TypeForm

/-!
# The names in what is read

Readers take names from the tokens that they read and make none up. What holds of all words among the
tokens so holds of all names of the paths in a type that is read from them, and of all words that are
left behind it. Every path there begins as the paths of types do (`Headed`), since the readers of
types go on to a path only where one may begin (`Begins`).

The readers refer to one another, with a number of steps that goes down. `Keeps` says for all of them
at a number of steps that they keep to this; it holds for no steps and carries over to one more step
reader by reader (`AllKeep.succ`).
-/

namespace Specimen.Source

open Token

variable {P : String → Prop}

/-- Whether a word may be a step of a path. -/
def isStep (word : String) : Bool :=
  word == "super" || word == "self" || word == "crate" || word == "try" || isIdentifier word ||
    word == "Self"

/-- A path begins with `::`, or with a name that may begin one. -/
def Headed (leading : Bool) (names : List String) : Prop :=
  leading = true ∨ ∃ name ∈ names.head?, Grammar.startsPath name = true

/-! ## Names in types -/

mutual

/-- All names of the paths in a type may be names of steps, and something holds of them. The paths
begin as they may. -/
def TypeSyntax.Named (P : String → Prop) : TypeSyntax → Prop
  | .path leading segments =>
    segments ≠ [] ∧ segmentsNamed P segments ∧ Headed leading (segments.map Segment.name)
  | .paren inner => inner.Named P
  | .other _ => True

/-- The same of the steps of a path. -/
def segmentsNamed (P : String → Prop) : List Segment → Prop
  | [] => True
  | segment :: rest => segment.Named P ∧ segmentsNamed P rest

/-- The same of a step. -/
def Segment.Named (P : String → Prop) : Segment → Prop
  | .mk name arguments => (P name ∧ isStep name = true) ∧ arguments.Named P

/-- The same of what follows the name of a step. -/
def Arguments.Named (P : String → Prop) : Arguments → Prop
  | .none => True
  | .angled _ items _ => itemsNamed P items

/-- The same of arguments in angle brackets. -/
def itemsNamed (P : String → Prop) : List Argument → Prop
  | [] => True
  | item :: rest => item.Named P ∧ itemsNamed P rest

/-- The same of one argument. -/
def Argument.Named (P : String → Prop) : Argument → Prop
  | .type type => type.Named P
  | .lifetime _ => True
  | .other _ => True

end

namespace Grammar

/-! ## Single tokens -/

variable {ts rest : List Token}

/-- What is behind a mark is among the tokens. -/
theorem every_of_afterMark? {c : Char} (h : afterMark? c ts = some rest) (hts : Every P ts) :
    Every P rest := by
  unfold afterMark? at h
  split at h
  · split at h
    · cases h
      simpa using hts
    · cases h
  · cases h

theorem every_of_afterMarks? {c d : Char} (h : afterMarks? c d ts = some rest) (hts : Every P ts) :
    Every P rest := by
  unfold afterMarks? at h
  split at h
  · split at h
    · cases h
      simpa using hts
    · cases h
  · cases h

/-- What is behind a mark that may be missing is among the tokens. -/
theorem every_optionalMark (c : Char) (hts : Every P ts) : Every P (optionalMark c ts).2 := by
  unfold optionalMark
  split
  · rename_i h
    exact every_of_afterMark? h hts
  · exact hts

theorem every_optionalWord {word : String} (hts : Every P ts) : Every P (optionalWord word ts).2 := by
  unfold optionalWord
  split
  · exact every_drop hts
  · exact hts

/-- What is behind a literal is among the tokens. -/
theorem every_of_literal? {inner : List Token} (h : literal? ts = some (inner, rest))
    (hts : Every P ts) : Every P rest := by
  unfold literal? at h
  split at h
  · cases h
    simpa using hts
  · cases h
    exact (every_word.mp hts).2
  · cases h
    exact (every_word.mp hts).2
  · split at h
    · cases h
      simpa using hts
    · cases h
  · cases h

/-- A reader leaves tokens of which something holds behind it, if it holds of those before it, and what
it reads is as it should be. -/
def Keeps {α : Type} (P : String → Prop) (Q : α → Prop) (reader : Reader α) : Prop :=
  ∀ ts a rest, reader ts = some (a, rest) → Every P ts → Every P rest ∧ Q a

/-- What a reader leaves behind does not depend on what is made of what it reads. -/
theorem Keeps.of_map {α β : Type} {Q : α → Prop} {reader : Reader α} (h : Keeps P Q reader)
    {f : α × List Token → β × List Token} {b : β} (hmap : (reader ts).map f = some (b, rest))
    (hts : Every P ts) (leaves : ∀ x, (f x).2 = x.2) :
    Every P rest ∧ ∃ a, Q a ∧ (f (a, rest)).1 = b := by
  obtain ⟨⟨a, rest'⟩, hread, heq⟩ := Option.map_eq_some_iff.mp hmap
  have hrest := leaves (a, rest')
  rw [heq] at hrest
  obtain rfl : rest = rest' := hrest
  obtain ⟨hevery, ha⟩ := h _ _ _ hread hts
  exact ⟨hevery, a, ha, congrArg Prod.fst heq⟩

theorem keeps_lifetimes? : Keeps P (fun _ => True) lifetimes? := by
  intro ts a rest h hts
  fun_induction lifetimes? ts generalizing a rest with
  | case1 =>
    cases h
    exact ⟨by simpa using hts, trivial⟩
  | case2 =>
    cases h
    exact ⟨by simpa using hts, trivial⟩
  | case3 _ _ _ ih =>
    obtain ⟨⟨inner, rest'⟩, hread, heq⟩ := Option.map_eq_some_iff.mp h
    cases heq
    exact ⟨(ih _ _ hread (by simpa using hts)).1, trivial⟩
  | case4 => cases h

/-- A binder keeps what holds of words. -/
theorem keeps_binder? : Keeps P (fun _ => True) binder? := by
  intro ts a rest h hts
  unfold binder? at h
  split at h
  · have hinner := keeps_lifetimes?.of_map h (by simpa using (every_word.mp hts).2) fun _ => rfl
    exact ⟨hinner.1, trivial⟩
  · cases h
  · cases h
    exact ⟨hts, trivial⟩

theorem keeps_captured? : Keeps P (fun _ => True) captured? := by
  intro ts a rest h hts
  fun_induction captured? ts generalizing a rest with
  | case1 =>
    cases h
    exact ⟨by simpa using hts, trivial⟩
  | case2 =>
    cases h
    exact ⟨by simpa using (every_cons.mp hts).2, trivial⟩
  | case3 _ _ _ _ ih =>
    obtain ⟨⟨inner, rest'⟩, hread, heq⟩ := Option.map_eq_some_iff.mp h
    cases heq
    exact ⟨(ih _ _ hread (by simpa using (every_cons.mp hts).2)).1, trivial⟩
  | case4 => cases h

/-- What is behind the linkage of a function is among the tokens. -/
theorem every_linkage (hts : Every P ts) : Every P (linkage ts).2 := by
  unfold linkage
  split
  · split
    · simpa using (every_word.mp hts).2
    · exact (every_word.mp hts).2
  · exact (every_word.mp hts).2
  · exact hts

/-! ## Beginnings of paths -/

/-- A step is read from its name, and from nothing else if it is plain. -/
theorem exists_of_segment? {constant : Constant} {n : Nat} {segment : Segment}
    (h : segment? constant n ts = some (segment, rest)) :
    ∃ more, ts = .word segment.name :: more ∧ (segment.arguments = .none → rest = more) := by
  unfold segment? at h
  split at h
  · cases h
  · split at h
    · cases h
      exact ⟨_, rfl, fun _ => rfl⟩
    · split at h
      · split at h
        · obtain ⟨_, _, heq⟩ := Option.map_eq_some_iff.mp h
          cases heq
          exact ⟨_, rfl, fun hplain => by cases hplain⟩
        · split at h
          · obtain ⟨_, _, heq⟩ := Option.map_eq_some_iff.mp h
            cases heq
            exact ⟨_, rfl, fun hplain => by cases hplain⟩
          · cases h
            exact ⟨_, rfl, fun _ => rfl⟩
      · cases h
  · cases h

/-- The name of a step is the word that it begins with. -/
theorem name_of_segment? {constant : Constant} {n : Nat} {word : String} {segment : Segment}
    (h : segment? constant n (.word word :: ts) = some (segment, rest)) : segment.name = word := by
  obtain ⟨more, hts, _⟩ := exists_of_segment? h
  exact (Token.word.inj (List.cons.inj hts).1).symm

/-- Steps begin with the word that their tokens begin with. -/
theorem head?_of_segments? {constant : Constant} {n : Nat} {word : String} {segments : List Segment}
    (h : segments? constant n (.word word :: ts) = some (segments, rest)) :
    (segments.map Segment.name).head? = some word := by
  cases n with
  | zero => cases h
  | succ n =>
    rw [segments?] at h
    split at h
    · cases h
    · rename_i segment rest' hsegment
      have hname := name_of_segment? hsegment
      split at h
      · cases h
        exact congrArg some hname
      · split at h
        · cases h
          exact congrArg some hname
        · obtain ⟨_, _, heq⟩ := Option.map_eq_some_iff.mp h
          cases heq
          exact congrArg some hname

/-- A path that is read begins as its tokens do. -/
theorem headed_of_path? {constant : Constant} {n : Nat} {path : Path} (hts : Begins ts)
    (h : path? constant n ts = some (path, rest)) :
    Headed path.leading (path.segments.map Segment.name) := by
  cases n with
  | zero => cases h
  | succ n =>
    rw [path?] at h
    split at h
    · obtain ⟨_, _, heq⟩ := Option.map_eq_some_iff.mp h
      cases heq
      exact .inl rfl
    · rename_i hnone
      cases hts with
      | colons => cases hnone
      | word hword =>
        obtain ⟨⟨segments, _⟩, hsegments, heq⟩ := Option.map_eq_some_iff.mp h
        cases heq
        exact .inr ⟨_, head?_of_segments? hsegments, hword⟩

/-! ## Types -/

/-- What holds of the steps of a path that is read. -/
def StepsNamed (P : String → Prop) (segments : List Segment) : Prop :=
  segments ≠ [] ∧ segmentsNamed P segments

/-- All readers keep what holds of words, with a number of steps. -/
structure AllKeep (P : String → Prop) (constant : Constant) (n : Nat) : Prop where
  type : ∀ plus, Keeps P (TypeSyntax.Named P) (type? constant n plus)
  pathType : ∀ plus binder ts a rest, pathType? constant n plus binder ts = some (a, rest) →
    Begins ts → Every P ts → Every P rest ∧ a.Named P
  parenthesized : ∀ plus inner, Every P inner →
    Keeps P (TypeSyntax.Named P) (parenthesized? constant n plus inner)
  qualified : Keeps P (TypeSyntax.Named P) (qualified? constant n)
  function : Keeps P (fun _ => True) (function? constant n)
  output : Keeps P (fun _ => True) (output? constant n)
  bounds : ∀ plus captures, Keeps P (fun _ => True) (bounds? constant n plus captures)
  moreBounds : Keeps P (fun _ => True) (moreBounds? constant n)
  addedBounds : Keeps P (fun _ => True) (addedBounds? constant n)
  bound : ∀ captures, Keeps P (fun _ => True) (bound? constant n captures)
  traitBound : Keeps P (fun _ => True) (traitBound? constant n)
  path : Keeps P (fun path => StepsNamed P path.segments) (path? constant n)
  segments : Keeps P (StepsNamed P) (segments? constant n)
  segment : Keeps P (Segment.Named P) (segment? constant n)
  arguments : Keeps P (fun read => itemsNamed P read.1) (arguments? constant n)
  argument : Keeps P (Argument.Named P) (argument? constant n)
  given : Keeps P (fun _ => True) (given? constant n)
  argumentBounds : Keeps P (fun _ => True) (argumentBounds? constant n)

/-- Without steps nothing is read. -/
theorem allKeep_zero (P : String → Prop) (constant : Constant) : AllKeep P constant 0 := by
  constructor
  case pathType =>
    intro plus binder ts a rest h
    cases h
  all_goals
    intros
    intro ts a rest h
    cases h

namespace AllKeep

variable {constant : Constant} {n : Nat}

/-- A path keeps what holds of words: its steps do. -/
theorem path_succ (ih : AllKeep P constant n) :
    Keeps P (fun path => StepsNamed P path.segments) (path? constant (n + 1)) := by
  intro ts a rest h hts
  rw [path?] at h
  split at h
  · rename_i after hafter
    obtain ⟨hrest, segments, hsegments, rfl⟩ :=
      ih.segments.of_map h (every_of_afterMarks? hafter hts) fun _ => rfl
    exact ⟨hrest, hsegments⟩
  · obtain ⟨hrest, segments, hsegments, rfl⟩ := ih.segments.of_map h hts fun _ => rfl
    exact ⟨hrest, hsegments⟩

/-- Steps keep what holds of words, each of them. -/
theorem segments_succ (ih : AllKeep P constant n) :
    Keeps P (StepsNamed P) (segments? constant (n + 1)) := by
  intro ts a rest h hts
  rw [segments?] at h
  split at h
  · cases h
  · rename_i segment rest' hsegment
    obtain ⟨hrest', hnamed⟩ := ih.segment _ _ _ hsegment hts
    split at h
    · cases h
      exact ⟨hrest', by simp, by simpa [segmentsNamed] using hnamed⟩
    · rename_i after hafter
      split at h
      · cases h
        exact ⟨hrest', by simp, by simpa [segmentsNamed] using hnamed⟩
      · obtain ⟨hrest, more, hmore, rfl⟩ :=
          ih.segments.of_map h (every_of_afterMarks? hafter hrest') fun _ => rfl
        exact ⟨hrest, by simp, by simpa [segmentsNamed] using ⟨hnamed, hmore.2⟩⟩

/-- A step keeps what holds of words: its name is one, and its arguments do. -/
theorem segment_succ (ih : AllKeep P constant n) :
    Keeps P (Segment.Named P) (segment? constant (n + 1)) := by
  intro ts a rest h hts
  unfold segment? at h
  split at h
  · cases h
  · rename_i m word ts hm
    obtain rfl := Nat.succ.inj hm
    obtain ⟨hword, hts⟩ := every_word.mp hts
    split at h
    · rename_i hstep
      cases h
      refine ⟨hts, ⟨hword, ?_⟩, trivial⟩
      simp only [isStep, Bool.or_eq_true] at hstep ⊢
      exact .inl (.inl hstep)
    · split at h
      · rename_i hstep
        have hname : isStep word = true := by
          simp only [isStep, Bool.or_eq_true] at hstep ⊢
          exact hstep.imp_left .inr
        split at h
        · rename_i after hafter
          have hafter' : Every P after := by
            split at hafter
            · cases hafter
            · exact every_of_afterMark? hafter hts
          obtain ⟨hrest, read, hread, rfl⟩ := ih.arguments.of_map h hafter' fun _ => rfl
          exact ⟨hrest, ⟨hword, hname⟩, hread⟩
        · split at h
          · rename_i after hafter
            obtain ⟨colons, hcolons, hafter⟩ := Option.bind_eq_some_iff.mp hafter
            have hafter' := every_of_afterMark? hafter (every_of_afterMarks? hcolons hts)
            obtain ⟨hrest, read, hread, rfl⟩ := ih.arguments.of_map h hafter' fun _ => rfl
            exact ⟨hrest, ⟨hword, hname⟩, hread⟩
          · cases h
            exact ⟨hts, ⟨hword, hname⟩, trivial⟩
      · cases h
  · cases h

/-- Arguments keep what holds of words, each of them. -/
theorem arguments_succ (ih : AllKeep P constant n) :
    Keeps P (fun read => itemsNamed P read.1) (arguments? constant (n + 1)) := by
  intro ts a rest h hts
  rw [arguments?] at h
  split at h
  · rename_i after hafter
    cases h
    exact ⟨every_of_afterMark? hafter hts, trivial⟩
  · split at h
    · cases h
    · rename_i argument rest' hargument
      obtain ⟨hrest', hnamed⟩ := ih.argument _ _ _ hargument hts
      split at h
      · rename_i after hafter
        cases h
        exact ⟨every_of_afterMark? hafter hrest', by simpa [itemsNamed] using hnamed⟩
      · split at h
        · cases h
        · rename_i after hafter
          obtain ⟨hrest, read, hread, rfl⟩ :=
            ih.arguments.of_map h (every_of_afterMark? hafter hrest') fun _ => rfl
          exact ⟨hrest, by simpa [itemsNamed] using ⟨hnamed, hread⟩⟩

/-- An argument keeps what holds of words. Only an argument that is a type has names. -/
theorem argument_succ (ih : AllKeep P constant n) :
    Keeps P (Argument.Named P) (argument? constant (n + 1)) := by
  intro ts a rest h hts
  unfold argument? at h
  split at h
  · split at h
    · obtain ⟨hrest, type, htype, rfl⟩ := (ih.type true).of_map h hts fun _ => rfl
      exact ⟨hrest, htype⟩
    · cases h
      exact ⟨every_lifetime.mp hts, trivial⟩
  · split at h
    · cases h
      exact ⟨(every_group.mp hts).2, trivial⟩
    · cases h
  · split at h
    · rename_i hliteral
      cases h
      exact ⟨every_of_literal? hliteral hts, trivial⟩
    · split at h
      · cases h
      · rename_i type rest' htype
        obtain ⟨hrest', hnamed⟩ := ih.type true _ _ _ htype hts
        split at h
        · split at h
          · rename_i after hafter
            obtain ⟨hrest, _, _, rfl⟩ :=
              ih.given.of_map h (every_of_afterMark? hafter hrest') fun _ => rfl
            exact ⟨hrest, trivial⟩
          · split at h
            · rename_i after hafter
              obtain ⟨hrest, _, _, rfl⟩ :=
                ih.argumentBounds.of_map h (every_of_afterMark? hafter hrest') fun _ => rfl
              exact ⟨hrest, trivial⟩
            · cases h
              exact ⟨hrest', hnamed⟩
        · cases h
          exact ⟨hrest', hnamed⟩

/-- What an argument is given by name keeps what holds of words. -/
theorem given_succ (ih : AllKeep P constant n) :
    Keeps P (fun _ => True) (given? constant (n + 1)) := by
  intro ts a rest h hts
  unfold given? at h
  split at h
  · split at h
    · cases h
      exact ⟨(every_group.mp hts).2, trivial⟩
    · cases h
  · split at h
    · rename_i hliteral
      cases h
      exact ⟨every_of_literal? hliteral hts, trivial⟩
    · exact ⟨((ih.type true).of_map h hts fun _ => rfl).1, trivial⟩

theorem argumentBounds_succ (ih : AllKeep P constant n) :
    Keeps P (fun _ => True) (argumentBounds? constant (n + 1)) := by
  intro ts a rest h hts
  rw [argumentBounds?] at h
  split at h
  · cases h
    exact ⟨hts, trivial⟩
  · split at h
    · cases h
    · rename_i bound rest' hbound
      have hrest' := (ih.bound false _ _ _ hbound hts).1
      split at h
      · cases h
        exact ⟨hrest', trivial⟩
      · rename_i after hafter
        have hread := ih.argumentBounds.of_map h (every_of_afterMark? hafter hrest') fun _ => rfl
        exact ⟨hread.1, trivial⟩

/-- The result of a function keeps what holds of words. -/
theorem output_succ (ih : AllKeep P constant n) :
    Keeps P (fun _ => True) (output? constant (n + 1)) := by
  intro ts a rest h hts
  rw [output?] at h
  split at h
  · rename_i after hafter
    exact ⟨((ih.type false).of_map h (every_of_afterMarks? hafter hts) fun _ => rfl).1, trivial⟩
  · cases h
    exact ⟨hts, trivial⟩

/-- A function pointer keeps what holds of words. -/
theorem function_succ (ih : AllKeep P constant n) :
    Keeps P (fun _ => True) (function? constant (n + 1)) := by
  intro ts a rest h hts
  rw [function?] at h
  dsimp only at h
  split at h
  · rename_i inner after heq
    have hlinked : Every P (.word "fn" :: .group .paren inner :: after) :=
      heq ▸ every_linkage (every_optionalWord hts)
    split at h
    · cases h
    · have hafter : Every P after := (every_group.mp (every_word.mp hlinked).2).2
      exact ⟨(ih.output.of_map h hafter fun _ => rfl).1, trivial⟩
  · cases h

/-- A type with a qualification keeps what holds of words. -/
theorem qualified_succ (ih : AllKeep P constant n) :
    Keeps P (TypeSyntax.Named P) (qualified? constant (n + 1)) := by
  intro ts a rest h hts
  rw [qualified?] at h
  split at h
  · cases h
  · rename_i self rest' hself
    obtain ⟨hrest', _⟩ := ih.type true _ _ _ hself hts
    dsimp only at h
    split at h
    · cases h
    · rename_i trait after htrait
      have hafter : Every P after := by
        split at htrait
        · exact (ih.path.of_map htrait (every_word.mp hrest').2 fun _ => rfl).1
        · cases htrait
          exact hrest'
      split at h
      · cases h
      · rename_i last hlast
        obtain ⟨closed, hclosed, hcolons⟩ := Option.bind_eq_some_iff.mp hlast
        have hlast' := every_of_afterMarks? hcolons (every_of_afterMark? hclosed hafter)
        obtain ⟨hrest, _, _, rfl⟩ := ih.segments.of_map h hlast' fun _ => rfl
        exact ⟨hrest, trivial⟩

/-- Bounds keep what holds of words. -/
theorem bounds_succ (ih : AllKeep P constant n) (plus captures : Bool) :
    Keeps P (fun _ => True) (bounds? constant (n + 1) plus captures) := by
  intro ts a rest h hts
  rw [bounds?] at h
  split at h
  · cases h
  · rename_i hbound
    obtain ⟨hrest', _⟩ := ih.bound captures _ _ _ hbound hts
    split at h
    · cases h
      exact ⟨hrest', trivial⟩
    · rename_i after hafter
      have hafter' : Every P after := by
        split at hafter
        · exact every_of_afterMark? hafter hrest'
        · cases hafter
      split at h
      · exact ⟨((ih.bounds plus captures).of_map h hafter' fun _ => rfl).1, trivial⟩
      · cases h
        exact ⟨hafter', trivial⟩

theorem moreBounds_succ (ih : AllKeep P constant n) :
    Keeps P (fun _ => True) (moreBounds? constant (n + 1)) := by
  intro ts a rest h hts
  rw [moreBounds?] at h
  split at h
  · cases h
    exact ⟨hts, trivial⟩
  · rename_i after hafter
    have hafter' := every_of_afterMark? hafter hts
    split at h
    · split at h
      · cases h
      · rename_i hbound
        obtain ⟨hrest', _⟩ := ih.bound false _ _ _ hbound hafter'
        exact ⟨(ih.moreBounds.of_map h hrest' fun _ => rfl).1, trivial⟩
    · cases h
      exact ⟨hafter', trivial⟩

theorem addedBounds_succ (ih : AllKeep P constant n) :
    Keeps P (fun _ => True) (addedBounds? constant (n + 1)) := by
  intro ts a rest h hts
  rw [addedBounds?] at h
  split at h
  · cases h
    exact ⟨hts, trivial⟩
  · rename_i after hafter
    split at h
    · cases h
    · rename_i hbound
      obtain ⟨hrest', _⟩ := ih.bound false _ _ _ hbound (every_of_afterMark? hafter hts)
      exact ⟨(ih.addedBounds.of_map h hrest' fun _ => rfl).1, trivial⟩

/-- A bound keeps what holds of words. -/
theorem bound_succ (ih : AllKeep P constant n) (captures : Bool) :
    Keeps P (fun _ => True) (bound? constant (n + 1) captures) := by
  intro ts a rest h hts
  unfold bound? at h
  split at h
  · cases h
  · cases h
    exact ⟨every_lifetime.mp hts, trivial⟩
  · split at h
    · have hinner := every_mark.mp (every_word.mp hts).2
      exact ⟨(keeps_captured?.of_map h hinner fun _ => rfl).1, trivial⟩
    · cases h
  · split at h
    · cases h
      exact ⟨(every_group.mp hts).2, trivial⟩
    · cases h
  · rename_i m hm _ _ _
    obtain rfl := Nat.succ.inj hm
    exact ⟨(ih.traitBound.of_map h hts fun _ => rfl).1, trivial⟩

/-- A bound that is no lifetime keeps what holds of words. -/
theorem traitBound_succ (ih : AllKeep P constant n) :
    Keeps P (fun _ => True) (traitBound? constant (n + 1)) := by
  intro ts a rest h hts
  rw [traitBound?] at h
  split at h
  · cases h
  · rename_i binder after hbinder
    have hafter := (keeps_binder? _ _ _ hbinder hts).1
    dsimp only at h
    split at h
    · cases h
    · rename_i binder' after' hbinder'
      have hafter' : Every P after' := by
        split at hbinder'
        · exact (keeps_binder? _ _ _ hbinder' (every_optionalMark _ hafter)).1
        · cases hbinder'
          exact every_optionalMark _ hafter
      split at h
      · cases h
      · rename_i path rest' hpath
        obtain ⟨hrest', _⟩ := ih.path _ _ _ hpath hafter'
        split at h
        · rename_i inner rest'' hgroup
          have hrest'' : Every P rest'' := by
            split at hgroup
            · have hopened : Every P ((afterMarks? ':' ':' rest').getD rest') := by
                cases hcolons : afterMarks? ':' ':' rest' with
                | none => exact hrest'
                | some opened => exact every_of_afterMarks? hcolons hrest'
              rw [hgroup] at hopened
              exact (every_group.mp hopened).2
            · cases hgroup
          split at h
          · cases h
          · exact ⟨(ih.output.of_map h hrest'' fun _ => rfl).1, trivial⟩
        · cases h
          exact ⟨hrest', trivial⟩

/-- A type that begins with a path keeps what holds of words, and begins as a path may. -/
theorem pathType_succ (ih : AllKeep P constant n) (plus : Bool) (binder ts : List Token)
    (a : TypeSyntax) (rest : List Token)
    (h : pathType? constant (n + 1) plus binder ts = some (a, rest)) (begins : Begins ts)
    (hts : Every P ts) : Every P rest ∧ a.Named P := by
  rw [pathType?] at h
  split at h
  · cases h
  · rename_i path rest' hpath
    obtain ⟨hrest', hnamed⟩ := ih.path _ _ _ hpath hts
    split at h
    · split at h
      · rename_i delimiter inner after hafter
        cases h
        have hdrop : Every P (.group delimiter inner :: rest) := hafter ▸ every_drop hrest'
        exact ⟨(every_group.mp hdrop).2, trivial⟩
      · cases h
    · split at h
      · split at h
        · obtain ⟨hrest, _, _, rfl⟩ := ih.moreBounds.of_map h hrest' fun _ => rfl
          exact ⟨hrest, trivial⟩
        · cases h
          exact ⟨hrest', trivial⟩
      · cases h
        exact ⟨hrest', hnamed.1, hnamed.2, headed_of_path? begins hpath⟩

/-- A type in parentheses keeps what holds of words, inside and behind. -/
theorem parenthesized_succ (ih : AllKeep P constant n) (plus : Bool) (inner : List Token)
    (hinner : Every P inner) :
    Keeps P (TypeSyntax.Named P) (parenthesized? constant (n + 1) plus inner) := by
  intro ts a rest h hts
  unfold parenthesized? at h
  split at h
  · cases h
  · cases h
    exact ⟨hts, trivial⟩
  · rename_i m hm _
    obtain rfl := Nat.succ.inj hm
    split at h
    · split at h
      · cases h
        exact ⟨hts, trivial⟩
      · cases h
    · split at h
      · obtain ⟨hrest, _, _, rfl⟩ := ih.addedBounds.of_map h hts fun _ => rfl
        exact ⟨hrest, trivial⟩
      · cases h
    · split at h
      · cases h
      · rename_i first hfirst
        have hnamed := (ih.type true _ _ _ hfirst hinner).2
        split at h
        · split at h
          · obtain ⟨hrest, _, _, rfl⟩ := ih.addedBounds.of_map h hts fun _ => rfl
            exact ⟨hrest, trivial⟩
          · cases h
            exact ⟨hts, hnamed⟩
        · cases h
          exact ⟨hts, hnamed⟩
      · split at h
        · cases h
        · obtain ⟨more, _, heq⟩ := Option.map_eq_some_iff.mp h
          cases heq
          exact ⟨hts, trivial⟩

/-- What is behind a lifetime and `mut` is among the tokens. -/
theorem every_borrow (hts : Every P ts) : Every P (borrow ts).2 := by
  have hafter : Every P (optionalLifetime ts).2 := by
    unfold optionalLifetime
    split
    · exact every_lifetime.mp hts
    · exact hts
  exact every_optionalWord hafter

/-- The reader of types keeps what holds of words, kind of type by kind of type: what is in front of a type is
passed over, and what is behind it is read with a step less. -/
theorem type_succ (ih : AllKeep P constant n) (plus : Bool) :
    Keeps P (TypeSyntax.Named P) (type? constant (n + 1) plus) := by
  intro ts a rest h hts
  cases typeForm_of_type? h with
  | path begins h => exact ih.pathType _ _ _ _ _ h begins hts
  | boundPath hbinder begins h =>
    exact ih.pathType _ _ _ _ _ h (.word begins) (keeps_binder? _ _ _ hbinder hts).1
  | function _ h => exact ⟨(ih.function _ _ _ h hts).1, trivial⟩
  | boundFunction hbinder _ h =>
    exact ⟨(ih.function _ _ _ h (keeps_binder? _ _ _ hbinder hts).1).1, trivial⟩
  | parenthesized h =>
    obtain ⟨hinner, hbehind⟩ := every_group.mp hts
    exact ih.parenthesized _ _ hinner _ _ _ h hbehind
  | object h =>
    have hbehind := every_optionalMark '*' (every_word.mp hts).2
    exact ⟨(ih.bounds _ _ _ _ _ h hbehind).1, trivial⟩
  | abstract h => exact ⟨(ih.bounds _ _ _ _ _ h (every_word.mp hts).2).1, trivial⟩
  | bounded h => exact ⟨(ih.bounds _ _ _ _ _ h hts).1, trivial⟩
  | hole => exact ⟨(every_word.mp hts).2, trivial⟩
  | never => exact ⟨every_mark.mp hts, trivial⟩
  | slice | array => exact ⟨(every_group.mp hts).2, trivial⟩
  | pointer _ h =>
    have hbehind := (every_word.mp (every_mark.mp hts)).2
    exact ⟨(ih.type false _ _ _ h hbehind).1, trivial⟩
  | reference h =>
    have hbehind := every_borrow (every_mark.mp hts)
    exact ⟨(ih.type false _ _ _ h hbehind).1, trivial⟩
  | qualified h => exact ih.qualified _ _ _ h (every_mark.mp hts)

/-- One step more changes nothing. -/
theorem succ (ih : AllKeep P constant n) : AllKeep P constant (n + 1) where
  type := ih.type_succ
  pathType := ih.pathType_succ
  parenthesized := ih.parenthesized_succ
  qualified := ih.qualified_succ
  function := ih.function_succ
  output := ih.output_succ
  bounds := ih.bounds_succ
  moreBounds := ih.moreBounds_succ
  addedBounds := ih.addedBounds_succ
  bound := ih.bound_succ
  traitBound := ih.traitBound_succ
  path := ih.path_succ
  segments := ih.segments_succ
  segment := ih.segment_succ
  arguments := ih.arguments_succ
  argument := ih.argument_succ
  given := ih.given_succ
  argumentBounds := ih.argumentBounds_succ

end AllKeep

/-- Whatever the number of steps, readers keep what holds of words. -/
theorem allKeep (P : String → Prop) (constant : Constant) (n : Nat) : AllKeep P constant n := by
  induction n with
  | zero => exact allKeep_zero P constant
  | succ n ih => exact ih.succ

end Grammar

end Specimen.Source
