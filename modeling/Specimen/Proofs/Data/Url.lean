import Mathlib.Data.List.TakeWhile
import Specimen.Data.Url
import Specimen.Proofs.Text.Split

/-!
# The parts of an address

An address that is accepted is a scheme, `://`, a host and the rest, which is empty or begins where a
host ends (`Url.parse_parts`). A scheme has a character. A host has one unless a colon stands where it
should begin: what may not stand there is checked by other characters than those at which a host ends,
so that a port without a host is accepted (`Url.parse_hostless`). An address that is refused is refused
for the first part that is wrong.
-/

namespace Specimen.Data.Url

open Specimen.Text

/-- A scheme: a letter, followed by letters, digits and three signs. -/
structure IsScheme (cs : List Char) : Prop where
  exists_letter : ∃ c rest, cs = c :: rest ∧ c.isAlpha = true
  parts : ∀ c ∈ cs, c.isAlphanum = true ∨ c ∈ ['+', '-', '.']

/-- The check of a scheme is the grammar of schemes. -/
theorem isScheme_iff {cs : List Char} : isScheme cs = true ↔ IsScheme cs := by
  have hpart : ∀ c, isSchemePart c = true ↔ c.isAlphanum = true ∨ c ∈ ['+', '-', '.'] := by
    intro c
    simp [isSchemePart, or_assoc]
  cases cs with
  | nil =>
    refine iff_of_false Bool.false_ne_true fun h => ?_
    obtain ⟨_, _, heq, _⟩ := h.exists_letter
    cases heq
  | cons c rest =>
    simp only [isScheme, Bool.and_eq_true, List.all_eq_true, hpart]
    constructor
    · rintro ⟨hletter, hrest⟩
      refine ⟨⟨c, rest, rfl, hletter⟩, List.forall_mem_cons.mpr ⟨.inl ?_, hrest⟩⟩
      rw [Char.isAlphanum, hletter, Bool.true_or]
    · rintro ⟨⟨_, _, heq, hletter⟩, hparts⟩
      cases heq
      exact ⟨hletter, fun d hd => hparts d (List.mem_cons_of_mem _ hd)⟩

/-- A scheme holds no colon. -/
theorem colon_not_mem_of_isScheme {cs : List Char} (h : IsScheme cs) : ':' ∉ cs := fun hmem =>
  absurd (h.parts ':' hmem) (by decide)

/-- A host ends at the characters that may stand behind one. -/
theorem endsHost_iff {c : Char} : endsHost c = true ↔ c ∈ ['/', '?', '#', ':'] := by
  simp [endsHost, startsTail, or_assoc]

/-- A path, a query or a fragment begins with a character of its own. -/
theorem startsTail_iff {c : Char} : startsTail c = true ↔ c ∈ ['/', '?', '#'] := by
  simp [startsTail, or_assoc]

/-- An address is put together from its parts. -/
structure Parts (text scheme host rest : String) : Prop where
  text_eq : text = scheme ++ "://" ++ host ++ rest
  scheme : IsScheme scheme.toList
  host : ∀ c ∈ host.toList, c ∉ ['/', '?', '#', ':']
  rest : ∀ c ∈ rest.toList.head?, c ∈ ['/', '?', '#', ':']

/-- A text is cut at its first `://`. -/
def Cut (text : String) (scheme rest : List Char) : Prop :=
  text.toList = scheme ++ mark ++ rest ∧
    ∀ before after, text.toList = before ++ mark ++ after → scheme.length ≤ before.length

/-- Nothing stands where a host should begin, or something that cannot be one. -/
theorem lacksHost_iff {rest : List Char} :
    lacksHost rest = true ↔ ∀ c ∈ rest.head?, c ∈ ['/', '?', '#'] := by
  cases rest with
  | nil => simp [lacksHost]
  | cons c rest => simp [lacksHost, startsTail_iff]

section Cut

variable {url : Url} {text : String} {scheme rest : List Char}

/-- The scheme is what stands before the mark. -/
theorem scheme_eq (cut : splitFirst? mark url.text.toList = some (scheme, rest)) :
    url.scheme = String.ofList scheme := by
  rw [Url.scheme, cut]

/-- The host goes from the mark to the first character that ends one. -/
theorem host_eq (cut : splitFirst? mark url.text.toList = some (scheme, rest)) :
    url.host = String.ofList (rest.takeWhile fun c => !endsHost c) := by
  rw [Url.host, cut]

/-- A text that begins like an address is cut behind its scheme. -/
theorem splitFirst?_of_isScheme (h : IsScheme scheme)
    (heq : text.toList = scheme ++ mark ++ rest) :
    splitFirst? mark text.toList = some (scheme, rest) := by
  rw [heq]
  exact splitFirst?_of_not_mem (colon_not_mem_of_isScheme h)

/-- A text with the mark is accepted if it has a scheme before the mark and no lack of a host behind it. -/
theorem parse_eq_ok_iff (cut : splitFirst? mark text.toList = some (scheme, rest)) :
    parse text = .ok url ↔ url.text = text ∧ IsScheme scheme ∧ lacksHost rest = false := by
  have htext : (⟨text⟩ : Url) = url ↔ url.text = text := by
    cases url
    simp [eq_comm]
  rw [parse, cut, ← isScheme_iff]
  dsimp only
  cases isScheme scheme <;> cases lacksHost rest <;> simp [htext]

/-- A text with the mark is refused for its scheme, or else for the lack of a host. -/
theorem parse_eq_error_iff (cut : splitFirst? mark text.toList = some (scheme, rest))
    {error : UrlError} : parse text = .error error ↔
      ¬ IsScheme scheme ∧ error = .invalidScheme text (String.ofList scheme) ∨
        IsScheme scheme ∧ lacksHost rest = true ∧ error = .missingHost text := by
  rw [parse, cut, ← isScheme_iff]
  dsimp only
  cases isScheme scheme <;> cases lacksHost rest <;> simp [eq_comm]

/-- The host ends where the rest begins. -/
theorem parts_of_cut (cut : splitFirst? mark url.text.toList = some (scheme, rest))
    (h : IsScheme scheme) :
    Parts url.text url.scheme url.host (String.ofList (rest.dropWhile fun c => !endsHost c)) where
  text_eq := by
    rw [scheme_eq cut, host_eq cut, ← String.toList_inj, splitFirst?_eq_some cut]
    simp [mark]
  scheme := by rwa [scheme_eq cut, String.toList_ofList]
  host c hc := by
    rw [host_eq cut, String.toList_ofList] at hc
    have hends := List.mem_takeWhile_imp (p := fun c => !endsHost c) hc
    rw [← endsHost_iff]
    simpa using hends
  rest c hc := by
    rw [String.toList_ofList] at hc
    rw [← endsHost_iff]
    have hends := List.head?_dropWhile_not (fun c => !endsHost c) rest
    rw [Option.mem_def.mp hc] at hends
    simpa using hends

/-- A text that is accepted holds the mark. -/
theorem exists_cut_of_parse (h : parse text = .ok url) :
    ∃ scheme rest, splitFirst? mark text.toList = some (scheme, rest) := by
  cases hcut : splitFirst? mark text.toList with
  | some cut => exact ⟨cut.1, cut.2, rfl⟩
  | none =>
    rw [parse, hcut] at h
    cases h

/-- Without a host, a rest that does not lack one begins with a colon. -/
theorem host_eq_empty_iff (cut : splitFirst? mark url.text.toList = some (scheme, rest))
    (hhost : lacksHost rest = false) : url.host = "" ↔ rest.head? = some ':' := by
  rw [host_eq cut]
  cases rest with
  | nil => cases hhost
  | cons c rest =>
    have hc : startsTail c = false := hhost
    simp [List.takeWhile_cons, endsHost, hc]

/-- A text with its parts is cut at the first mark, since a scheme holds no colon. -/
theorem Parts.cut {host tail : String} {scheme : String} (h : Parts text scheme host tail) :
    splitFirst? mark text.toList = some (scheme.toList, host.toList ++ tail.toList) :=
  splitFirst?_of_isScheme h.scheme (by rw [h.text_eq]; simp [mark])

/-- Where a host is missing, nothing but a colon can stand in its place. -/
theorem Parts.lacksHost {scheme host rest : String} (h : Parts text scheme host rest)
    (colon : host = "" → rest.toList.head? = some ':') :
    lacksHost (host.toList ++ rest.toList) = false := by
  rcases hhost : host.toList with _ | ⟨c, cs⟩
  · obtain ⟨tail, hrest⟩ := List.head?_eq_some_iff.mp (colon (String.toList_eq_nil_iff.mp hhost))
    rw [hrest]
    rfl
  · have hc : c ∉ ['/', '?', '#', ':'] := h.host c (by rw [hhost]; exact List.mem_cons_self)
    rw [← endsHost_iff, Bool.not_eq_true, endsHost, Bool.or_eq_false_iff] at hc
    exact hc.1

end Cut

/-! ## What is accepted, and what is refused -/

/-- An address is accepted exactly when it consists of a scheme, `://`, a host, and a rest which is empty
or begins where a host ends; the host may only be empty in front of a colon. It is refused for the first
part that is wrong: there is no `://`, what stands before the first is no scheme, or nothing that could
be a host stands behind it. -/
theorem parse_parts (text : String) :
    (∀ url, parse text = .ok url ↔ url.text = text ∧ ∃ rest,
      Parts text url.scheme url.host rest ∧ (url.host = "" → rest.toList.head? = some ':')) ∧
    (∀ error, parse text = .error error ↔
      ¬ mark <:+: text.toList ∧ error = .missingScheme text ∨
      ∃ scheme rest, Cut text scheme rest ∧
        (¬ IsScheme scheme ∧ error = .invalidScheme text (String.ofList scheme) ∨
          IsScheme scheme ∧ (∀ c ∈ rest.head?, c ∈ ['/', '?', '#']) ∧ error = .missingHost text)) ∧
    ∀ url, parse text = .ok url → (url.host = "" ↔ ∃ rest, text = url.scheme ++ "://:" ++ rest) := by
  refine ⟨fun url => ⟨fun h => ?_, ?_⟩, fun error => ?_, fun url h => ?_⟩
  · obtain ⟨scheme, rest, cut⟩ := exists_cut_of_parse h
    obtain ⟨rfl, hscheme, hhost⟩ := (parse_eq_ok_iff cut).mp h
    refine ⟨rfl, _, parts_of_cut cut hscheme, fun hempty => ?_⟩
    obtain ⟨tail, rfl⟩ := List.head?_eq_some_iff.mp ((host_eq_empty_iff cut hhost).mp hempty)
    rw [String.toList_ofList]
    rfl
  · rintro ⟨rfl, rest, hparts, hcolon⟩
    exact (parse_eq_ok_iff hparts.cut).mpr ⟨rfl, hparts.scheme, hparts.lacksHost hcolon⟩
  · cases hcut : splitFirst? mark text.toList with
    | none =>
      have hmissing : ¬ mark <:+: text.toList := splitFirst?_eq_none_iff.mp hcut
      have hnot : ∀ scheme rest, ¬ Cut text scheme rest := fun scheme rest h =>
        hmissing ⟨scheme, rest, h.1.symm⟩
      simp [parse, hcut, hmissing, hnot, eq_comm]
    | some cut =>
      obtain ⟨scheme, rest⟩ := cut
      have hfound : mark <:+: text.toList := ⟨scheme, rest, (splitFirst?_eq_some hcut).symm⟩
      have honly : ∀ scheme' rest', Cut text scheme' rest' ↔ scheme = scheme' ∧ rest = rest' := by
        intro scheme' rest'
        rw [Cut, ← splitFirst?_eq_some_iff, hcut, Option.some.injEq, Prod.mk.injEq]
      simp [parse_eq_error_iff hcut, hfound, honly, lacksHost_iff]
  · obtain ⟨scheme, rest, cut⟩ := exists_cut_of_parse h
    obtain ⟨rfl, hscheme, hhost⟩ := (parse_eq_ok_iff cut).mp h
    have hscheme' : IsScheme url.scheme.toList := by rwa [scheme_eq cut, String.toList_ofList]
    rw [host_eq_empty_iff cut hhost, List.head?_eq_some_iff]
    constructor
    · rintro ⟨tail, rfl⟩
      refine ⟨String.ofList tail, ?_⟩
      rw [← String.toList_inj, splitFirst?_eq_some cut, scheme_eq cut]
      simp [mark]
    · rintro ⟨tail, htext⟩
      have hcolon : splitFirst? mark url.text.toList = some (url.scheme.toList, ':' :: tail.toList) :=
        splitFirst?_of_isScheme hscheme' (by rw [htext]; simp [mark])
      exact ⟨tail.toList, (Prod.mk.inj (Option.some.inj (cut.symm.trans hcolon))).2⟩

/-- A port without a host is accepted, and the address has no host. -/
theorem parse_hostless : parse "http://:80" = .ok ⟨"http://:80"⟩ ∧
    (⟨"http://:80"⟩ : Url).scheme = "http" ∧ (⟨"http://:80"⟩ : Url).host = "" := by
  decide

end Specimen.Data.Url
