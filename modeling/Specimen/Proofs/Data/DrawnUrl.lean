import Specimen.Data.Provider
import Specimen.Proofs.Data.Draw
import Specimen.Proofs.Data.Url
import Specimen.Proofs.Text.Numeral

/-!
# Addresses that are drawn

The provider puts addresses together without reading them again. Each is `https://`, a host, and a path
that begins with a slash (`Url.Drawn`), and any address of this form is accepted as it is. That of an
image needs no random word, and it tells the size of the image: a numeral holds no slash, so the text
can be cut into the two sides again.

Main statement: `Provider.addressing`.
-/

namespace Specimen.Data

open Specimen.Text

namespace Url

/-! ## Addresses in parts -/

namespace Parts

variable {url : Url} {scheme host rest : String}

/-- The scheme that an address is put together from is the one that is read from it. -/
theorem scheme_eq (h : Parts url.text scheme host rest) : url.scheme = scheme := by
  rw [Url.scheme_eq h.cut, String.ofList_toList]

/-- The host that an address is put together from is the one that is read from it. -/
theorem host_eq (h : Parts url.text scheme host rest) : url.host = host := by
  have hhost : ∀ c ∈ host.toList, (!endsHost c) = true := by
    intro c hc
    rw [Bool.not_eq_true', ← Bool.not_eq_true, endsHost_iff]
    exact h.host c hc
  have hrest : rest.toList.takeWhile (fun c => !endsHost c) = [] := by
    have hends := h.rest
    cases hcs : rest.toList with
    | nil => rfl
    | cons c cs =>
      rw [hcs] at hends
      rw [List.takeWhile_cons, endsHost_iff.mpr (hends c rfl)]
      rfl
  rw [Url.host_eq h.cut, List.takeWhile_append_of_pos hhost, hrest, List.append_nil,
    String.ofList_toList]

/-- An address with a host is accepted as it is. -/
theorem parse_eq (h : Parts url.text scheme host rest) (ne : host ≠ "") :
    parse url.text = .ok url :=
  (parse_eq_ok_iff h.cut).mpr ⟨rfl, h.scheme, h.lacksHost fun hempty => absurd hempty ne⟩

end Parts

/-! ## Addresses of the provider -/

/-- An address is that of a path on a host, to be had by `https`. -/
structure Drawn (url : Url) (host path : String) : Prop where
  text_eq : url.text = "https://" ++ host ++ "/" ++ path
  host_ne : host ≠ ""
  host_plain : ∀ c ∈ host.toList, c ∉ ['/', '?', '#', ':']

/-- The parts of an address that is drawn are the ones that it was put together from. -/
theorem Drawn.parts {url : Url} {host path : String} (h : url.Drawn host path) :
    Parts url.text "https" host ("/" ++ path) where
  text_eq := by
    rw [h.text_eq, ← String.append_assoc]
    rfl
  scheme := isScheme_iff.mp (by decide)
  host := h.host_plain
  rest c hc := by
    rw [String.toList_append] at hc
    cases hc
    decide

theorem isPlain_of_all {cs : List Char} (h : (cs.all fun c => c ∉ ['/', '?', '#', ':']) = true) :
    ∀ c ∈ cs, c ∉ ['/', '?', '#', ':'] :=
  fun c hc => of_decide_eq_true (List.all_eq_true.mp h c hc)

/-- The address of an image is put together from the host of the pictures and the two sides. -/
theorem drawn_ofImage (width height : UInt32) : (ofImage width height).Drawn "picsum.photos"
    (decimalText width.toNat ++ "/" ++ decimalText height.toNat) where
  text_eq := by
    rw [← String.append_assoc, ← String.append_assoc]
    rfl
  host_ne := by decide
  host_plain := isPlain_of_all (by decide)

/-- Different sizes have different addresses. -/
theorem ofImage_inj {width height width' height' : UInt32} :
    ofImage width height = ofImage width' height' ↔ width = width' ∧ height = height' := by
  refine ⟨fun h => ?_, fun ⟨hwidth, hheight⟩ => by rw [hwidth, hheight]⟩
  have htext := (drawn_ofImage width height).text_eq.symm.trans
    ((congrArg Url.text h).trans (drawn_ofImage width' height').text_eq)
  have hsides := congrArg String.toList ((String.append_right_inj _).mp htext)
  -- the slash between the sides is the first
  have hcut : ∀ m n : UInt32, splitFirst? ['/'] (decimalText m.toNat ++ "/" ++
      decimalText n.toNat).toList = some (decimal m.toNat, decimal n.toNat) := by
    intro m n
    have hslash : '/' ∉ decimal m.toNat := not_mem_decimal (by decide) _
    simp only [String.toList_append, decimalText, String.toList_ofList]
    exact splitFirst?_of_not_mem hslash
  have hpair := congrArg (splitFirst? ['/']) hsides
  rw [hcut, hcut] at hpair
  obtain ⟨hwidth, hheight⟩ := Prod.mk.inj (Option.some.inj hpair)
  exact ⟨UInt32.toNat_inj.mp (decimal_injective hwidth),
    UInt32.toNat_inj.mp (decimal_injective hheight)⟩

/-- Every site is a scheme and a host, and the host is not empty and ends nowhere early. -/
theorem drawn_of_mem_sites : ∀ site ∈ sites, ∃ host, site = "https://" ++ host ∧ host ≠ "" ∧
    ∀ c ∈ host.toList, c ∉ ['/', '?', '#', ':'] := by
  have hsites : ∀ site ∈ sites, site = "https://" ++ String.ofList (site.toList.drop 8) ∧
      String.ofList (site.toList.drop 8) ≠ "" ∧
      ((site.toList.drop 8).all fun c => c ∉ ['/', '?', '#', ':']) = true := by decide
  intro site hsite
  obtain ⟨heq, hne, hplain⟩ := hsites site hsite
  refine ⟨_, heq, hne, ?_⟩
  rw [String.toList_ofList]
  exact isPlain_of_all hplain

/-- The address of a page is put together from a host and a path. -/
theorem drawPage_ensures : drawPage.Ensures fun url => ∃ host path, url.Drawn host path := by
  refine (Draw.choose_ensures (by decide) (by decide)).bind fun site hsite => ?_
  refine (Draw.ensures_true _).bind fun page _ => Draw.ensures_pure ?_
  obtain ⟨host, rfl, hne, hplain⟩ := drawn_of_mem_sites site hsite
  exact ⟨host, decimalText page, rfl, hne, hplain⟩

end Url

namespace Provider

/-- Whatever the category, the address that is drawn is put together from a host and a path. -/
theorem drawUrl_ensures (category? : Option Category) :
    (drawUrl category?).Ensures fun url => ∃ host path, url.Drawn host path := by
  unfold drawUrl
  split
  · exact Draw.ensures_pure ⟨_, _, Url.drawn_ofImage _ _⟩
  · exact Url.drawPage_ensures

/-- Every address that the provider draws is accepted as it is; its scheme is `https`, and it has a host.
The address of an image is written with its width and its height and takes no random word, and different
sizes have different addresses. -/
theorem addressing :
    (∀ (category? : Option Category) (source : Source),
      let url := (drawUrl category? source).1
      Url.parse url.text = .ok url ∧ url.scheme = "https" ∧ url.host ≠ "") ∧
    (∀ (width height : UInt32) (source : Source), drawUrl (some (.image width height)) source =
      (⟨"https://picsum.photos/" ++ decimalText width.toNat ++ "/" ++ decimalText height.toNat⟩,
        source)) ∧
    ∀ (width height width' height' : UInt32) (source source' : Source),
      (drawUrl (some (.image width height)) source).1 =
          (drawUrl (some (.image width' height')) source').1 ↔
        width = width' ∧ height = height' := by
  refine ⟨fun category? source => ?_, fun width height source => rfl,
    fun width height width' height' source source' => Url.ofImage_inj⟩
  obtain ⟨host, path, hdrawn⟩ := drawUrl_ensures category? source
  have hparts := hdrawn.parts
  refine ⟨hparts.parse_eq hdrawn.host_ne, hparts.scheme_eq, ?_⟩
  rw [hparts.host_eq]
  exact hdrawn.host_ne

end Provider

end Specimen.Data
