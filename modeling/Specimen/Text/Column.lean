/-!
# Columns of text

A column is as wide as it has to be, and shorter texts are filled with spaces.
-/

namespace Specimen.Text

/-- A text that is filled with spaces up to a width. -/
def padded (width : Nat) (s : String) : String :=
  s ++ String.ofList (List.replicate (width - s.length) ' ')

/-- A filled text has the width of its column unless it was wider. -/
theorem length_padded (width : Nat) (s : String) : (padded width s).length = max width s.length := by
  simp only [padded, String.length_append, String.length_ofList, List.length_replicate]
  omega

/-- The width of a column that holds some texts. -/
def widest (texts : List String) : Nat := texts.foldl (fun width text => max width text.length) 0

end Specimen.Text
