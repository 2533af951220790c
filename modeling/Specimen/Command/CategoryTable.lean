import Specimen.Category
import Specimen.Text.Column

/-!
# The table of categories

All categories with their domains and the types that accept them, one a line, in columns. The image
stands for all sizes.
-/

namespace Specimen.CategoryTable

open Text

/-- A line of the table. -/
def line (token domain type : String) : String :=
  s!"{padded 28 token} {padded 8 domain} {type}\n"

/-- A line for a category. -/
def row (token : String) (category : Category) : String :=
  line token category.domain.label category.domain.expectedType

/-- The table. -/
def text : String :=
  line "CATEGORY" "DOMAIN" "TYPE"
    ++ String.join (Category.simple.map fun category => row category.token category)
    ++ row "image(width: W, height: H)" (.image 0 0)

end Specimen.CategoryTable
