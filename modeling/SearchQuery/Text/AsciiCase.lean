/-!
# Letter case within ASCII

Keywords, field names and a few fixed values are compared without regard to the
case of ASCII letters; every other character stands only for itself.
-/

namespace SearchQuery.Text

/-- Whether two texts differ at most in the case of ASCII letters. -/
def sameIgnoringAsciiCase (left right : List Char) : Bool :=
  left.map Char.toLower == right.map Char.toLower

theorem sameIgnoringAsciiCase_iff {left right : List Char} :
    sameIgnoringAsciiCase left right = true ↔ left.map Char.toLower = right.map Char.toLower :=
  beq_iff_eq

end SearchQuery.Text
