import SearchQuery.Text.Lowercase
import SearchQuery.Text.Normalization.Composition
import SearchQuery.Text.WhiteSpace
import SearchQuery.Uuid

/-!
# Names and identifiers of tags

Tags are compared by their normalized names: without white space at the ends, in
normalization form C, and in lower case. A tag can also be asked for by its
identifier, in any spelling of a UUID.
-/

namespace SearchQuery

/-- The form of a tag name in which names are compared. -/
def normalizeTagName (name : String) : String :=
  String.ofList (Text.lowercase (Text.normalize (Text.trim name.toList)))

/-- The identifier that the value of a tag filter spells. -/
def tagIdentifier? (value : String) : Option Uuid :=
  Uuid.ofText? (Text.trim value.toList)

end SearchQuery
