import SearchQuery.Text.Alphanumeric
import SearchQuery.Text.WhiteSpace

/-!
# Search terms

What a user types as a term may hold quotes and white space that do not belong to
it. `searchTerm?` takes them away, so that a term can stand between the quotes of
a full-text query. A value without a letter or digit is no term and matches
nothing.
-/

namespace SearchQuery

/-- The straight and typographic quotes that no term keeps. -/
def isQuote (c : Char) : Bool :=
  c == '"' || c == '\u201C' || c == '\u201D' || c == '\u2018' || c == '\u2019'

/-- A text without its quotes and without white space at its ends. -/
def stripQuotes (text : List Char) : List Char :=
  Text.trim ((Text.trim text).filter fun c => !isQuote c)

/-- The term in a value; nothing if no letter or digit is left. -/
def searchTerm? (value : String) : Option String :=
  let term := stripQuotes value.toList
  if term.any Text.isAlphanumeric then some (String.ofList term) else none

end SearchQuery
