import SearchQuery.Text.AsciiCase

/-!
# Fields and operators of a filter

A filter compares one field of a document with a value, as in `tag:cooking` or
`created:>=2024-02-01`. Only the creation date can be ordered; every other field
admits equality alone.
-/

namespace SearchQuery

/-- The fields that a filter can name. -/
inductive Field where
  | tag
  | name
  | content
  | created
  | has
deriving DecidableEq, Repr

namespace Field

/-- Every field, in the order in which names are looked up. -/
def all : List Field :=
  [tag, name, content, created, has]

/-- The name of a field as a query spells it. -/
def text : Field → String
  | tag => "tag"
  | name => "name"
  | content => "content"
  | created => "created"
  | has => "has"

/-- The field with the given name, in any ASCII case. -/
def ofName? (name : List Char) : Option Field :=
  all.find? fun field => Text.sameIgnoringAsciiCase field.text.toList name

end Field

/-- The order comparisons. -/
inductive Comparison where
  | less
  | lessOrEqual
  | greater
  | greaterOrEqual
deriving DecidableEq, Repr

/-- The operators of a filter: equality or an order comparison. -/
inductive Operator where
  | equal
  | ordering (comparison : Comparison)
deriving DecidableEq, Repr

/-- The symbol of a comparison, the same in queries and in SQL. -/
def Comparison.symbol : Comparison → String
  | less => "<"
  | lessOrEqual => "<="
  | greater => ">"
  | greaterOrEqual => ">="

namespace Operator

/-- Every operator, equality first. -/
def all : List Operator :=
  [equal, ordering .less, ordering .lessOrEqual, ordering .greater, ordering .greaterOrEqual]

/-- The symbol of an operator. -/
def symbol : Operator → String
  | equal => "="
  | ordering comparison => comparison.symbol

/-- The operator with exactly the given symbol. -/
def ofSymbol? (symbol : String) : Option Operator :=
  all.find? fun operator => operator.symbol == symbol

end Operator

/-- Whether a filter on a field may use an operator. -/
def Field.supports : Field → Operator → Bool
  | _, .equal => true
  | .created, .ordering _ => true
  | _, .ordering _ => false

end SearchQuery
