import SearchQuery.Field

/-!
# Tokens of a query

A query is read as a sequence of terms, filters, keywords and parentheses. White
space separates tokens and is not kept.
-/

namespace SearchQuery

/-- The smallest meaningful parts of a query. -/
inductive Token where
  /-- A bare term. -/
  | word (value : String)
  /-- A quoted term, without its quotes. -/
  | phrase (value : String)
  /-- A filter `field:operator value`; the value may be empty. -/
  | filter (field : Field) (operator : Operator) (value : String)
  /-- An operator that belongs to no filter. -/
  | operator (operator : Operator)
  | and
  | or
  | not
  /-- The dash that negates what it is attached to. -/
  | minus
  | openGroup
  | closeGroup
  | endOfQuery
deriving DecidableEq, Repr

end SearchQuery
