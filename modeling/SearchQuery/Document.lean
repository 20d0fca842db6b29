import SearchQuery.Calendar.Instant

/-!
# Documents

The documents that a query is evaluated on.
-/

namespace SearchQuery

/-- A tag on a document. -/
structure Tag where
  id : String
  name : String
deriving DecidableEq, Repr

/-- A document with its tags and the instant of its creation. -/
structure Document where
  id : String
  name : String
  content : String
  tags : List Tag
  createdAt : Calendar.Instant
deriving DecidableEq, Repr

end SearchQuery
