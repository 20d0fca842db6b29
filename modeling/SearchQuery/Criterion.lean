import SearchQuery.Calendar.DateValue
import SearchQuery.Document
import SearchQuery.Issue
import SearchQuery.SearchTerm
import SearchQuery.TagName
import SearchQuery.Text.Substring

/-!
# Criteria

A criterion is a filter whose operator and value have been checked: one condition
that a document meets or does not meet. Evaluation and compilation to SQL both
start from the same criterion, so they agree on which filters are valid.
-/

namespace SearchQuery

open Calendar

/-- Where a term is searched for. -/
inductive TextPlace where
  | name
  | content
  | nameOrContent
deriving DecidableEq, Repr

/-- Whether a term occurs in a text, with letter case ignored on both sides. -/
def occursFolded (term : String) (text : String) : Bool :=
  Text.occursIn (Text.lowercase term.toList) (Text.lowercase text.toList)

/-- Whether a term occurs in a document at the given place. The name and the
content are searched apart, so no match runs from one into the other. -/
def TextPlace.holds (term : String) (document : Document) : TextPlace → Bool
  | .name => occursFolded term document.name
  | .content => occursFolded term document.content
  | .nameOrContent => occursFolded term document.name || occursFolded term document.content

/-- One condition on a document. -/
inductive Criterion where
  /-- A term occurs in the given place. -/
  | contains (place : TextPlace) (value : String)
  /-- A tag has the normalized name, or the identifier if there is one. -/
  | tagged (name : String) (id : Option Uuid)
  /-- There is a tag. -/
  | hasTags
  /-- The document was created on a day in UTC. -/
  | createdOn (day : Day)
  /-- The creation of the document compares to an instant. -/
  | created (comparison : Comparison) (instant : Instant)
deriving DecidableEq, Repr

namespace Criterion

/-- The value that asks for any tag, in any ASCII case. -/
def asksForTags (value : String) : Bool :=
  Text.sameIgnoringAsciiCase (Text.trim value.toList) ['t', 'a', 'g', 's']

/-- The criterion of a date filter whose value names an instant. -/
def ofInstant (instant : Instant) : Operator → Criterion
  | .equal => .createdOn instant.day
  | .ordering comparison => .created comparison instant

/-- The criterion of a filter, or the reason why the filter is invalid. -/
def ofFilter (field : Field) (operator : Operator) (value : String) : Except Issue Criterion :=
  if !field.supports operator then .error (.unsupportedOperator field operator)
  else
    match field with
    | .tag => .ok (.tagged (normalizeTagName value) (tagIdentifier? value))
    | .name => .ok (.contains .name value)
    | .content => .ok (.contains .content value)
    | .created =>
        match instantOfValue? value with
        | some instant => .ok (ofInstant instant operator)
        | none => .error (.invalidDate value)
    | .has => if asksForTags value then .ok .hasTags else .error (.unsupportedHasValue value)

/-- Whether a tag has the normalized name, or the identifier if there is one. -/
def tagMatches (name : String) (id : Option Uuid) (tag : Tag) : Bool :=
  (match id with
    | some uuid => String.ofList (Text.lowercase tag.id.toList) == uuid.text
    | none => false) ||
    normalizeTagName tag.name == name

/-- Whether a document meets the criterion. -/
def holds (document : Document) : Criterion → Bool
  | contains place value =>
      match searchTerm? value with
      | some term => place.holds term document
      | none => false
  | tagged name id => document.tags.any (tagMatches name id)
  | hasTags => !document.tags.isEmpty
  | createdOn day => document.createdAt.day == day
  | created comparison instant => comparison.admits (document.createdAt.compare instant)

end Criterion

end SearchQuery
