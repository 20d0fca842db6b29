import SearchQuery.Calendar.Timestamp
import SearchQuery.Document
import SearchQuery.Json.Value

/-!
# Documents as JSON

A document is a record with its time of creation as a timestamp. The tags may be
left out. Timestamps are read in the lenient format and written in UTC.
-/

namespace SearchQuery

open Calendar

/-- The tag with the given JSON form. -/
def Tag.ofJson? (json : Json) : Option Tag :=
  match json.fields? ["id", "name"] with
  | some [some id, some name] => do return ⟨← id.text?, ← name.text?⟩
  | _ => none

/-- The JSON form of a tag. -/
def Tag.toJson (tag : Tag) : Json :=
  .object [("id", .string tag.id), ("name", .string tag.name)]

namespace Document

/-- The tags of a document that may leave them out. -/
def tagsOfJson? : Option Json → Option (List Tag)
  | none => some []
  | some tags => tags.listOf? Tag.ofJson?

/-- The document with the given JSON form. -/
def ofJson? (json : Json) : Option Document :=
  match json.fields? ["id", "name", "content", "tags", "created_at"] with
  | some [some id, some name, some content, tags, some createdAt] => do
      return ⟨← id.text?, ← name.text?, ← content.text?, ← tagsOfJson? tags,
        ← Timestamp.readLenient? (← createdAt.text?).toList⟩
  | _ => none

/-- The JSON form of a document. -/
def toJson (document : Document) : Json :=
  .object [("id", .string document.id), ("name", .string document.name),
    ("content", .string document.content), ("tags", .array (document.tags.map Tag.toJson)),
    ("created_at", .string (Timestamp.write document.createdAt))]

end Document

end SearchQuery
