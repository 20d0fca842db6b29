/-!
# Schemas

A schema gives the names of the tables and columns that generated SQL refers to.
Names stand in the SQL text as they are, so each must be a plain identifier, and
the two full-text columns must be told apart. `Schema.validate` reports the first
setting, in the order of `Setting.all`, whose name is not an identifier.
-/

namespace SearchQuery.Sql

/-- What a schema gives a name to. -/
inductive Setting where
  | documentsTable
  | documentIdColumn
  | documentScopeColumn
  | createdAtColumn
  | ftsTable
  | ftsDocumentIdColumn
  | ftsScopeColumn
  | ftsNameColumn
  | ftsContentColumn
  | tagsTable
  | tagIdColumn
  | tagNameColumn
  | tagScopeColumn
  | documentTagsTable
  | documentTagsDocumentColumn
  | documentTagsTagColumn
deriving DecidableEq, Repr

namespace Setting

/-- Every setting, in the order of validation. -/
def all : List Setting :=
  [documentsTable, documentIdColumn, documentScopeColumn, createdAtColumn, ftsTable,
    ftsDocumentIdColumn, ftsScopeColumn, ftsNameColumn, ftsContentColumn, tagsTable, tagIdColumn,
    tagNameColumn, tagScopeColumn, documentTagsTable, documentTagsDocumentColumn,
    documentTagsTagColumn]

/-- The key of a setting in configuration and messages. -/
def key : Setting → String
  | documentsTable => "documents_table"
  | documentIdColumn => "document_id_column"
  | documentScopeColumn => "document_scope_column"
  | createdAtColumn => "created_at_column"
  | ftsTable => "fts_table"
  | ftsDocumentIdColumn => "fts_document_id_column"
  | ftsScopeColumn => "fts_scope_column"
  | ftsNameColumn => "fts_name_column"
  | ftsContentColumn => "fts_content_column"
  | tagsTable => "tags_table"
  | tagIdColumn => "tag_id_column"
  | tagNameColumn => "tag_name_column"
  | tagScopeColumn => "tag_scope_column"
  | documentTagsTable => "document_tags_table"
  | documentTagsDocumentColumn => "document_tags_document_column"
  | documentTagsTagColumn => "document_tags_tag_column"

/-- The name that a setting has unless another is configured. -/
def standardName : Setting → String
  | documentsTable => "documents"
  | documentIdColumn => "id"
  | documentScopeColumn => "organization_id"
  | createdAtColumn => "created_at"
  | ftsTable => "documents_fts"
  | ftsDocumentIdColumn => "document_id"
  | ftsScopeColumn => "organization_id"
  | ftsNameColumn => "name"
  | ftsContentColumn => "content"
  | tagsTable => "tags"
  | tagIdColumn => "id"
  | tagNameColumn => "normalized_name"
  | tagScopeColumn => "organization_id"
  | documentTagsTable => "document_tags"
  | documentTagsDocumentColumn => "document_id"
  | documentTagsTagColumn => "tag_id"

/-- The place of a setting among all settings. -/
def position (setting : Setting) : Nat :=
  all.idxOf setting

theorem mem_all (setting : Setting) : setting ∈ all := by
  cases setting <;> simp [all]

end Setting

/-- The names of tables and columns. -/
structure Schema where
  name : Setting → String

/-- Why a schema cannot be used. -/
inductive SchemaError where
  /-- The name is not a plain identifier. -/
  | invalidIdentifier (setting : Setting) (name : String)
  /-- Name and content share one full-text column. -/
  | sameTextColumns
deriving DecidableEq, Repr

/-- The wording of a schema error. -/
def SchemaError.message : SchemaError → String
  | invalidIdentifier setting name =>
      "Invalid SQL identifier for " ++ setting.key ++ ": '" ++ name ++ "'"
  | sameTextColumns => "Config error: fts_name_column and fts_content_column must differ"

/-- Whether a character may start an identifier. -/
def isIdentifierStart (c : Char) : Bool :=
  c.isAlpha || c == '_'

/-- Whether a character may stand in an identifier. -/
def isIdentifierChar (c : Char) : Bool :=
  c.isAlphanum || c == '_'

/-- Whether a name is a plain identifier: ASCII letters, digits and underscores,
with no digit in front and at least one character. -/
def isIdentifier (name : String) : Bool :=
  match name.toList with
  | [] => false
  | c :: rest => isIdentifierStart c && rest.all isIdentifierChar

theorem isIdentifier_iff {name : String} :
    isIdentifier name = true ↔ ∃ c rest, name.toList = c :: rest ∧
      isIdentifierStart c = true ∧ rest.all isIdentifierChar = true := by
  unfold isIdentifier
  split
  · next empty => simp [empty]
  · next c rest nonempty =>
      rw [nonempty, Bool.and_eq_true]
      constructor
      · intro parts
        exact ⟨c, rest, rfl, parts⟩
      · rintro ⟨_, _, same, parts⟩
        cases same
        exact parts

/-- Every character of an identifier may stand in an identifier. -/
theorem isIdentifierChar_of_mem {name : String} (identifier : isIdentifier name = true) {c : Char}
    (mem : c ∈ name.toList) : isIdentifierChar c = true := by
  obtain ⟨first, rest, whole, start, others⟩ := isIdentifier_iff.mp identifier
  rw [whole, List.mem_cons] at mem
  rcases mem with rfl | mem
  · rw [isIdentifierStart, Bool.or_eq_true] at start
    rw [isIdentifierChar, Char.isAlphanum, Bool.or_eq_true, Bool.or_eq_true]
    exact start.imp .inl id
  · exact List.all_eq_true.mp others c mem

namespace Schema

/-- The schema of standard names. -/
def standard : Schema :=
  ⟨Setting.standardName⟩

/-- The schema that takes the configured names and standard names elsewhere. -/
def ofConfigured (configured : Setting → Option String) : Schema :=
  ⟨fun setting => (configured setting).getD setting.standardName⟩

/-- The schema that takes the names found among configured values, where `asName`
says which values are names. A value that is no name spoils the whole. -/
def ofValues? {α : Type} (asName : α → Option String) (value? : Setting → Option α) :
    Option Schema :=
  if Setting.all.all fun setting => (value? setting).all fun value => (asName value).isSome then
    some (ofConfigured fun setting => (value? setting).bind asName)
  else none

/-- Report why a schema cannot be used, if it cannot. -/
def validate (schema : Schema) : Except SchemaError Unit :=
  match Setting.all.find? fun setting => !isIdentifier (schema.name setting) with
  | some setting => .error (.invalidIdentifier setting (schema.name setting))
  | none =>
      if schema.name .ftsNameColumn = schema.name .ftsContentColumn then .error .sameTextColumns
      else .ok ()

/-- The names of a schema that passes validation are identifiers. -/
theorem isIdentifier_name {schema : Schema} (valid : schema.validate = .ok ())
    (setting : Setting) : isIdentifier (schema.name setting) = true := by
  unfold validate at valid
  split at valid
  · contradiction
  · next allValid =>
      rw [List.find?_eq_none] at allValid
      simpa using allValid setting (Setting.mem_all setting)

end Schema

end SearchQuery.Sql
