import SearchQuery.Proofs.Evaluation
import SearchQuery.Proofs.Sql.Lowering
import SearchQuery.Proofs.Text.Lowercase
import SearchQuery.Proofs.Uuid

/-!
# Tag filters in SQL and in evaluation

A store keeps the identifier of a tag as it is, and its name in the form in which names are
compared. SQL compares the kept name, and for a value that spells an identifier it folds
the kept identifier by the `lower` function of the database, which changes ASCII letters
only. Evaluation folds it by the full mapping to lower case. The two agree all the same,
because the text of an identifier is made of hexadecimal digits and hyphens.
-/

namespace SearchQuery

/-! ## The text of an identifier -/

namespace Uuid

theorem isLow_hexChar : ∀ digit : Fin 16, Text.IsLow (Text.hexChar digit) := by
  decide

theorem isLow_of_mem_text {uuid : Uuid} {c : Char} (mem : c ∈ uuid.text.toList) :
    Text.IsLow c :=
  forall_mem_text (by decide) isLow_hexChar uuid c mem

end Uuid

/-- Every value of a tag filter is accepted. -/
theorem Criterion.ofFilter_tag (value : String) :
    ofFilter .tag .equal value = .ok (.tagged (normalizeTagName value) (tagIdentifier? value)) :=
  rfl

namespace Sql

/-! ## The tags table -/

/-- What a store keeps of a tag. -/
structure StoredTag where
  id : String
  normalizedName : String
deriving DecidableEq, Repr

/-- A tag as a store keeps it. -/
def StoredTag.ofTag (tag : Tag) : StoredTag :=
  ⟨tag.id, normalizeTagName tag.name⟩

/-- The function `lower` of a database changes ASCII letters to lower case and leaves all
other characters as they are. -/
def LowersAscii (lower : String → String) : Prop :=
  ∀ text, lower text = String.ofList (text.toList.map Char.toLower)

/-- What SQL asks of a row of the tags table, with the parameters in the order of their
placeholders. -/
inductive TagTest where
  | nameIs (name : String)
  | idOrNameIs (id name : String)
deriving DecidableEq, Repr

namespace TagTest

/-- The SQL of a test on the row `t`. -/
def sql (schema : Schema) : TagTest → String
  | nameIs _ => "t." ++ schema.name .tagNameColumn ++ " = ?"
  | idOrNameIs _ _ =>
      "(lower(t." ++ schema.name .tagIdColumn ++ ") = ? OR t." ++ schema.name .tagNameColumn ++
        " = ?)"

/-- The parameters of a test. -/
def params : TagTest → List Param
  | nameIs name => [.text name]
  | idOrNameIs id name => [.text id, .text name]

/-- Whether a row passes a test in a database with the given function `lower`. -/
def Passes (lower : String → String) (row : StoredTag) : TagTest → Prop
  | nameIs name => row.normalizedName = name
  | idOrNameIs id name => lower row.id = id ∨ row.normalizedName = name

/-- The test for a normalized name, or for an identifier if there is one. -/
def ofNameAndId (name : String) : Option Uuid → TagTest
  | none => nameIs name
  | some id => idOrNameIs id.text name

end TagTest

/-- The SQL of a leaf on tags, up to the comparison of the scope. -/
def tagSelectionSql (schema : Schema) : String :=
  String.join ["d.", schema.name .documentIdColumn, " IN (SELECT dt.",
    schema.name .documentTagsDocumentColumn, " FROM ", schema.name .documentTagsTable,
    " AS dt JOIN ", schema.name .tagsTable, " AS t ON t.", schema.name .tagIdColumn, " = dt.",
    schema.name .documentTagsTagColumn, " WHERE t.", schema.name .tagScopeColumn, " = ?"]

theorem Leaf.tagMembership_eq (schema : Schema) (scope : String) (further : Fragment) :
    tagMembership schema scope further =
      ⟨tagSelectionSql schema ++ further.sql ++ ")", .text scope :: further.params⟩ := by
  rw [Fragment.mk.injEq]
  constructor
  · rw [← String.toList_inj]
    simp [tagMembership, tagSelectionSql]
  · simp [tagMembership]

theorem Leaf.fragment_tagged (schema : Schema) (scope name : String) (id : Option Uuid) :
    let test := TagTest.ofNameAndId name id
    (tagged name id).fragment schema scope =
      ⟨tagSelectionSql schema ++ (" AND " ++ test.sql schema) ++ ")",
        .text scope :: test.params⟩ := by
  cases id with
  | none | some id =>
      rw [fragment, tagMembership_eq, Fragment.mk.injEq]
      refine ⟨?_, rfl⟩
      congr 2
      rw [← String.toList_inj]
      simp [TagTest.ofNameAndId, TagTest.sql]

/-- A stored identifier is folded to the text of an identifier by a database exactly when
it is by the full mapping to lower case. -/
theorem lower_eq_text_iff {lower : String → String} (lowersAscii : LowersAscii lower)
    (id : String) (uuid : Uuid) :
    lower id = uuid.text ↔ String.ofList (Text.lowercase id.toList) = uuid.text := by
  rw [lowersAscii, ← String.toList_inj, ← String.toList_inj, String.toList_ofList,
    String.toList_ofList]
  exact (Text.lowercase_eq_iff fun _ => Uuid.isLow_of_mem_text).symm

/-- A stored tag passes the test of a filter exactly when evaluation finds the tag. -/
theorem passes_ofNameAndId_iff {lower : String → String} (lowersAscii : LowersAscii lower)
    (tag : Tag) (name : String) (id : Option Uuid) :
    (TagTest.ofNameAndId name id).Passes lower (.ofTag tag) ↔
      Criterion.tagMatches name id tag = true := by
  cases id with
  | none => simp [TagTest.ofNameAndId, TagTest.Passes, StoredTag.ofTag, Criterion.tagMatches]
  | some uuid =>
      rw [TagTest.ofNameAndId, TagTest.Passes, StoredTag.ofTag, lower_eq_text_iff lowersAscii]
      simp [Criterion.tagMatches]

/-- SQL asks for one tag that passes a test, which is the name alone or the folded
identifier and the name in this order. A document matches the filter in evaluation exactly
when one of its tags passes that test as it is stored. -/
theorem Compiler.tag_filter_agrees (compiler : Compiler) {lower : String → String}
    (lowersAscii : LowersAscii lower) (value scope : String) (document : Document) :
    let clause := Expression.filter .tag .equal value
    ∃ test : TagTest,
      (compiler.compile clause scope).fragment =
          ⟨tagSelectionSql compiler.schema ++ (" AND " ++ test.sql compiler.schema) ++ ")",
            .text scope :: test.params⟩ ∧
        (clause.matchesDocument document = true ↔
          ∃ tag ∈ document.tags, test.Passes lower (.ofTag tag)) := by
  intro clause
  have valid := Criterion.ofFilter_tag value
  refine ⟨.ofNameAndId (normalizeTagName value) (tagIdentifier? value), ?_, ?_⟩
  · rw [← Leaf.fragment_tagged]
    exact compiler.fragment_compile_filter scope valid rfl
  · rw [Expression.matchesDocument_filter valid, Criterion.holds, List.any_eq_true]
    simp only [passes_ofNameAndId_iff lowersAscii]

/-- A tag is found by its identifier, which the filter spells in braces and the store keeps
in upper case, in a database that folds ASCII letters. -/
theorem Compiler.tag_filter_agrees_on_identifier :
    let lower := fun text : String => String.ofList (text.toList.map Char.toLower)
    let value := " \x7b3f2b8c1e-9d4a-4b7e-8c6f-1a2b3c4d5e6f\x7d "
    let clause := Expression.filter .tag .equal value
    let tag : Tag := ⟨"3F2B8C1E-9D4A-4B7E-8C6F-1A2B3C4D5E6F", "cooking"⟩
    let document : Document := ⟨"doc", "Plan", "flour", [tag], ⟨0, 0, by decide⟩⟩
    LowersAscii lower ∧
      ∃ test : TagTest,
        (standard.compile clause "org_1").fragment.params = .text "org_1" :: test.params ∧
          clause.matchesDocument document = true ∧ test.Passes lower (.ofTag tag) := by
  intro lower value clause tag document
  have lowersAscii : LowersAscii lower := fun _ => rfl
  obtain ⟨test, compiled, agrees⟩ :=
    standard.tag_filter_agrees lowersAscii value "org_1" document
  have valid := Criterion.ofFilter_tag value
  have matched : clause.matchesDocument document = true := by
    rw [Expression.matchesDocument_filter valid]
    decide +kernel
  obtain ⟨found, mem, passes⟩ := agrees.mp matched
  rw [List.mem_singleton.mp mem] at passes
  refine ⟨lowersAscii, test, ?_, matched, passes⟩
  rw [compiled]

end Sql

end SearchQuery
