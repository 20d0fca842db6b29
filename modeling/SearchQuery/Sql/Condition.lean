import SearchQuery.Criterion
import SearchQuery.Sql.Fragment
import SearchQuery.Sql.Schema

/-!
# Conditions on the documents table

A condition is a Boolean formula over leaves, each of which asks one thing about a
row of the documents table. `Condition.fragment` writes a condition as SQL for a
schema and a scope: the table is called `d`, every list of operands and every
operand of NOT stands in parentheses, and every leaf compares a scope column with
the scope before anything else.
-/

namespace SearchQuery.Sql

open Calendar

/-- The full-text columns that a term is searched in. -/
def textColumns (schema : Schema) : TextPlace → List String
  | .name => [schema.name .ftsNameColumn]
  | .content => [schema.name .ftsContentColumn]
  | .nameOrContent => [schema.name .ftsNameColumn, schema.name .ftsContentColumn]

/-- One question about a row of the documents table. -/
inductive Leaf where
  /-- The full-text index has a word that starts with the term at the given place.
  The index is entered by the scope in the form of a term. -/
  | fullText (place : TextPlace) (scopeTerm term : String)
  /-- The row has a tag with the normalized name, or the identifier if there is one. -/
  | tagged (name : String) (id : Option Uuid)
  /-- The row has a tag. -/
  | hasTags
  /-- The row was created on a day. -/
  | createdOn (day : Day)
  /-- The creation of the row compares to an instant. -/
  | created (comparison : Comparison) (instant : Instant)
deriving DecidableEq, Repr

/-- A Boolean formula over leaves. -/
inductive Condition where
  | always
  | never
  | leaf (leaf : Leaf)
  | junction (connective : Connective) (operands : List Condition)
  | negation (operand : Condition)
deriving Repr, BEq

/-- The query in the language of the full-text index: the scope as a phrase in its
column, and the term as the start of a phrase in the columns of its place. -/
def matchQuery (schema : Schema) (place : TextPlace) (scopeTerm term : String) : String :=
  schema.name .ftsScopeColumn ++ ":\"" ++ scopeTerm ++ "\" \x7b" ++
    " ".intercalate (textColumns schema place) ++ "\x7d:\"" ++ term ++ "\"*"

namespace Leaf

/-- The comparison of the scope column of the documents table with the scope. -/
def inScope (schema : Schema) (scope : String) : Fragment :=
  .concat ["d.", schema.name .documentScopeColumn, " = ", .bind (.text scope)]

/-- The documents that have a tag in the scope, under a further condition on the
tag `t`, if there is one. -/
def tagMembership (schema : Schema) (scope : String) (further : Fragment) : Fragment :=
  .concat ["d.", schema.name .documentIdColumn, " IN (SELECT dt.",
    schema.name .documentTagsDocumentColumn, " FROM ", schema.name .documentTagsTable,
    " AS dt JOIN ", schema.name .tagsTable, " AS t ON t.", schema.name .tagIdColumn, " = dt.",
    schema.name .documentTagsTagColumn, " WHERE t.", schema.name .tagScopeColumn, " = ",
    .bind (.text scope), further, ")"]

/-- The SQL of a leaf. -/
def fragment (schema : Schema) (scope : String) : Leaf → Fragment
  | fullText place scopeTerm term =>
      .concat ["(", inScope schema scope, " AND d.", schema.name .documentIdColumn,
        " IN (SELECT ", schema.name .ftsDocumentIdColumn, " FROM ", schema.name .ftsTable,
        " WHERE ", schema.name .ftsTable, " MATCH ",
        .bind (.text (matchQuery schema place scopeTerm term)), "))"]
  | tagged name none =>
      tagMembership schema scope
        (.concat [" AND t.", schema.name .tagNameColumn, " = ", .bind (.text name)])
  | tagged name (some id) =>
      tagMembership schema scope
        (.concat [" AND (lower(t.", schema.name .tagIdColumn, ") = ", .bind (.text id.text),
          " OR t.", schema.name .tagNameColumn, " = ", .bind (.text name), ")"])
  | hasTags => tagMembership schema scope ""
  | createdOn day =>
      .concat ["(", inScope schema scope, " AND d.", schema.name .createdAtColumn, " >= ",
        .bind (.integer day.millisRange.1), " AND d.", schema.name .createdAtColumn, " < ",
        .bind (.integer day.millisRange.2), ")"]
  | created comparison instant =>
      .concat ["(", inScope schema scope, " AND d.", schema.name .createdAtColumn, " ",
        comparison.symbol, " ", .bind (.integer instant.millis), ")"]

end Leaf

namespace Condition

/-- Induction over conditions, with the hypothesis for every operand of a junction. -/
@[elab_as_elim]
theorem induction {motive : Condition → Prop} (always : motive .always) (never : motive .never)
    (leaf : ∀ question, motive (.leaf question))
    (junction : ∀ connective operands, (∀ operand ∈ operands, motive operand) →
      motive (.junction connective operands))
    (negation : ∀ operand, motive operand → motive (.negation operand)) (condition : Condition) :
    motive condition :=
  @Condition.rec motive (fun operands => ∀ operand ∈ operands, motive operand)
    always never leaf junction negation (by simp)
    (fun head tail headHolds tailHold => by
      simpa using ⟨headHolds, tailHold⟩) condition

/-- The SQL of a condition. -/
def fragment (schema : Schema) (scope : String) : Condition → Fragment
  | always => "1"
  | never => "0"
  | leaf question => question.fragment schema scope
  | junction connective operands =>
      .concat ["(", .separated (" " ++ connective.keyword ++ " ")
        (operands.map (fragment schema scope)), ")"]
  | negation operand => .concat ["NOT (", operand.fragment schema scope, ")"]

end Condition

end SearchQuery.Sql
