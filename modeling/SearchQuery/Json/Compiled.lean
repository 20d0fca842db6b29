import SearchQuery.Json.Value
import SearchQuery.Sql.Compiler

/-!
# Compiled queries as JSON

Parameters are strings and integers of 64 bits; diagnostics are records of a message
and a code; compiled queries and statements are records of these.
-/

namespace SearchQuery

/-- The code that a value names. -/
def IssueCode.ofJson? (value : Json) : Option IssueCode :=
  (value.caseName? Json.isNull).bind IssueCode.ofText?

/-- The diagnostic with the given JSON form. -/
def Diagnostic.ofJson? (json : Json) : Option Diagnostic :=
  match json.fields? ["message", "code"] with
  | some [some message, some code] => do return ⟨← IssueCode.ofJson? code, ← message.text?⟩
  | _ => none

/-- The JSON form of a diagnostic. -/
def Diagnostic.toJson (diagnostic : Diagnostic) : Json :=
  .object [("message", .string diagnostic.message), ("code", .string diagnostic.code.text)]

namespace Sql

/-- The parameter with the given JSON form. -/
def Param.ofJson? (json : Json) : Option Param :=
  match json with
  | .string value => some (.text value)
  | other => other.integer64?.map .integer

/-- The JSON form of a parameter. -/
def Param.toJson : Param → Json
  | .text value => .string value
  | .integer value => .integer value

/-- The fragment with the given JSON form. -/
def Fragment.ofJson? (json : Json) : Option Fragment :=
  match json.fields? ["sql", "params"] with
  | some [some sql, some params] => do return ⟨← sql.text?, ← params.listOf? Param.ofJson?⟩
  | _ => none

/-- The JSON form of a fragment. -/
def Fragment.toJson (fragment : Fragment) : Json :=
  .object [("sql", .string fragment.sql), ("params", .array (fragment.params.map Param.toJson))]

/-- The compiled query with the given JSON form. -/
def CompiledQuery.ofJson? (json : Json) : Option CompiledQuery :=
  match json.fields? ["fragment", "issues"] with
  | some [some fragment, some issues] => do
      return ⟨← Fragment.ofJson? fragment, ← issues.listOf? Diagnostic.ofJson?⟩
  | _ => none

/-- The JSON form of a compiled query. -/
def CompiledQuery.toJson (compiled : CompiledQuery) : Json :=
  .object [("fragment", compiled.fragment.toJson),
    ("issues", .array (compiled.issues.map Diagnostic.toJson))]

/-- The statement with the given JSON form. -/
def SearchStatement.ofJson? (json : Json) : Option SearchStatement :=
  match json.fields? ["sql", "params", "issues"] with
  | some [some sql, some params, some issues] => do
      return ⟨← sql.text?, ← params.listOf? Param.ofJson?, ← issues.listOf? Diagnostic.ofJson?⟩
  | _ => none

/-- The JSON form of a statement. -/
def SearchStatement.toJson (statement : SearchStatement) : Json :=
  .object [("sql", .string statement.sql),
    ("params", .array (statement.params.map Param.toJson)),
    ("issues", .array (statement.issues.map Diagnostic.toJson))]

end Sql

end SearchQuery
