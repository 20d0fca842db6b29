import SearchQuery.Config
import SearchQuery.Expression.Reader
import SearchQuery.Sql.Lowering

/-!
# The SQL compiler

A compiler is a schema that has passed validation, so every name it writes into
SQL is a plain identifier. `Compiler.compile` gives the Boolean fragment of an
expression, and `Compiler.statement` the statement that selects the identifiers
of matching documents. The statement compares the scope column itself, so no
negation in the fragment reaches the rows of another scope.
-/

namespace SearchQuery.Sql

/-- A compiled expression. -/
structure CompiledQuery where
  fragment : Fragment
  /-- The issues found, from left to right. -/
  issues : List Diagnostic
deriving DecidableEq, Repr

/-- A complete statement. -/
structure SearchStatement where
  sql : String
  params : List Param
  issues : List Diagnostic
deriving DecidableEq, Repr

/-- Whether a fragment is the constant that holds for every row. -/
def Fragment.isAlwaysTrue (fragment : Fragment) : Bool :=
  fragment.sql == "1"

/-- Whether a fragment is the constant that holds for no row. -/
def Fragment.isAlwaysFalse (fragment : Fragment) : Bool :=
  fragment.sql == "0"

/-- A schema fit for generating SQL. -/
structure Compiler where
  schema : Schema
  valid : schema.validate = .ok ()

namespace Compiler

/-- The compiler for a schema, or the reason why the schema cannot be used. -/
def ofSchema? (schema : Schema) : Except SchemaError Compiler :=
  match valid : schema.validate with
  | .ok () => .ok ⟨schema, valid⟩
  | .error error => .error error

/-- The compiler for a configuration, or the reason why its schema cannot be used. -/
def ofConfig? (config : Config) : Except SchemaError Compiler :=
  ofSchema? config.schema

/-- The compiler for the schema of standard names. -/
def standard : Compiler :=
  ⟨.standard, by rfl⟩

/-- Compile an expression within a scope. -/
def compile (compiler : Compiler) (expression : Expression) (scope : String) : CompiledQuery :=
  let lowered := expression.lower scope
  ⟨lowered.condition.fragment compiler.schema scope, lowered.issues.map (·.diagnostic)⟩

/-- Compile a query within a scope. -/
def compileQuery (compiler : Compiler) (query scope : String) : CompiledQuery :=
  compiler.compile (.ofQuery query) scope

/-- The statement that selects the rows of a scope for which a fragment holds. -/
def selectFragment (schema : Schema) (scope : String) (fragment : Fragment) : Fragment :=
  .concat ["SELECT d.", schema.name .documentIdColumn, " FROM ", schema.name .documentsTable,
    " AS d WHERE ", Leaf.inScope schema scope, " AND (", fragment, ")"]

/-- The statement that selects the identifiers of the documents of a scope that
match an expression. -/
def statement (compiler : Compiler) (expression : Expression) (scope : String) :
    SearchStatement :=
  let compiled := compiler.compile expression scope
  let selection := selectFragment compiler.schema scope compiled.fragment
  ⟨selection.sql, selection.params, compiled.issues⟩

end Compiler

end SearchQuery.Sql
