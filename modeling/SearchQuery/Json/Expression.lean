import SearchQuery.Expression
import SearchQuery.Json.Value

/-!
# Expressions as JSON

An expression is an object with its kind under `type` and its contents under the
names of `ExpressionKind.fieldNames`, or an array of the kind and the contents in
that order. Below the outermost expression the kind may also be given by its number
in `ExpressionKind.all`.
-/

namespace SearchQuery

/-- The kinds of expressions. -/
inductive ExpressionKind where
  | empty
  | text
  | filter
  | and
  | or
  | not
deriving DecidableEq, Repr

namespace ExpressionKind

/-- Every kind, in the order of numbering. -/
def all : List ExpressionKind :=
  [empty, text, filter, and, or, not]

/-- The name of a kind. -/
def name : ExpressionKind → String
  | empty => "empty"
  | text => "text"
  | filter => "filter"
  | and => "and"
  | or => "or"
  | not => "not"

/-- The names of what an expression of a kind contains. -/
def fieldNames : ExpressionKind → List String
  | empty => []
  | text => ["value"]
  | filter => ["field", "operator", "value"]
  | and => ["operands"]
  | or => ["operands"]
  | not => ["operand"]

/-- The kind that a value gives; only a nested expression may give it by number. -/
def ofJson? (nested : Bool) : Json → Option ExpressionKind
  | .string name => all.find? fun kind => kind.name == name
  | .integer number => if nested && 0 ≤ number then all[number.toNat]? else none
  | _ => none

/-- The kind of an expression and its contents, each of which may be missing. -/
def split? (nested : Bool) : Json → Option (ExpressionKind × List (Option Json))
  | .object members =>
      ((List.lookup "type" members).bind (ofJson? nested)).bind fun kind =>
        ((Json.object members).fields? kind.fieldNames).map fun values => (kind, values)
  | .array (tag :: contents) =>
      (ofJson? nested tag).bind fun kind =>
        ((Json.array contents).fields? kind.fieldNames).map fun values => (kind, values)
  | _ => none

/-- The contents of an expression are smaller than the expression. -/
theorem sizeOf_lt_of_split? {nested : Bool} {json value : Json} {kind : ExpressionKind}
    {values : List (Option Json)} (found : split? nested json = some (kind, values))
    (valueMem : some value ∈ values) : sizeOf value < sizeOf json := by
  unfold split? at found
  split at found
  · obtain ⟨_, _, rest⟩ := Option.bind_eq_some_iff.mp found
    obtain ⟨_, fields, pairs⟩ := Option.map_eq_some_iff.mp rest
    cases pairs
    exact Json.sizeOf_lt_of_fields? fields valueMem
  · obtain ⟨_, _, rest⟩ := Option.bind_eq_some_iff.mp found
    obtain ⟨_, fields, pairs⟩ := Option.map_eq_some_iff.mp rest
    cases pairs
    have := Json.sizeOf_lt_of_fields? fields valueMem
    simp only [Json.array.sizeOf_spec, List.cons.sizeOf_spec] at this ⊢
    omega
  · simp at found

end ExpressionKind

/-- The field that a value names. -/
def Field.ofJson? (isEmpty : Json → Bool) (value : Json) : Option Field :=
  (value.caseName? isEmpty).bind fun name => Field.all.find? fun field => field.text == name

/-- The operator that a value names. -/
def Operator.ofJson? (isEmpty : Json → Bool) (value : Json) : Option Operator :=
  (value.caseName? isEmpty).bind Operator.ofSymbol?

namespace Expression

/-- The JSON form of an expression. -/
def toJson : Expression → Json
  | .empty => .object [("type", .string "empty")]
  | .text value => .object [("type", .string "text"), ("value", .string value)]
  | .filter field operator value =>
      .object [("type", .string "filter"), ("field", .string field.text),
        ("operator", .string operator.symbol), ("value", .string value)]
  | .and operands =>
      .object [("type", .string "and"), ("operands", .array (operands.map toJson))]
  | .or operands =>
      .object [("type", .string "or"), ("operands", .array (operands.map toJson))]
  | .not operand => .object [("type", .string "not"), ("operand", operand.toJson)]

/-- The expression with the given JSON form. -/
def ofNestedJson? (nested : Bool) (json : Json) : Option Expression :=
  match _found : ExpressionKind.split? nested json with
  | some (.empty, _) => some .empty
  | some (.text, [some value]) => value.text?.map .text
  | some (.filter, [some field, some operator, some value]) => do
      return .filter (← Field.ofJson? Json.isNullOrBare field)
        (← Operator.ofJson? Json.isNullOrBare operator) (← value.text?)
  | some (.and, [some (.array operands)]) =>
      (operands.attach.mapM fun operand => ofNestedJson? true operand.val).map .and
  | some (.or, [some (.array operands)]) =>
      (operands.attach.mapM fun operand => ofNestedJson? true operand.val).map .or
  | some (.not, [some operand]) => (ofNestedJson? true operand).map .not
  | _ => none
termination_by sizeOf json
decreasing_by
  · have whole := ExpressionKind.sizeOf_lt_of_split? _found List.mem_cons_self
    have part := List.sizeOf_lt_of_mem operand.property
    simp only [Json.array.sizeOf_spec] at whole
    omega
  · have whole := ExpressionKind.sizeOf_lt_of_split? _found List.mem_cons_self
    have part := List.sizeOf_lt_of_mem operand.property
    simp only [Json.array.sizeOf_spec] at whole
    omega
  · exact ExpressionKind.sizeOf_lt_of_split? _found List.mem_cons_self

/-- The expression with the given JSON form, which stands in no other. -/
def ofJson? (json : Json) : Option Expression :=
  ofNestedJson? false json

end Expression

end SearchQuery
