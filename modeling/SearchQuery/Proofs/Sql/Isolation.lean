import SearchQuery.Proofs.Sql.Rendering

/-!
# Rows of other scopes are out of reach

Two things keep the rows of one scope from the queries of another.

- Every leaf of a fragment compares a scope column with the scope before it compares
  anything else. `IsScoped` builds fragments together with the items read from them,
  and a leaf enters only with this comparison in front (`ScopeFirst`).
- The condition of a statement is the comparison of the scope column of the documents
  table, joined by AND with the fragment as one group. So neither a negation nor an OR
  in the fragment can undo the comparison.

Both are properties of the text as it is read back, and of the parameters that its
placeholders then take.
-/

namespace SearchQuery.Sql

open Grammar

/-! ## The scope in leaves -/

/-- The words and values of an item in the order of the text. -/
def Grammar.Item.elements : Item → List Item
  | .group items => items.flatMap Item.elements
  | item => [item]

/-- Before any other placeholder stands the comparison of a scope column, that of the
documents or that of the tags, and the value bound to it is the scope. -/
def ScopeFirst (schema : Schema) (scope : String) (items : List Item) : Prop :=
  ∃ before column after,
    items.flatMap Item.elements = words before ++ Leaf.scopeComparison column scope ++ after ∧
      (column = "d." ++ schema.name .documentScopeColumn ∨
        column = "t." ++ schema.name .tagScopeColumn)

/-- A fragment built from constants, leaves within the scope, junctions of two and more
operands, and negations; and the items that are read from it. -/
inductive IsScoped (schema : Schema) (scope : String) : Fragment → List Item → Prop
  | always : IsScoped schema scope "1" [.word ['1']]
  | never : IsScoped schema scope "0" [.word ['0']]
  | leaf (question : Leaf)
      (reads : (question.fragment schema scope).Reads (question.items schema scope))
      (first : ScopeFirst schema scope (question.items schema scope)) :
      IsScoped schema scope (question.fragment schema scope) (question.items schema scope)
  | junction (connective : Connective) (operands : List (Fragment × List Item))
      (two : 2 ≤ operands.length)
      (each : ∀ operand ∈ operands, IsScoped schema scope operand.1 operand.2) :
      IsScoped schema scope
        (.concat ["(", .separated (" " ++ connective.keyword ++ " ") (operands.map (·.1)), ")"])
        [.group (joined connective (operands.map (·.2)))]
  | negation {operand : Fragment} {items : List Item}
      (inside : IsScoped schema scope operand items) :
      IsScoped schema scope (.concat ["NOT (", operand, ")"]) [.word ['N', 'O', 'T'], .group items]

theorem Grammar.words_append (first second : List String) :
    words (first ++ second) = words first ++ words second :=
  List.map_append

@[simp]
theorem Grammar.elements_words (texts : List String) :
    (words texts).flatMap Item.elements = words texts := by
  induction texts with
  | nil => rfl
  | cons text texts ih =>
      rw [words, List.map_cons, List.flatMap_cons, Item.elements]
      · exact congrArg (Item.word text.toList :: ·) ih
      · simp

@[simp]
theorem Leaf.elements_scopeComparison (column scope : String) :
    (scopeComparison column scope).flatMap Item.elements = scopeComparison column scope := by
  rw [scopeComparison, List.flatMap_append, elements_words]
  simp [Item.elements]

section Leaves

variable {schema : Schema} (valid : schema.validate = .ok ()) (scope : String)

/-- A group that starts with the scope comparison of the documents has it in front. -/
theorem Leaf.scopeFirst_group (further : List Item) :
    ScopeFirst schema scope [.group (scopeItems schema scope ++ further)] := by
  refine ⟨[], _, further.flatMap Item.elements, ?_, .inl rfl⟩
  rw [List.flatMap_singleton, Item.elements, List.flatMap_append, scopeItems,
    elements_scopeComparison]
  rfl

/-- A tag sub-query has the scope comparison of the tags in front. -/
theorem Leaf.scopeFirst_tagItems (further : List Item) :
    ScopeFirst schema scope (tagItems schema scope further) := by
  rw [ScopeFirst, tagItems, List.flatMap_append, elements_words, List.flatMap_singleton,
    Item.elements, List.flatMap_append, List.flatMap_append, elements_words,
    elements_scopeComparison, ← List.append_assoc, ← List.append_assoc, ← words_append]
  exact ⟨_, _, _, rfl, .inr rfl⟩

/-- Every leaf has a scope comparison in front. -/
theorem Leaf.scopeFirst_items (leaf : Leaf) :
    ScopeFirst schema scope (leaf.items schema scope) := by
  cases leaf with
  | fullText _ _ _ | createdOn _ | created _ _ =>
      simp only [items, List.append_assoc]
      exact scopeFirst_group scope _
  | hasTags => exact scopeFirst_tagItems scope _
  | tagged _ id =>
      cases id with
      | none => exact scopeFirst_tagItems scope _
      | some _ => exact scopeFirst_tagItems scope _

include valid in
/-- Proper conditions are written and read within the scope. -/
theorem Condition.isScoped {condition : Condition} (proper : condition.IsProper) :
    IsScoped schema scope (condition.fragment schema scope) (condition.items schema scope) := by
  induction proper with
  | always =>
      rw [fragment, items]
      exact .always
  | never =>
      rw [fragment, items]
      exact .never
  | leaf question =>
      rw [fragment, items]
      exact .leaf question (question.reads_fragment valid scope) (question.scopeFirst_items scope)
  | @junction connective operands two proper ih =>
      let written := operands.map fun operand =>
        (operand.fragment schema scope, operand.items schema scope)
      have each : ∀ operand ∈ written, IsScoped schema scope operand.1 operand.2 := by
        intro pair mem
        obtain ⟨operand, operandMem, rfl⟩ := List.mem_map.mp mem
        exact ih operand operandMem
      have built := IsScoped.junction connective written (by rwa [List.length_map]) each
      rw [List.map_map, List.map_map] at built
      rw [fragment, items]
      exact built
  | negation proper ih =>
      rw [fragment, items]
      exact .negation ih

end Leaves

/-! ## The scope in statements -/

namespace Compiler

/-- The items of a statement up to its condition. -/
def selectionItems (schema : Schema) : List Item :=
  words ["SELECT", "d." ++ schema.name .documentIdColumn, "FROM", schema.name .documentsTable,
    "AS", "d", "WHERE"]

/-- The items of the condition of a statement: the comparison of the scope column, and
a fragment as one group. -/
def conditionItems (schema : Schema) (scope : String) (items : List Item) : List Item :=
  joined .and [Leaf.scopeItems schema scope, [.group items]]

end Compiler

section Statements

variable {schema : Schema} (valid : schema.validate = .ok ()) (scope : String)

include valid in
theorem Compiler.reads_selection :
    (Fragment.concat ["SELECT d.", schema.name .documentIdColumn, " FROM ",
      schema.name .documentsTable, " AS d WHERE"]).Reads (selectionItems schema) := by
  intro enclosing current rest
  simp [selectionItems, words, symbols, scan, boundary?, scan_name valid, withWord_name valid,
    State.run, State.step]

include valid in
/-- A statement is read as the selection followed by its condition. -/
theorem Compiler.reads_selectFragment {fragment : Fragment} {items : List Item}
    (reads : fragment.Reads items) :
    (selectFragment schema scope fragment).Reads
      (selectionItems schema ++ conditionItems schema scope items) := by
  have condition : (Fragment.separated (" " ++ Connective.and.keyword ++ " ")
      [Leaf.inScope schema scope, .concat ["(", fragment, ")"]]).Reads
        (conditionItems schema scope items) :=
    reads_separated .and
      (.cons (Leaf.reads_inScope valid scope) (.cons (reads_parenthesized reads) .nil))
  have whole := reads_spaced (reads_selection valid) condition
  unfold Fragment.Reads at whole ⊢
  simpa [selectFragment, Leaf.inScope, Connective.keyword] using whole

end Statements

theorem Leaf.isOperand_scopeItems (schema : Schema) (scope : String) :
    IsOperand (scopeItems schema scope) := by
  apply isOperand_comparison
  · intro connective
    cases connective <;> rfl
  · intro connective
    rfl

/-- The comparison with the scope is elementary. -/
theorem Leaf.truth_scopeItems (schema : Schema) (scope : String)
    (comparison : List Item → Bool) :
    truth comparison (scopeItems schema scope) = comparison (scopeItems schema scope) := by
  rw [truth_of_isOperand comparison (isOperand_scopeItems schema scope)]
  simp [scopeItems, scopeComparison, words, operandTruth]

/-- The condition of a statement holds if the comparison with the scope does and the
fragment does, taken whole. -/
theorem Compiler.truth_conditionItems (schema : Schema) (scope : String)
    (comparison : List Item → Bool) (items : List Item) :
    truth comparison (conditionItems schema scope items) =
      (comparison (Leaf.scopeItems schema scope) && truth comparison items) := by
  rw [conditionItems, truth_joined comparison .and (List.cons_ne_nil _ _)]
  · rw [List.map_cons, List.map_singleton, Leaf.truth_scopeItems, truth_group, Connective.value]
    simp
  · intro operand mem
    rw [List.mem_cons, List.mem_singleton] at mem
    rcases mem with rfl | rfl
    · exact Leaf.isOperand_scopeItems schema scope
    · exact isOperand_group items

/-- The text of a statement is that of its fragment in parentheses, after a comparison
of the scope column whose parameter stands before those of the fragment. -/
theorem Compiler.statement_eq (compiler : Compiler) (expression : Expression) (scope : String) :
    (compiler.statement expression scope).sql =
        "SELECT d." ++ compiler.schema.name .documentIdColumn ++ " FROM " ++
          compiler.schema.name .documentsTable ++ " AS d WHERE d." ++
          compiler.schema.name .documentScopeColumn ++ " = ? AND (" ++
          (compiler.compile expression scope).fragment.sql ++ ")" ∧
      (compiler.statement expression scope).params =
        .text scope :: (compiler.compile expression scope).fragment.params := by
  constructor
  · rw [← String.toList_inj]
    simp [statement, selectFragment, Leaf.inScope]
  · simp [statement, selectFragment, Leaf.inScope]

/-- No query reaches the rows of another scope.

- The fragment is built from constants, leaves that compare a scope column with the
  scope first, junctions and negations; it is read as it is built, and its parentheses
  are balanced.
- The statement is read as the selection under a condition that joins the comparison
  of the scope column with the whole fragment by AND.
- So a row for which this comparison fails is not selected, whatever the other
  comparisons are. -/
theorem Compiler.statement_within_scope (compiler : Compiler) (expression : Expression)
    (scope : String) :
    let schema := compiler.schema
    let fragment := (compiler.compile expression scope).fragment
    let statement := compiler.statement expression scope
    ∃ items, fragment.items? = some items ∧ IsScoped schema scope fragment items ∧
      Balanced fragment.sql.toList ∧
      statement.sql = "SELECT d." ++ schema.name .documentIdColumn ++ " FROM " ++
        schema.name .documentsTable ++ " AS d WHERE d." ++ schema.name .documentScopeColumn ++
        " = ? AND (" ++ fragment.sql ++ ")" ∧
      statement.params = .text scope :: fragment.params ∧
      Fragment.items? ⟨statement.sql, statement.params⟩ =
        some (selectionItems schema ++ conditionItems schema scope items) ∧
      ∀ comparison,
        truth comparison (conditionItems schema scope items) =
            (comparison (Leaf.scopeItems schema scope) && truth comparison items) ∧
          (comparison (Leaf.scopeItems schema scope) = false →
            truth comparison (conditionItems schema scope items) = false) := by
  intro schema fragment statement
  have proper := Expression.isProper_lower scope expression
  have reads := (expression.lower scope).condition.reads_fragment compiler.valid scope
  have text := compiler.statement_eq expression scope
  refine ⟨_, reads.items?_eq_some, Condition.isScoped compiler.valid scope proper,
    Fragment.balanced_of_items?_eq_some reads.items?_eq_some, text.1, text.2, ?_, ?_⟩
  · exact (reads_selectFragment compiler.valid scope reads).items?_eq_some
  · intro comparison
    have conjunction := truth_conditionItems schema scope comparison
      ((expression.lower scope).condition.items schema scope)
    refine ⟨conjunction, ?_⟩
    intro foreign
    rw [conjunction, foreign, Bool.false_and]

/-- A row of another scope, for which no comparison holds, satisfies the fragment of a
negation, and yet it does not satisfy the condition of the statement. -/
theorem Compiler.statement_within_scope_below_negation :
    let expression := Expression.not (.filter .has .equal "tags")
    let comparison : List Item → Bool := fun _ => false
    comparison (Leaf.scopeItems standard.schema "org_1") = false ∧
      ∃ items, (standard.compile expression "org_1").fragment.items? = some items ∧
        truth comparison items = true ∧
        truth comparison (conditionItems standard.schema "org_1" items) = false := by
  intro expression comparison
  have asks : Criterion.ofFilter .has .equal "tags" = .ok .hasTags := rfl
  have lowered : (expression.lower "org_1").condition = .negation (.leaf .hasTags) := by
    have chain := Expression.lower_negate "org_1"
      (Expression.isChainBase_filter .has .equal "tags") 1
    rw [Expression.lower_filter_of_ok "org_1" asks] at chain
    exact congrArg Lowered.condition chain
  have untagged : truth comparison (Leaf.items standard.schema "org_1" .hasTags) = false := by
    rw [truth_of_isOperand comparison (Leaf.isOperand_items "org_1" .hasTags)]
    simp [comparison, Leaf.items, Leaf.tagItems, words, operandTruth]
  have satisfied : (standard.compile expression "org_1").fragment.truth? comparison =
      some true := by
    rw [compile, Condition.truth?_fragment standard.valid "org_1" comparison
      (Expression.isProper_lower "org_1" expression), lowered, Condition.eval_negation,
      Condition.eval_leaf, untagged]
    rfl
  obtain ⟨items, read, _, _, _, _, _, selected⟩ :=
    statement_within_scope standard expression "org_1"
  rw [Fragment.truth?, read, Option.map_some, Option.some_inj] at satisfied
  exact ⟨rfl, items, read, satisfied, (selected comparison).2 rfl⟩

end SearchQuery.Sql
