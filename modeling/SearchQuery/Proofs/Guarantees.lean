import SearchQuery.Proofs.Diagnosis
import SearchQuery.Proofs.Leaves
import SearchQuery.Proofs.Recursion

/-!
# What can be relied on in a query

Whatever the tokens are, what is read from them is the blank query or a tree without blank
parts and of bounded height. So evaluation and compilation never go deeper into a query
than a fixed number of calls, and they find nothing wrong with it but filters that name no
criterion.
-/

namespace SearchQuery

/-- A filter is rejected for its operator, for its date or for what it asks to have. -/
theorem Criterion.code_of_rejected {field : Field} {operator : Operator} {value : String}
    {issue : Issue} (rejected : ofFilter field operator value = .error issue) :
    issue.code ≠ .unsupportedExpressionType ∧ issue.code ≠ .emptyNotOperand := by
  unfold ofFilter at rejected
  split at rejected
  · cases rejected
    simp [Issue.code]
  · cases field with
    | tag | name | content => contradiction
    | created | has =>
        simp only at rejected
        split at rejected
        · contradiction
        · cases rejected
          simp [Issue.code]

namespace Expression

/-- The value of a term or a filter. -/
def value? : Expression → Option String
  | .text value | .filter _ _ value => some value
  | _ => none

end Expression

/-- Tokens with blank values stand for nothing. -/
theorem Token.not_isBlank_of_mem_leaves {tokens : List Token} {leaf : Expression}
    (mem : leaf ∈ leaves tokens) {value : String} (has : leaf.value? = some value) :
    Text.isBlank value = false := by
  obtain ⟨token, _, isLeaf⟩ := List.mem_filterMap.mp mem
  cases token with
  | word _ | phrase _ | filter _ _ _ =>
      rw [leaf?] at isLeaf
      split at isLeaf
      · contradiction
      · rename_i notBlank
        cases isLeaf
        cases has
        exact Bool.eq_false_iff.mpr notBlank
  | _ => contradiction

namespace Expression

theorem IsWellBuilt.overEmpty_eq_false {expression : Expression}
    (wellBuilt : expression.IsWellBuilt) : expression.overEmpty = false := by
  induction wellBuilt with
  | not _ ih => exact ih
  | text _ | filter _ _ _ | and _ _ _ | or _ _ _ => rfl

/-- An issue of a connective is one of an operand, if there are operands. -/
theorem exists_mem_issues_of_connect (connective : Connective) {operands : List Expression}
    (two : 2 ≤ operands.length) {issue : Issue}
    (mem : issue ∈ issues (.connect connective operands)) :
    ∃ operand ∈ operands, issue ∈ operand.issues := by
  have nonempty : operands ≠ [] :=
    List.ne_nil_of_length_pos (Nat.lt_of_lt_of_le Nat.two_pos two)
  rw [issues_connect connective nonempty] at mem
  exact List.mem_flatMap.mp mem

/-- In a well-built expression only filters are rejected. -/
theorem IsWellBuilt.exists_rejected {expression : Expression}
    (wellBuilt : expression.IsWellBuilt) {issue : Issue} (mem : issue ∈ expression.issues) :
    ∃ field operator value, Criterion.ofFilter field operator value = .error issue := by
  induction wellBuilt with
  | text value => simp at mem
  | filter field operator value =>
      cases resolved : Criterion.ofFilter field operator value with
      | ok criterion => simp [issues_filter_of_ok resolved] at mem
      | error found =>
          rw [issues_filter_of_error resolved, List.mem_singleton] at mem
          exact ⟨field, operator, value, mem ▸ resolved⟩
  | and two _ ih =>
      obtain ⟨operand, operandMem, issueMem⟩ := exists_mem_issues_of_connect .and two mem
      exact ih operand operandMem issueMem
  | or two _ ih =>
      obtain ⟨operand, operandMem, issueMem⟩ := exists_mem_issues_of_connect .or two mem
      exact ih operand operandMem issueMem
  | not inside ih =>
      rw [issues_not inside.overEmpty_eq_false] at mem
      exact ih mem

theorem eq_empty_or_isWellBuilt_ofTokens (tokens : List Token) :
    ofTokens tokens = .empty ∨ (ofTokens tokens).IsWellBuilt :=
  (eq_empty_or_derived_ofTokens tokens).imp_right Derived.isWellBuilt

theorem exists_not_isWhiteSpace_of_mem_leaves_ofTokens {tokens : List Token} {leaf : Expression}
    (mem : leaf ∈ (ofTokens tokens).leaves) {value : String} (has : leaf.value? = some value) :
    ∃ c ∈ value.toList, Text.isWhiteSpace c = false := by
  rw [leaves_ofTokens] at mem
  have notBlank := Token.not_isBlank_of_mem_leaves mem has
  rw [Text.isBlank, List.all_eq_false] at notBlank
  obtain ⟨c, cMem, visible⟩ := notBlank
  exact ⟨c, cMem, Bool.eq_false_iff.mpr visible⟩

/-- Nothing is reported about the connectives and negations of what is read. -/
theorem code_of_mem_issues_ofTokens {tokens : List Token} {issue : Issue}
    (mem : issue ∈ (ofTokens tokens).issues) :
    issue.code ≠ .unsupportedExpressionType ∧ issue.code ≠ .emptyNotOperand := by
  rcases eq_empty_or_isWellBuilt_ofTokens tokens with blank | wellBuilt
  · rw [blank, issues_empty] at mem
    contradiction
  · obtain ⟨_, _, _, rejected⟩ := wellBuilt.exists_rejected mem
    exact Criterion.code_of_rejected rejected

/-- The reader builds the blank query, or a tree in which no node is empty, no value is
blank and every connective has two and more operands. No path in it has more than 196
nodes, so evaluation, lowering and the writing of SQL are never more than 196 calls deep.
None of its issues is about a connective or a negation. -/
theorem ofTokens_isWellBuilt_within_height (tokens : List Token) :
    let expression := ofTokens tokens
    (expression = .empty ∨ expression.IsWellBuilt) ∧
      (∀ leaf ∈ expression.leaves, ∀ value, leaf.value? = some value →
        ∃ c ∈ value.toList, Text.isWhiteSpace c = false) ∧
      (∀ below, IsPath (expression :: below) → (expression :: below).length ≤ 196) ∧
      (∀ deeper, Visitor.evaluation.body^[196] deeper (0, expression) = expression.predicate) ∧
      (∀ scope deeper,
        (Visitor.lowering scope).body^[196] deeper (0, expression) = expression.lower scope) ∧
      (∀ schema scope deeper,
        (Sql.Condition.fragmentBody schema scope)^[196] deeper (expression.lower scope).condition =
          (expression.lower scope).condition.fragment schema scope) ∧
      ∀ (compiler : Sql.Compiler) scope,
        ∀ diagnostic ∈ (compiler.compile expression scope).issues ++
            (compiler.statement expression scope).issues,
          diagnostic.code ≠ .unsupportedExpressionType ∧ diagnostic.code ≠ .emptyNotOperand := by
  intro expression
  have bounded : expression.height ≤ 196 := height_ofTokens_le tokens
  refine ⟨eq_empty_or_isWellBuilt_ofTokens tokens, ?_, ?_, ?_, ?_, ?_, ?_⟩
  · intro leaf mem value has
    exact exists_not_isWhiteSpace_of_mem_leaves_ofTokens mem has
  · intro below path
    exact Nat.le_trans (length_le_height_of_isPath path) bounded
  · intro deeper
    exact Visitor.recursion_evaluation.iterate_eq deeper bounded
  · intro scope deeper
    exact (Visitor.recursion_lowering scope).iterate_eq deeper bounded
  · intro schema scope deeper
    have lower := Nat.le_trans (height_lower_le scope expression) bounded
    exact (Sql.Condition.recursion_fragmentBody schema scope).iterate_eq deeper lower
  · intro compiler scope diagnostic mem
    -- Fragment and statement report the same issues, those found by lowering.
    have reported : diagnostic ∈ expression.issues.map (·.diagnostic) := by
      rw [← issues_lower scope]
      exact (List.mem_append.mp mem).elim id id
    obtain ⟨issue, issueMem, rfl⟩ := List.mem_map.mp reported
    exact code_of_mem_issues_ofTokens issueMem

end Expression

end SearchQuery
