import SearchQuery.Proofs.Evaluation
import SearchQuery.Proofs.Operands
import SearchQuery.Proofs.Sql.Lowering
import SearchQuery.Sql.Compiler
import Mathlib.Data.List.Basic

/-!
# The issues of an expression

`Expression.clauses` lists the clauses of an expression, depth first and from left to
right; a chain of negations is one clause, followed by what it stands over.
`Expression.ownIssue?` says what is wrong with a clause by itself, apart from the
clauses inside it, and `Expression.fault?` with which code and which words that is
reported. The compiler reports the faults of all clauses in this order, each once for
every clause, and evaluation marks an expression exactly when there is one to report.
-/

namespace SearchQuery.Expression

/-- The clauses of an expression, depth first and from left to right. A chain of
negations counts once. -/
def clauses : Expression → List Expression
  | .empty => [.empty]
  | .text value => [.text value]
  | .filter field operator value => [.filter field operator value]
  | .and operands => .and operands :: operands.flatMap clauses
  | .or operands => .or operands :: operands.flatMap clauses
  | .not operand => .not operand :: operand.peel.2.clauses
decreasing_by
  all_goals simp_wf
  · have := List.sizeOf_lt_of_mem ‹_ ∈ operands›
    omega
  · have := List.sizeOf_lt_of_mem ‹_ ∈ operands›
    omega
  · have := sizeOf_peel_le operand
    omega

/-- What is wrong with a clause by itself. -/
def ownIssue? : Expression → Option Issue
  | .filter field operator value =>
      match Criterion.ofFilter field operator value with
      | .ok _ => none
      | .error issue => some issue
  | .and [] => some (.noOperands .and)
  | .or [] => some (.noOperands .or)
  | .not operand => if operand.overEmpty then some .emptyNotOperand else none
  | _ => none

/-- The issues of an expression, in the order of its clauses. -/
def issues (expression : Expression) : List Issue :=
  expression.clauses.filterMap ownIssue?

/-- What is reported of a filter by itself: a field that cannot be ordered, a value that is no
date, or a value that `has:` does not know. -/
def filterFault? (field : Field) (operator : Operator) (value : String) : Option Diagnostic :=
  if field ≠ .created ∧ operator ≠ .equal then
    some ⟨.unsupportedFilterOperator,
      "Operator \"" ++ operator.symbol ++ "\" is not supported for field \"" ++ field.text ++ "\""⟩
  else if field = .created ∧ Calendar.instantOfValue? value = none then
    some ⟨.invalidDateFormat,
      "Invalid date \"" ++ value ++ "\"; expected YYYY-MM-DD or an RFC 3339 timestamp"⟩
  else if field = .has ∧ Criterion.asksForTags value = false then
    some ⟨.unsupportedHasValue,
      "Unsupported value \"" ++ value ++ "\" for has:; only has:tags is supported"⟩
  else none

/-- What is reported of a clause by itself. -/
def fault? : Expression → Option Diagnostic
  | .filter field operator value => filterFault? field operator value
  | .and [] => some ⟨.unsupportedExpressionType, "Unsupported expression: AND with no operands"⟩
  | .or [] => some ⟨.unsupportedExpressionType, "Unsupported expression: OR with no operands"⟩
  | .not operand =>
      if operand.overEmpty then some ⟨.emptyNotOperand, "NOT requires an operand"⟩ else none
  | _ => none

/-- What is to be reported of an expression: the faults of its clauses, in their order. -/
def diagnostics (expression : Expression) : List Diagnostic :=
  expression.clauses.filterMap fault?

/-! ## The issues of each kind of node -/

@[simp]
theorem issues_empty : issues .empty = [] := by
  simp [issues, clauses, ownIssue?]

@[simp]
theorem issues_text (value : String) : issues (.text value) = [] := by
  simp [issues, clauses, ownIssue?]

theorem issues_filter_of_ok {field : Field} {operator : Operator} {value : String}
    {criterion : Criterion} (valid : Criterion.ofFilter field operator value = .ok criterion) :
    issues (.filter field operator value) = [] := by
  simp [issues, clauses, ownIssue?, valid]

theorem issues_filter_of_error {field : Field} {operator : Operator} {value : String}
    {issue : Issue} (invalid : Criterion.ofFilter field operator value = .error issue) :
    issues (.filter field operator value) = [issue] := by
  simp [issues, clauses, ownIssue?, invalid]

@[simp]
theorem issues_connect_nil (connective : Connective) :
    issues (.connect connective []) = [.noOperands connective] := by
  cases connective <;> simp [connect, issues, clauses, ownIssue?]

theorem issues_connect (connective : Connective) {operands : List Expression}
    (nonempty : operands ≠ []) :
    issues (.connect connective operands) = operands.flatMap issues := by
  obtain ⟨first, rest, rfl⟩ := List.exists_cons_of_ne_nil nonempty
  cases connective with
  | and =>
      rw [connect, issues, clauses, List.filterMap_cons_none (by rfl), List.filterMap_flatMap]
      rfl
  | or =>
      rw [connect, issues, clauses, List.filterMap_cons_none (by rfl), List.filterMap_flatMap]
      rfl

/-- A chain over the empty expression has one issue, however long it is. -/
theorem issues_negate_empty (count : Nat) :
    issues (negate (count + 1) .empty) = [.emptyNotOperand] := by
  rw [← not_negate, issues, clauses, peel_negate, peel_empty, clauses]
  simp [ownIssue?, overEmpty]

/-- A chain over a base has the issues of the base. -/
theorem issues_negate {base : Expression} (isBase : base.IsChainBase) (count : Nat) :
    issues (negate count base) = issues base := by
  cases count with
  | zero => rfl
  | succ count =>
      rw [← not_negate, issues, clauses, peel_negate, isBase.peel, List.filterMap_cons_none]
      · rfl
      · simp [ownIssue?, isBase.overEmpty_eq_false]

/-- A negation has the issues of its operand, if there is something to negate. -/
theorem issues_not {operand : Expression} (something : operand.overEmpty = false) :
    issues (.not operand) = operand.issues := by
  obtain ⟨count, base, rfl, rfl | isBase⟩ := exists_negate operand
  · simp [overEmpty] at something
  · rw [not_negate, issues_negate isBase, issues_negate isBase]

/-- A negation has the issues of its operand, or it is itself the only issue. -/
theorem issues_not_eq (operand : Expression) :
    issues (.not operand) = if operand.overEmpty then [.emptyNotOperand] else operand.issues := by
  by_cases empty : operand.overEmpty = true
  · obtain ⟨count, rfl⟩ := overEmpty_iff.mp empty
    rw [if_pos empty, not_negate, issues_negate_empty]
  · rw [if_neg empty, issues_not (Bool.eq_false_iff.mpr empty)]

/-! ## What is reported -/

/-- A filter is at fault exactly when it is rejected, and the fault is the reason for that. -/
theorem filterFault?_eq_some_iff {field : Field} {operator : Operator} {value : String}
    {diagnostic : Diagnostic} :
    filterFault? field operator value = some diagnostic ↔
      ∃ issue, Criterion.ofFilter field operator value = .error issue ∧
        issue.diagnostic = diagnostic := by
  have accepted (criterion : Criterion) : none = some diagnostic ↔
      ∃ issue, (.ok criterion : Except Issue Criterion) = .error issue ∧
        issue.diagnostic = diagnostic := by
    simp
  have rejected (reason : Issue) : some reason.diagnostic = some diagnostic ↔
      ∃ issue, (.error reason : Except Issue Criterion) = .error issue ∧
        issue.diagnostic = diagnostic := by
    simp
  unfold filterFault? Criterion.ofFilter
  generalize Calendar.instantOfValue? value = read
  generalize Criterion.asksForTags value = known
  cases field with
  | tag | name | content =>
      cases operator with
      | equal => exact accepted _
      | ordering _ => exact rejected (.unsupportedOperator _ _)
  | created =>
      cases read with
      | none => cases operator <;> exact rejected (.invalidDate value)
      | some _ => cases operator <;> exact accepted _
  | has =>
      cases operator with
      | equal =>
          cases known with
          | false => exact rejected (.unsupportedHasValue value)
          | true => exact accepted _
      | ordering _ => exact rejected (.unsupportedOperator _ _)

/-- The issue of a clause is reported as its fault. -/
theorem map_diagnostic_ownIssue? (clause : Expression) :
    clause.ownIssue?.map Issue.diagnostic = clause.fault? := by
  match clause with
  | .empty | .text _ | .and (_ :: _) | .or (_ :: _) => rfl
  | .and [] | .or [] => rfl
  | .not operand =>
      rw [ownIssue?, fault?]
      split <;> rfl
  | .filter field operator value =>
      rw [Option.ext_iff]
      intro diagnostic
      rw [fault?, filterFault?_eq_some_iff, ownIssue?]
      cases Criterion.ofFilter field operator value <;> simp

theorem map_diagnostic_issues (expression : Expression) :
    expression.issues.map Issue.diagnostic = expression.diagnostics := by
  rw [issues, List.map_filterMap, diagnostics]
  exact congrArg (List.filterMap · expression.clauses) (funext map_diagnostic_ownIssue?)

/-- The compiler reports the issues of all clauses in order. -/
theorem issues_lower (scope : String) (expression : Expression) :
    (expression.lower scope).issues = expression.issues := by
  induction expression using chainInduction with
  | empty => simp [Sql.Lowered.clean]
  | emptyChain count =>
      rw [lower_negate_empty, issues_negate_empty]
      rfl
  | text value => simp [Sql.Lowered.clean]
  | criterion field operator value criterion valid =>
      rw [lower_filter_of_ok scope valid, issues_filter_of_ok valid]
      rfl
  | invalidFilter field operator value issue invalid =>
      rw [lower_filter_of_error scope invalid, issues_filter_of_error invalid]
      rfl
  | noOperands connective =>
      rw [lower_connect_nil, issues_connect_nil]
      rfl
  | connect connective operands nonempty ih =>
      rw [lower_connect scope connective nonempty, issues_connect connective nonempty,
        Sql.Lowered.issues_join, List.flatMap_map]
      exact List.flatMap_congr ih
  | chain count base isBase ih =>
      rw [lower_negate scope isBase, Sql.Lowered.issues_under, ih, issues_negate isBase]

/-- Lowering marks an expression as evaluation does. -/
theorem degraded_lower (scope : String) (expression : Expression) :
    (expression.lower scope).degraded = expression.isDegraded := by
  induction expression using chainInduction with
  | empty => simp [Sql.Lowered.clean]
  | emptyChain count =>
      rw [lower_negate_empty, isDegraded_negate_empty]
      rfl
  | text value => simp [Sql.Lowered.clean]
  | criterion field operator value criterion valid =>
      rw [lower_filter_of_ok scope valid, isDegraded_filter_of_ok valid]
      rfl
  | invalidFilter field operator value issue invalid =>
      rw [lower_filter_of_error scope invalid, isDegraded_filter_of_error invalid]
      rfl
  | noOperands connective =>
      rw [lower_connect_nil, isDegraded_connect]
      rfl
  | connect connective operands nonempty ih =>
      rw [lower_connect scope connective nonempty, Sql.Lowered.degraded_join, List.any_map,
        isDegraded_connect, List.isEmpty_eq_false_iff.mpr nonempty, Bool.false_or]
      exact Operands.any_congr_of_mem ih
  | chain count base isBase ih =>
      rw [lower_negate scope isBase, Sql.Lowered.degraded_under, ih, isDegraded_negate isBase]

/-- There is something to report exactly when some clause is invalid. -/
theorem issues_ne_nil_iff {expression : Expression} :
    expression.issues ≠ [] ↔ expression.isDegraded = true := by
  induction expression using chainInduction with
  | empty => simp
  | emptyChain count => simp [issues_negate_empty, isDegraded_negate_empty]
  | text value => simp
  | criterion field operator value criterion valid =>
      simp [issues_filter_of_ok valid, isDegraded_filter_of_ok valid]
  | invalidFilter field operator value issue invalid =>
      simp [issues_filter_of_error invalid, isDegraded_filter_of_error invalid]
  | noOperands connective => simp [isDegraded_connect]
  | connect connective operands nonempty ih =>
      rw [issues_connect connective nonempty, isDegraded_connect,
        List.isEmpty_eq_false_iff.mpr nonempty, Bool.false_or, List.any_eq_true, ne_eq,
        List.flatMap_eq_nil_iff]
      push Not
      exact exists_congr fun operand => and_congr_right (ih operand)
  | chain count base isBase ih => rw [issues_negate isBase, isDegraded_negate isBase, ih]

/-- Fragment and statement report the same: the faults of all clauses in order, whatever the
schema and the scope. There are some exactly when evaluation marks the expression, which lowering
does too. The fault of a filter is the reason for which it is rejected. -/
theorem issues_compile_and_statement (compiler : Sql.Compiler) (expression : Expression)
    (scope : String) :
    (compiler.compile expression scope).issues = expression.diagnostics ∧
      (compiler.statement expression scope).issues = expression.diagnostics ∧
      ((compiler.compile expression scope).issues ≠ [] ↔ expression.isDegraded = true) ∧
      (expression.lower scope).degraded = expression.isDegraded ∧
      ∀ (field : Field) (operator : Operator) (value : String) (diagnostic : Diagnostic),
        fault? (.filter field operator value) = some diagnostic ↔
          ∃ issue, Criterion.ofFilter field operator value = .error issue ∧
            issue.diagnostic = diagnostic := by
  have compiled : (compiler.compile expression scope).issues = expression.diagnostics := by
    rw [Sql.Compiler.compile, issues_lower, map_diagnostic_issues]
  refine ⟨compiled, compiled, ?_, degraded_lower scope expression, ?_⟩
  · rw [compiled, ← map_diagnostic_issues, ne_eq, List.map_eq_nil_iff]
    exact issues_ne_nil_iff
  · intro field operator value diagnostic
    exact filterFault?_eq_some_iff

/-- Each kind of fault once, with a chain of negations that counts once and with faults that are
reported although they stand under a negation. -/
theorem issues_compile_and_statement_of_faulty_clauses :
    let expression : Expression :=
      .and [.not (.filter .tag (.ordering .greater) "bread"), .or [], .text "flour",
        .not (.not .empty), .not (.or [.filter .created .equal "soon", .and []]),
        .filter .has .equal "name"]
    let compiled := Sql.Compiler.standard.compile expression "org_1"
    compiled.issues =
        [⟨.unsupportedFilterOperator, "Operator \">\" is not supported for field \"tag\""⟩,
          ⟨.unsupportedExpressionType, "Unsupported expression: OR with no operands"⟩,
          ⟨.emptyNotOperand, "NOT requires an operand"⟩,
          ⟨.invalidDateFormat,
            "Invalid date \"soon\"; expected YYYY-MM-DD or an RFC 3339 timestamp"⟩,
          ⟨.unsupportedExpressionType, "Unsupported expression: AND with no operands"⟩,
          ⟨.unsupportedHasValue,
            "Unsupported value \"name\" for has:; only has:tags is supported"⟩] ∧
      compiled.issues.map (·.code.text) =
        ["UNSUPPORTED_FILTER_OPERATOR", "UNSUPPORTED_EXPRESSION_TYPE", "EMPTY_NOT_OPERAND",
          "INVALID_DATE_FORMAT", "UNSUPPORTED_EXPRESSION_TYPE", "UNSUPPORTED_HAS_VALUE"] ∧
      (Sql.Compiler.standard.statement expression "org_1").issues = compiled.issues ∧
      expression.isDegraded = true := by
  intro expression compiled
  obtain ⟨reported, stated, marked, -⟩ :=
    issues_compile_and_statement Sql.Compiler.standard expression "org_1"
  have faults := reported
  simp [expression, diagnostics, clauses, peel, peelOnto, fault?, filterFault?] at faults
  refine ⟨faults, congrArg (List.map (·.code.text)) faults, stated.trans reported.symm, ?_⟩
  apply marked.mp
  rw [faults]
  exact List.cons_ne_nil _ _

end SearchQuery.Expression
