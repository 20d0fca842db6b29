import SearchQuery.Proofs.Negation
import SearchQuery.Sql.Compiler
import Mathlib.Tactic.SplitIfs

/-!
# Laws of lowering

The condition of an expression is determined one node at a time, as its predicate
is. A chain of negations acts on a lowered base as `Lowered.under` does.
-/

namespace SearchQuery.Sql.Lowered

@[simp]
theorem condition_clean (condition : Condition) : (clean condition).condition = condition :=
  rfl

@[simp]
theorem condition_rejected (issue : Issue) : (rejected issue).condition = .never :=
  rfl

@[simp]
theorem under_zero (operand : Lowered) : operand.under 0 = operand :=
  rfl

@[simp]
theorem rejected_under (issue : Issue) (negations : Nat) :
    (rejected issue).under negations = rejected issue := by
  cases negations with
  | zero => rfl
  | succ negations => simp [under, rejected]

/-- Negations keep every issue and raise none. -/
@[simp]
theorem issues_under (operand : Lowered) (negations : Nat) :
    (operand.under negations).issues = operand.issues := by
  unfold under
  split_ifs <;> rfl

@[simp]
theorem degraded_under (operand : Lowered) (negations : Nat) :
    (operand.under negations).degraded = operand.degraded := by
  unfold under
  split_ifs with none_above invalid even
  · rfl
  · rw [invalid]
  · rfl
  · simp [invalid]

@[simp]
theorem join_singleton (connective : Connective) (operand : Lowered) :
    join connective [operand] = operand :=
  rfl

/-- Two and more operands become a junction of their conditions. -/
theorem join_cons_cons (connective : Connective) (first second : Lowered) (rest : List Lowered) :
    join connective (first :: second :: rest) =
      ⟨.junction connective ((first :: second :: rest).map (·.condition)),
        (first :: second :: rest).flatMap (·.issues),
        (first :: second :: rest).any (·.degraded)⟩ :=
  rfl

/-- The issues of joined operands follow each other from left to right. -/
@[simp]
theorem issues_join (connective : Connective) (operands : List Lowered) :
    (join connective operands).issues = operands.flatMap (·.issues) := by
  match operands with
  | [] => rfl
  | [operand] => simp
  | first :: second :: rest => rfl

@[simp]
theorem degraded_join (connective : Connective) (operands : List Lowered) :
    (join connective operands).degraded = operands.any (·.degraded) := by
  match operands with
  | [] => rfl
  | [operand] => simp
  | first :: second :: rest => rfl

end SearchQuery.Sql.Lowered

namespace SearchQuery.Expression

open SearchQuery.Sql

variable (scope : String)

/-! ## The condition of each kind of node -/

@[simp]
theorem lower_empty : lower scope .empty = .clean .always := by
  simp [lower, lowerUnder]

@[simp]
theorem lower_text (value : String) :
    lower scope (.text value) = .clean (lowerText scope .nameOrContent value) := by
  simp [lower, lowerUnder]

theorem lower_filter_of_ok {field : Field} {operator : Operator} {value : String}
    {criterion : Criterion} (valid : Criterion.ofFilter field operator value = .ok criterion) :
    lower scope (.filter field operator value) = .clean (lowerCriterion scope criterion) := by
  simp [lower, lowerUnder, valid]

theorem lower_filter_of_error {field : Field} {operator : Operator} {value : String}
    {issue : Issue} (invalid : Criterion.ofFilter field operator value = .error issue) :
    lower scope (.filter field operator value) = .rejected issue := by
  simp [lower, lowerUnder, invalid]

@[simp]
theorem lower_and_nil : lower scope (.and []) = .rejected (.noOperands .and) := by
  simp [lower, lowerUnder]

@[simp]
theorem lower_or_nil : lower scope (.or []) = .rejected (.noOperands .or) := by
  simp [lower, lowerUnder]

theorem lower_and {operands : List Expression} (nonempty : operands ≠ []) :
    lower scope (.and operands) = .join .and (operands.map (lower scope)) := by
  obtain ⟨first, rest, rfl⟩ := List.exists_cons_of_ne_nil nonempty
  simp only [lower, lowerUnder, Lowered.under_zero]
  rfl

theorem lower_or {operands : List Expression} (nonempty : operands ≠ []) :
    lower scope (.or operands) = .join .or (operands.map (lower scope)) := by
  obtain ⟨first, rest, rfl⟩ := List.exists_cons_of_ne_nil nonempty
  simp only [lower, lowerUnder, Lowered.under_zero]
  rfl

@[simp]
theorem lower_connect_nil (connective : Connective) :
    lower scope (.connect connective []) = .rejected (.noOperands connective) := by
  cases connective with
  | and => exact lower_and_nil scope
  | or => exact lower_or_nil scope

theorem lower_connect (connective : Connective) {operands : List Expression}
    (nonempty : operands ≠ []) :
    lower scope (.connect connective operands) = .join connective (operands.map (lower scope)) := by
  cases connective with
  | and => exact lower_and scope nonempty
  | or => exact lower_or scope nonempty

/-! ## Chains of negations -/

/-- The number handed down in lowering is the number of negations above. -/
theorem lowerUnder_eq_lower_negate (negations : Nat) (expression : Expression) :
    expression.lowerUnder scope negations = (negate negations expression).lower scope := by
  induction negations generalizing expression with
  | zero => rfl
  | succ negations ih =>
      rw [negate_succ, ← ih (.not expression), lowerUnder]

/-- A chain over the empty expression is one invalid clause, however long it is. -/
@[simp]
theorem lower_negate_empty (negations : Nat) :
    (negate (negations + 1) .empty).lower scope = .rejected .emptyNotOperand := by
  rw [← lowerUnder_eq_lower_negate]
  simp [lowerUnder]

/-- A chain over a base acts on the condition of the base. -/
theorem lower_negate {base : Expression} (isBase : base.IsChainBase) (negations : Nat) :
    (negate negations base).lower scope = (base.lower scope).under negations := by
  rw [← lowerUnder_eq_lower_negate]
  cases base with
  | empty => exact absurd rfl isBase.1
  | text value => simp [lowerUnder]
  | filter field operator value =>
      cases resolved : Criterion.ofFilter field operator value with
      | ok criterion => simp [lowerUnder, lower_filter_of_ok scope resolved, resolved]
      | error issue => simp [lowerUnder, lower_filter_of_error scope resolved, resolved]
  | and operands =>
      cases operands with
      | nil => simp [lowerUnder]
      | cons first rest =>
          rw [lower_and scope (List.cons_ne_nil first rest), lowerUnder]
          · rfl
          · exact List.cons_ne_nil first rest
  | or operands =>
      cases operands with
      | nil => simp [lowerUnder]
      | cons first rest =>
          rw [lower_or scope (List.cons_ne_nil first rest), lowerUnder]
          · rfl
          · exact List.cons_ne_nil first rest
  | not operand => exact absurd rfl (isBase.2 operand)

end SearchQuery.Expression

/-- A filter whose criterion becomes a leaf is compiled to the SQL of the leaf. -/
theorem SearchQuery.Sql.Compiler.fragment_compile_filter (compiler : Compiler) (scope : String)
    {field : Field} {operator : Operator} {value : String} {criterion : Criterion} {leaf : Leaf}
    (valid : Criterion.ofFilter field operator value = .ok criterion)
    (lowered : lowerCriterion scope criterion = .leaf leaf) :
    (compiler.compile (.filter field operator value) scope).fragment =
      leaf.fragment compiler.schema scope := by
  rw [compile, Expression.lower_filter_of_ok scope valid, Lowered.condition_clean, lowered,
    Condition.fragment]
