import SearchQuery.Proofs.Operands
import SearchQuery.Proofs.Sql.Lowering

/-!
# Conditions as formulas

A condition is a Boolean formula over its leaves: `Condition.eval` gives its value
when the leaves have given values. A condition is proper if every junction in it
joins at least two operands, and lowering gives proper conditions only
(`isProper_lower`).
-/

namespace SearchQuery.Sql

namespace Condition

/-- The value of a condition when every leaf has the given value. -/
def eval (valuation : Leaf → Bool) : Condition → Bool
  | .always => true
  | .never => false
  | .leaf question => valuation question
  | .junction connective operands => connective.value (operands.map (eval valuation))
  | .negation operand => !operand.eval valuation

/-- Every junction joins at least two operands. -/
inductive IsProper : Condition → Prop
  | always : IsProper .always
  | never : IsProper .never
  | leaf (question : Leaf) : IsProper (.leaf question)
  | junction (connective : Connective) {operands : List Condition} (two : 2 ≤ operands.length)
      (proper : ∀ operand ∈ operands, IsProper operand) : IsProper (.junction connective operands)
  | negation {operand : Condition} (proper : IsProper operand) : IsProper (.negation operand)

@[simp]
theorem eval_always (valuation : Leaf → Bool) : eval valuation .always = true := by
  rw [eval]

@[simp]
theorem eval_never (valuation : Leaf → Bool) : eval valuation .never = false := by
  rw [eval]

@[simp]
theorem eval_leaf (valuation : Leaf → Bool) (question : Leaf) :
    eval valuation (.leaf question) = valuation question := by
  rw [eval]

@[simp]
theorem eval_junction (valuation : Leaf → Bool) (connective : Connective)
    (operands : List Condition) :
    eval valuation (.junction connective operands) =
      connective.value (operands.map (eval valuation)) := by
  rw [eval]

@[simp]
theorem eval_negation (valuation : Leaf → Bool) (operand : Condition) :
    eval valuation (.negation operand) = !operand.eval valuation := by
  rw [eval]

end Condition

/-! ## The conditions of expressions -/

namespace Lowered

/-- Joined operands have the value that the connective makes of theirs; a single
operand keeps its own. -/
theorem eval_join (valuation : Leaf → Bool) (connective : Connective) (operands : List Lowered) :
    (join connective operands).condition.eval valuation =
      connective.value (operands.map (·.condition.eval valuation)) := by
  match operands with
  | [] => simp [join]
  | [operand] => simp
  | first :: second :: rest =>
      rw [join_cons_cons, Condition.eval_junction, List.map_map]
      rfl

theorem isProper_join (connective : Connective) {operands : List Lowered} (nonempty : operands ≠ [])
    (proper : ∀ operand ∈ operands, operand.condition.IsProper) :
    (join connective operands).condition.IsProper := by
  match operands with
  | [] => contradiction
  | [operand] =>
      rw [join_singleton]
      exact proper operand List.mem_cons_self
  | first :: second :: rest =>
      rw [join_cons_cons]
      apply Condition.IsProper.junction
      · simp
      · intro condition mem
        obtain ⟨operand, operandMem, rfl⟩ := List.mem_map.mp mem
        exact proper operand operandMem

theorem isProper_under {operand : Lowered} (proper : operand.condition.IsProper)
    (negations : Nat) : (operand.under negations).condition.IsProper := by
  unfold under
  split_ifs
  · exact proper
  · exact .never
  · exact proper
  · exact .negation proper

end Lowered

theorem isProper_lowerText (scope : String) (place : TextPlace) (value : String) :
    (lowerText scope place value).IsProper := by
  unfold lowerText
  split
  · exact .leaf _
  · exact .never

theorem isProper_lowerCriterion (scope : String) (criterion : Criterion) :
    (lowerCriterion scope criterion).IsProper := by
  cases criterion with
  | contains place value => exact isProper_lowerText scope place value
  | tagged _ _ | hasTags | createdOn _ | created _ _ => exact .leaf _

end SearchQuery.Sql

namespace SearchQuery.Expression

open SearchQuery.Sql

/-- Every junction in the condition of an expression joins at least two operands. -/
theorem isProper_lower (scope : String) (expression : Expression) :
    (expression.lower scope).condition.IsProper := by
  induction expression using chainInduction with
  | empty =>
      rw [lower_empty]
      exact .always
  | emptyChain count =>
      rw [lower_negate_empty]
      exact .never
  | text value =>
      rw [lower_text, Lowered.condition_clean]
      exact isProper_lowerText scope .nameOrContent value
  | criterion field operator value criterion valid =>
      rw [lower_filter_of_ok scope valid, Lowered.condition_clean]
      exact isProper_lowerCriterion scope criterion
  | invalidFilter field operator value issue invalid =>
      rw [lower_filter_of_error scope invalid]
      exact .never
  | noOperands connective =>
      rw [lower_connect_nil]
      exact .never
  | connect connective operands nonempty ih =>
      rw [lower_connect scope connective nonempty]
      apply Lowered.isProper_join
      · simpa using nonempty
      · simpa using ih
  | chain count base isBase ih =>
      rw [lower_negate scope isBase]
      exact Lowered.isProper_under ih count

end SearchQuery.Expression
