import SearchQuery.Expression
import SearchQuery.Sql.Condition

/-!
# From expressions to conditions

`Expression.lowerUnder` turns an expression into a condition and lists the issues
it finds, from left to right. An invalid clause becomes the condition that never
holds. A negation over an invalid clause does too, because its negation would
match everything.

As in evaluation, a chain of negations is taken as a whole, and the number of
negations above an expression is handed down to it.
-/

namespace SearchQuery.Sql

/-- A condition, the issues found on the way to it, and whether one of them was
raised inside. -/
structure Lowered where
  condition : Condition
  issues : List Issue
  degraded : Bool
deriving Repr

namespace Lowered

/-- The condition of valid clauses. -/
def clean (condition : Condition) : Lowered :=
  ⟨condition, [], false⟩

/-- The stand-in for an invalid clause. -/
def rejected (issue : Issue) : Lowered :=
  ⟨.never, [issue], true⟩

/-- The condition under a number of negations. -/
def under (negations : Nat) (operand : Lowered) : Lowered :=
  if negations = 0 then operand
  else if operand.degraded then ⟨.never, operand.issues, true⟩
  else if negations % 2 = 0 then operand
  else ⟨.negation operand.condition, operand.issues, false⟩

/-- Operands joined by a connective; a single operand is left as it is. -/
def join (connective : Connective) : List Lowered → Lowered
  | [operand] => operand
  | operands =>
      ⟨.junction connective (operands.map (·.condition)), operands.flatMap (·.issues),
        operands.any (·.degraded)⟩

end Lowered

/-- The leaf for a term; no leaf if nothing can be searched for in the value or in
the scope. -/
def lowerText (scope : String) (place : TextPlace) (value : String) : Condition :=
  match searchTerm? scope, searchTerm? value with
  | some scopeTerm, some term => .leaf (.fullText place scopeTerm term)
  | _, _ => .never

/-- The condition that a row meets a criterion. -/
def lowerCriterion (scope : String) : Criterion → Condition
  | .contains place value => lowerText scope place value
  | .tagged name id => .leaf (.tagged name id)
  | .hasTags => .leaf .hasTags
  | .createdOn day => .leaf (.createdOn day)
  | .created comparison instant => .leaf (.created comparison instant)

end SearchQuery.Sql

namespace SearchQuery.Expression

open SearchQuery.Sql

/-- The condition of an expression under a number of negations. -/
def lowerUnder (scope : String) (negations : Nat) : Expression → Lowered
  | .empty => if negations = 0 then .clean .always else .rejected .emptyNotOperand
  | .text value => (Lowered.clean (lowerText scope .nameOrContent value)).under negations
  | .filter field operator value =>
      match Criterion.ofFilter field operator value with
      | .ok criterion => (Lowered.clean (lowerCriterion scope criterion)).under negations
      | .error issue => .rejected issue
  | .and [] => .rejected (.noOperands .and)
  | .and operands => (Lowered.join .and (operands.map (lowerUnder scope 0))).under negations
  | .or [] => .rejected (.noOperands .or)
  | .or operands => (Lowered.join .or (operands.map (lowerUnder scope 0))).under negations
  | .not operand => lowerUnder scope (negations + 1) operand

/-- The condition of an expression, and its issues. -/
def lower (scope : String) (expression : Expression) : Lowered :=
  expression.lowerUnder scope 0

end SearchQuery.Expression
