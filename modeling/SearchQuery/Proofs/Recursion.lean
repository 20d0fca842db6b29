import SearchQuery.Evaluation
import SearchQuery.Proofs.Height
import Mathlib.Logic.Function.Iterate

/-!
# Recursion over a query

Evaluation, lowering and the writing of SQL go down a tree by calls of themselves. The body
of such a function is given here with its calls as a parameter, so that `body^[depth] deeper`
is the function with at most `depth` calls inside each other, and `deeper` stands for the
calls beyond. If the depth is at least the height of the tree, no call goes beyond, so
the result is the same whatever `deeper` is.
-/

namespace SearchQuery

universe u v

/-- A body computes a function by calls at arguments of smaller height. -/
structure Recursion {α : Type u} {β : Type v} (height : α → Nat) (body : (α → β) → α → β)
    (result : α → β) : Prop where
  unfolds : body result = result
  descends : ∀ call other argument,
    (∀ inner, height inner < height argument → call inner = other inner) →
      body call argument = body other argument
  positive : ∀ argument, 0 < height argument

/-- As many calls inside each other suffice as the argument is high. -/
theorem Recursion.iterate_eq {α : Type u} {β : Type v} {height : α → Nat}
    {body : (α → β) → α → β} {result : α → β} (recursion : Recursion height body result)
    (deeper : α → β) {depth : Nat} {argument : α} (enough : height argument ≤ depth) :
    body^[depth] deeper argument = result argument := by
  induction depth generalizing argument with
  | zero => exact absurd (recursion.positive argument) (Nat.not_lt.mpr enough)
  | succ depth ih =>
      rw [Function.iterate_succ_apply']
      calc
        body (body^[depth] deeper) argument = body result argument := by
          apply recursion.descends
          intro inner smaller
          exact ih (Nat.le_of_lt_succ (Nat.lt_of_lt_of_le smaller enough))
        _ = result argument := by rw [recursion.unfolds]

/-- What a function makes of each kind of node under a number of negations, if it goes down
an expression and counts the negations on its way. -/
structure Visitor (β : Type v) where
  empty : Nat → β
  text : Nat → String → β
  filter : Nat → Field → Operator → String → β
  /-- The result of a connective for the results of its operands. -/
  connect : Nat → Connective → List β → β

namespace Visitor

variable {β : Type v}

/-- One node of the way down. An argument is an expression with the negations above it. -/
def body (visitor : Visitor β) (call : Nat × Expression → β) : Nat × Expression → β
  | (negations, .empty) => visitor.empty negations
  | (negations, .text value) => visitor.text negations value
  | (negations, .filter field operator value) => visitor.filter negations field operator value
  | (negations, .and operands) =>
      visitor.connect negations .and (operands.map fun operand => call (0, operand))
  | (negations, .or operands) =>
      visitor.connect negations .or (operands.map fun operand => call (0, operand))
  | (negations, .not operand) => call (negations + 1, operand)

/-- The way down ends at the leaves, so it is no longer than the expression is high. -/
theorem recursion (visitor : Visitor β) {result : Nat × Expression → β}
    (unfolds : ∀ argument, visitor.body result argument = result argument) :
    Recursion (fun argument => argument.2.height) visitor.body result where
  unfolds := funext unfolds
  descends := by
    rintro call other ⟨negations, expression⟩ same
    have operandsSame : expression.children.map (fun child => call (0, child)) =
        expression.children.map fun child => other (0, child) := by
      apply List.map_congr_left
      intro child mem
      exact same (0, child) (Expression.height_lt_of_mem_children mem)
    cases expression with
    | empty | text _ | filter _ _ _ => rfl
    | and operands | or operands => exact congrArg (visitor.connect negations _) operandsSame
    | not operand =>
        exact same _ (Expression.height_lt_of_mem_children (List.mem_singleton_self operand))
  positive := fun argument => argument.2.height_pos

/-- What evaluation makes of each kind of node. -/
def evaluation : Visitor Predicate where
  empty negations := if negations = 0 then .ofTest fun _ => true else .rejected
  text negations value := (Criterion.contains .nameOrContent value).predicate.under negations
  filter negations field operator value :=
    match Criterion.ofFilter field operator value with
    | .ok criterion => criterion.predicate.under negations
    | .error _ => .rejected
  connect
    | _, _, [] => .rejected
    | negations, .and, operands => (Predicate.conjunction operands).under negations
    | negations, .or, operands => (Predicate.disjunction operands).under negations

/-- What lowering makes of each kind of node. -/
def lowering (scope : String) : Visitor Sql.Lowered where
  empty negations := if negations = 0 then .clean .always else .rejected .emptyNotOperand
  text negations value :=
    (Sql.Lowered.clean (Sql.lowerText scope .nameOrContent value)).under negations
  filter negations field operator value :=
    match Criterion.ofFilter field operator value with
    | .ok criterion => (Sql.Lowered.clean (Sql.lowerCriterion scope criterion)).under negations
    | .error issue => .rejected issue
  connect
    | _, connective, [] => .rejected (.noOperands connective)
    | negations, connective, operands => (Sql.Lowered.join connective operands).under negations

theorem recursion_evaluation :
    Recursion (fun argument => argument.2.height) evaluation.body
      fun argument => argument.2.predicateUnder argument.1 := by
  apply recursion
  rintro ⟨negations, expression⟩
  cases expression with
  | and operands | or operands =>
      cases operands <;> simp [body, evaluation, Expression.predicateUnder]
  | filter field operator value =>
      rw [Expression.predicateUnder]
      rfl
  | empty | text _ | not _ => simp [body, evaluation, Expression.predicateUnder]

theorem recursion_lowering (scope : String) :
    Recursion (fun argument => argument.2.height) (lowering scope).body
      fun argument => argument.2.lowerUnder scope argument.1 := by
  apply recursion
  rintro ⟨negations, expression⟩
  cases expression with
  | and operands | or operands =>
      cases operands <;> simp [body, lowering, Expression.lowerUnder]
  | filter field operator value =>
      rw [Expression.lowerUnder]
      rfl
  | empty | text _ | not _ => simp [body, lowering, Expression.lowerUnder]

end Visitor

namespace Sql.Condition

/-- The body of `fragment`. -/
def fragmentBody (schema : Schema) (scope : String) (call : Condition → Fragment) :
    Condition → Fragment
  | .always => "1"
  | .never => "0"
  | .leaf question => question.fragment schema scope
  | .junction connective operands =>
      .concat ["(", .separated (" " ++ connective.keyword ++ " ") (operands.map call), ")"]
  | .negation operand => .concat ["NOT (", call operand, ")"]

theorem recursion_fragmentBody (schema : Schema) (scope : String) :
    Recursion height (fragmentBody schema scope) (fragment schema scope) where
  unfolds := by
    funext condition
    cases condition <;> simp [fragmentBody, fragment]
  descends := by
    intro call other condition same
    cases condition with
    | always | never | leaf _ => rfl
    | junction connective operands =>
        have operandsSame : operands.map call = operands.map other := by
          apply List.map_congr_left
          intro operand mem
          apply same
          rw [height, Nat.lt_succ_iff]
          exact Operands.foldr_max_le_iff.mp (Nat.le_refl _) _ (List.mem_map_of_mem mem)
        rw [fragmentBody, fragmentBody, operandsSame]
    | negation operand =>
        have lower : operand.height < (negation operand).height := by
          rw [height]
          exact Nat.lt_succ_self _
        rw [fragmentBody, fragmentBody, same operand lower]
  positive := height_pos

end Sql.Condition

end SearchQuery
