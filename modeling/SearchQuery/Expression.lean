import SearchQuery.Issue

/-!
# Query expressions

An expression is the meaning of a query before any document or database is in
sight: search terms and filters joined by AND, OR and NOT. It is built once and
then either evaluated on documents or compiled to SQL.

The reader of queries builds neither an operator with fewer than two operands nor
a negation of the empty expression. Expressions that come from elsewhere may hold
both, so every function here accepts all trees.
-/

namespace SearchQuery

/-- A search query as a tree. -/
inductive Expression where
  /-- The blank query, which every document matches. -/
  | empty
  /-- A term that must occur in the name or in the content. -/
  | text (value : String)
  /-- A comparison of one field with a value. -/
  | filter (field : Field) (operator : Operator) (value : String)
  /-- All operands must match. -/
  | and (operands : List Expression)
  /-- At least one operand must match. -/
  | or (operands : List Expression)
  /-- The operand must not match. -/
  | not (operand : Expression)
deriving Repr, BEq

namespace Expression

/-- Induction over expressions, with the hypothesis for every operand of a list. -/
@[elab_as_elim]
theorem induction {motive : Expression → Prop} (empty : motive .empty)
    (text : ∀ value, motive (.text value))
    (filter : ∀ field operator value, motive (.filter field operator value))
    (and : ∀ operands, (∀ operand ∈ operands, motive operand) → motive (.and operands))
    (or : ∀ operands, (∀ operand ∈ operands, motive operand) → motive (.or operands))
    (not : ∀ operand, motive operand → motive (.not operand)) (expression : Expression) :
    motive expression :=
  @Expression.rec motive (fun operands => ∀ operand ∈ operands, motive operand)
    empty text filter and or not (by simp)
    (fun head tail headHolds tailHold => by
      simpa using ⟨headHolds, tailHold⟩) expression

/-- Strip the negations above `expression` and add their number to `negations`. -/
def peelOnto (negations : Nat) : Expression → Nat × Expression
  | not operand => peelOnto (negations + 1) operand
  | expression => (negations, expression)

/-- The number of negations at the root, and the expression under them. -/
def peel (expression : Expression) : Nat × Expression :=
  peelOnto 0 expression

/-- `expression` under the given number of negations. -/
def negate : Nat → Expression → Expression
  | 0, expression => expression
  | count + 1, expression => negate count (.not expression)

@[simp]
theorem peelOnto_not (negations : Nat) (operand : Expression) :
    peelOnto negations (.not operand) = peelOnto (negations + 1) operand :=
  rfl

/-- The stripped negations put the expression together again. -/
theorem negate_peelOnto (negations : Nat) (expression : Expression) :
    negate (peelOnto negations expression).1 (peelOnto negations expression).2 =
      negate negations expression := by
  induction expression using induction generalizing negations with
  | not operand ih => rw [peelOnto_not, ih, negate]
  | empty => rfl
  | text _ => rfl
  | filter _ _ _ => rfl
  | and _ _ => rfl
  | or _ _ => rfl

/-- The number of negations at the root and the expression under them determine an
expression. -/
theorem negate_peel (expression : Expression) :
    negate expression.peel.1 expression.peel.2 = expression :=
  negate_peelOnto 0 expression

end Expression

end SearchQuery
