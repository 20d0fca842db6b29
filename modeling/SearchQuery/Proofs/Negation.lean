import SearchQuery.Criterion
import SearchQuery.Proofs.Operands

/-!
# Chains of negations

Every expression is a chain of negations, possibly of none, over an expression that
is not itself a negation. `Expression.chainInduction` is induction along this
decomposition: it takes a chain as a whole, as evaluation and compilation do, and
sets the clauses that cannot be answered apart from the others.
`Expression.overEmpty` tells the chains that stand over the empty expression, which
have nothing to negate.
-/

namespace SearchQuery.Expression

@[simp]
theorem negate_zero (expression : Expression) : negate 0 expression = expression :=
  rfl

theorem negate_succ (count : Nat) (expression : Expression) :
    negate (count + 1) expression = negate count (.not expression) :=
  rfl

/-- The outermost negation of a chain is one more negation. -/
theorem not_negate (count : Nat) (expression : Expression) :
    .not (negate count expression) = negate (count + 1) expression := by
  induction count generalizing expression with
  | zero => rfl
  | succ count ih =>
      rw [negate_succ, ih (.not expression)]
      rfl

/-- An expression that a chain of negations can stand over: it is no negation itself,
and it is not empty, so that there is something to negate. -/
def IsChainBase (expression : Expression) : Prop :=
  expression ≠ .empty ∧ ∀ operand, expression ≠ .not operand

@[simp]
theorem isChainBase_text (value : String) : IsChainBase (.text value) := by
  simp [IsChainBase]

@[simp]
theorem isChainBase_filter (field : Field) (operator : Operator) (value : String) :
    IsChainBase (.filter field operator value) := by
  simp [IsChainBase]

@[simp]
theorem isChainBase_and (operands : List Expression) : IsChainBase (.and operands) := by
  simp [IsChainBase]

@[simp]
theorem isChainBase_or (operands : List Expression) : IsChainBase (.or operands) := by
  simp [IsChainBase]

/-- Induction that takes every chain of negations as a whole: over the empty
expression, or over a base for which the motive is known. Clauses that cannot be
answered are cases of their own: filters that name no criterion, connectives without
operands, and negations of nothing. -/
@[elab_as_elim]
theorem chainInduction {motive : Expression → Prop} (empty : motive .empty)
    (emptyChain : ∀ count, motive (negate (count + 1) .empty))
    (text : ∀ value, motive (.text value))
    (criterion : ∀ field operator value criterion,
      Criterion.ofFilter field operator value = .ok criterion →
      motive (.filter field operator value))
    (invalidFilter : ∀ field operator value issue,
      Criterion.ofFilter field operator value = .error issue →
      motive (.filter field operator value))
    (noOperands : ∀ connective, motive (connect connective []))
    (connect : ∀ connective operands, operands ≠ [] → (∀ operand ∈ operands, motive operand) →
      motive (connect connective operands))
    (chain : ∀ count base, base.IsChainBase → motive base → motive (negate count base))
    (expression : Expression) : motive expression := by
  have connected : ∀ connective operands, (∀ operand ∈ operands, motive operand) →
      motive (.connect connective operands) := by
    intro connective operands each
    by_cases nonempty : operands = []
    · rw [nonempty]
      exact noOperands connective
    · exact connect connective operands nonempty each
  -- A chain is met at its top, so the motive is shown for every further chain above.
  suffices chains : ∀ count, motive (negate count expression) from chains 0
  induction expression using induction with
  | empty =>
      intro count
      cases count with
      | zero => exact empty
      | succ count => exact emptyChain count
  | text value => exact fun count => chain count _ (by simp) (text value)
  | filter field operator value =>
      intro count
      apply chain count _ (by simp)
      cases resolved : Criterion.ofFilter field operator value with
      | ok found => exact criterion field operator value found resolved
      | error issue => exact invalidFilter field operator value issue resolved
  | and operands ih =>
      intro count
      apply chain count _ (by simp)
      exact connected .and operands fun operand mem => ih operand mem 0
  | or operands ih =>
      intro count
      apply chain count _ (by simp)
      exact connected .or operands fun operand mem => ih operand mem 0
  | not operand ih => exact fun count => ih (count + 1)

/-- Whether the chain of negations at the root stands over the empty expression. -/
def overEmpty : Expression → Bool
  | .empty => true
  | .not operand => operand.overEmpty
  | _ => false

@[simp]
theorem overEmpty_negate (count : Nat) (expression : Expression) :
    (negate count expression).overEmpty = expression.overEmpty := by
  induction count generalizing expression with
  | zero => rfl
  | succ count ih =>
      rw [negate_succ, ih (.not expression)]
      rfl

theorem IsChainBase.overEmpty_eq_false {base : Expression} (isBase : base.IsChainBase) :
    base.overEmpty = false := by
  cases base with
  | empty => exact absurd rfl isBase.1
  | not operand => exact absurd rfl (isBase.2 operand)
  | text value => rfl
  | filter field operator value => rfl
  | and operands => rfl
  | or operands => rfl

/-! ## The expression under a chain -/

theorem peel_not (operand : Expression) : (Expression.not operand).peel.2 = operand.peel.2 := by
  suffices any : ∀ onto onto', (peelOnto onto operand).2 = (peelOnto onto' operand).2 from any 1 0
  induction operand using induction with
  | not operand ih => exact fun onto onto' => ih (onto + 1) (onto' + 1)
  | empty | text _ | filter _ _ _ | and _ _ | or _ _ => exact fun _ _ => rfl

@[simp]
theorem peel_negate (count : Nat) (expression : Expression) :
    (negate count expression).peel.2 = expression.peel.2 := by
  induction count generalizing expression with
  | zero => rfl
  | succ count ih => rw [negate_succ, ih (.not expression), peel_not]

@[simp]
theorem peel_empty : peel .empty = (0, .empty) :=
  rfl

theorem IsChainBase.peel {base : Expression} (isBase : base.IsChainBase) : base.peel.2 = base := by
  cases base with
  | not operand => exact absurd rfl (isBase.2 operand)
  | empty | text _ | filter _ _ _ | and _ | or _ => rfl

/-- The expression under a chain is empty or a base. -/
theorem peel_eq_empty_or_isChainBase (expression : Expression) :
    expression.peel.2 = .empty ∨ expression.peel.2.IsChainBase := by
  induction expression using induction with
  | empty => exact .inl rfl
  | not operand ih => rwa [peel_not]
  | text _ | filter _ _ _ | and _ _ | or _ _ => exact .inr (by simp [peel, peelOnto])

/-- Every expression is a chain of negations over the empty expression or over a base. -/
theorem exists_negate (expression : Expression) :
    ∃ count base, expression = negate count base ∧ (base = .empty ∨ base.IsChainBase) :=
  ⟨expression.peel.1, expression.peel.2, (negate_peel expression).symm,
    peel_eq_empty_or_isChainBase expression⟩

theorem sizeOf_peel_le (expression : Expression) :
    sizeOf expression.peel.2 ≤ sizeOf expression := by
  induction expression using induction with
  | not operand ih =>
      rw [peel_not]
      calc
        sizeOf operand.peel.2 ≤ sizeOf operand := ih
        _ ≤ sizeOf (Expression.not operand) := by simp
  | empty | text _ | filter _ _ _ | and _ _ | or _ _ => exact Nat.le_refl _

/-- Over the empty expression stand exactly the chains of negations of it. -/
theorem overEmpty_iff {expression : Expression} :
    expression.overEmpty = true ↔ ∃ count, expression = negate count .empty := by
  constructor
  · intro standsOverEmpty
    obtain ⟨count, base, rfl, rfl | isBase⟩ := exists_negate expression
    · exact ⟨count, rfl⟩
    · rw [overEmpty_negate, isBase.overEmpty_eq_false] at standsOverEmpty
      contradiction
  · rintro ⟨count, rfl⟩
    simp [overEmpty]

end SearchQuery.Expression
