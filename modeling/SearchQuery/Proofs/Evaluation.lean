import SearchQuery.Evaluation
import SearchQuery.Proofs.Negation
import Mathlib.Tactic.SplitIfs

/-!
# Laws of evaluation

The predicate of an expression is determined one node at a time. A chain of
negations, which evaluation takes as a whole, acts on a predicate as
`Predicate.under` does, and `matchesDocument_not` and `isDegraded_not` give the
effect of a single negation.
-/

namespace SearchQuery

namespace Predicate

@[simp]
theorem under_zero (operand : Predicate) : operand.under 0 = operand :=
  rfl

@[simp]
theorem rejected_under (negations : Nat) : rejected.under negations = rejected := by
  cases negations with
  | zero => rfl
  | succ negations => simp [under, rejected]

/-- Negations neither raise nor clear the mark of an invalid clause. -/
@[simp]
theorem degraded_under (operand : Predicate) (negations : Nat) :
    (operand.under negations).degraded = operand.degraded := by
  unfold under
  split_ifs with none_above invalid even
  · rfl
  · rw [invalid]
    rfl
  · rfl
  · simp [invalid]

/-- One more negation turns the result around, unless an invalid clause is inside. -/
theorem test_under_succ (operand : Predicate) (negations : Nat) (document : Document) :
    (operand.under (negations + 1)).test document =
      (!operand.degraded && !(operand.under negations).test document) := by
  cases degraded : operand.degraded with
  | true => simp [under, degraded, rejected]
  | false =>
      rcases Nat.mod_two_eq_zero_or_one negations with even | odd
      · have next_odd : (negations + 1) % 2 = 1 := by omega
        simp [under, degraded, even, next_odd]
      · have next_even : (negations + 1) % 2 = 0 := by omega
        have positive : negations ≠ 0 := by rintro rfl; contradiction
        simp [under, degraded, odd, next_even, positive]

end Predicate

theorem Criterion.test_predicate (criterion : Criterion) (document : Document) :
    criterion.predicate.test document = criterion.holds document :=
  rfl

/-- A field whose filters search a part of the document for a term: they may ask for equality, with
any value, and for nothing else. -/
structure Field.Searches (field : Field) (place : TextPlace) : Prop where
  accepts (value : String) : Criterion.ofFilter field .equal value = .ok (.contains place value)
  refuses (comparison : Comparison) (value : String) :
    Criterion.ofFilter field (.ordering comparison) value =
      .error (.unsupportedOperator field (.ordering comparison))

theorem Field.Searches.name : Field.Searches .name .name :=
  ⟨fun _ => rfl, fun _ _ => rfl⟩

theorem Field.Searches.content : Field.Searches .content .content :=
  ⟨fun _ => rfl, fun _ _ => rfl⟩

namespace Expression

/-! ## The predicate of each kind of node -/

@[simp]
theorem predicate_empty : predicate .empty = .ofTest fun _ => true := by
  simp [predicate, predicateUnder]

@[simp]
theorem predicate_text (value : String) :
    predicate (.text value) = (Criterion.contains .nameOrContent value).predicate := by
  simp [predicate, predicateUnder]

theorem predicate_filter_of_ok {field : Field} {operator : Operator} {value : String}
    {criterion : Criterion} (valid : Criterion.ofFilter field operator value = .ok criterion) :
    predicate (.filter field operator value) = criterion.predicate := by
  simp [predicate, predicateUnder, valid]

theorem predicate_filter_of_error {field : Field} {operator : Operator} {value : String}
    {issue : Issue} (invalid : Criterion.ofFilter field operator value = .error issue) :
    predicate (.filter field operator value) = .rejected := by
  simp [predicate, predicateUnder, invalid]

@[simp]
theorem predicate_and_nil : predicate (.and []) = .rejected := by
  simp [predicate, predicateUnder]

@[simp]
theorem predicate_or_nil : predicate (.or []) = .rejected := by
  simp [predicate, predicateUnder]

theorem predicate_and {operands : List Expression} (nonempty : operands ≠ []) :
    predicate (.and operands) = .conjunction (operands.map predicate) := by
  obtain ⟨first, rest, rfl⟩ := List.exists_cons_of_ne_nil nonempty
  simp only [predicate, predicateUnder, Predicate.under_zero]
  rfl

theorem predicate_or {operands : List Expression} (nonempty : operands ≠ []) :
    predicate (.or operands) = .disjunction (operands.map predicate) := by
  obtain ⟨first, rest, rfl⟩ := List.exists_cons_of_ne_nil nonempty
  simp only [predicate, predicateUnder, Predicate.under_zero]
  rfl

/-! ## Invalid clauses -/

@[simp]
theorem isDegraded_empty : isDegraded .empty = false := by
  simp [isDegraded, Predicate.ofTest]

@[simp]
theorem isDegraded_text (value : String) : isDegraded (.text value) = false := by
  simp [isDegraded, Criterion.predicate, Predicate.ofTest]

theorem isDegraded_filter_of_ok {field : Field} {operator : Operator} {value : String}
    {criterion : Criterion} (valid : Criterion.ofFilter field operator value = .ok criterion) :
    isDegraded (.filter field operator value) = false := by
  simp [isDegraded, predicate_filter_of_ok valid, Criterion.predicate, Predicate.ofTest]

theorem isDegraded_filter_of_error {field : Field} {operator : Operator} {value : String}
    {issue : Issue} (invalid : Criterion.ofFilter field operator value = .error issue) :
    isDegraded (.filter field operator value) = true := by
  simp [isDegraded, predicate_filter_of_error invalid, Predicate.rejected]

/-- A connective is invalid if it has no operands or an invalid one. -/
@[simp]
theorem isDegraded_and (operands : List Expression) :
    isDegraded (.and operands) = (operands.isEmpty || operands.any isDegraded) := by
  cases operands with
  | nil => simp [isDegraded, Predicate.rejected]
  | cons first rest =>
      rw [isDegraded, predicate_and (List.cons_ne_nil first rest), Predicate.conjunction,
        List.any_map]
      rfl

@[simp]
theorem isDegraded_or (operands : List Expression) :
    isDegraded (.or operands) = (operands.isEmpty || operands.any isDegraded) := by
  cases operands with
  | nil => simp [isDegraded, Predicate.rejected]
  | cons first rest =>
      rw [isDegraded, predicate_or (List.cons_ne_nil first rest), Predicate.disjunction,
        List.any_map]
      rfl

theorem isDegraded_connect (connective : Connective) (operands : List Expression) :
    isDegraded (.connect connective operands) = (operands.isEmpty || operands.any isDegraded) := by
  cases connective with
  | and => exact isDegraded_and operands
  | or => exact isDegraded_or operands

/-! ## Matching of filters and connectives -/

/-- An accepted filter matches the documents that meet its criterion. -/
theorem matchesDocument_filter {field : Field} {operator : Operator} {value : String}
    {criterion : Criterion} (valid : Criterion.ofFilter field operator value = .ok criterion)
    (document : Document) :
    matchesDocument (.filter field operator value) document = criterion.holds document := by
  rw [matchesDocument, predicate_filter_of_ok valid, Criterion.test_predicate]

theorem matchesDocument_and (operands : List Expression) (document : Document) :
    matchesDocument (.and operands) document =
      (!operands.isEmpty && operands.all (·.matchesDocument document)) := by
  cases operands with
  | nil => simp [matchesDocument, Predicate.rejected]
  | cons first rest =>
      simp [matchesDocument, predicate_and (List.cons_ne_nil first rest), Predicate.conjunction,
        Function.comp_def]

theorem matchesDocument_or (operands : List Expression) (document : Document) :
    matchesDocument (.or operands) document = operands.any (·.matchesDocument document) := by
  cases operands with
  | nil => simp [matchesDocument, Predicate.rejected]
  | cons first rest =>
      simp [matchesDocument, predicate_or (List.cons_ne_nil first rest), Predicate.disjunction,
        Function.comp_def]

/-- A connective matches by the value it makes of its operands, if it has any. -/
theorem matchesDocument_connect (connective : Connective) (operands : List Expression)
    (document : Document) :
    matchesDocument (.connect connective operands) document =
      (!operands.isEmpty && connective.value (operands.map (·.matchesDocument document))) := by
  cases connective with
  | and =>
      rw [connect, matchesDocument_and, Connective.value, List.all_map]
      rfl
  | or =>
      rw [connect, matchesDocument_or, Connective.value, List.any_map]
      cases operands <;> rfl

/-! ## Chains of negations -/

/-- The number handed down in evaluation is the number of negations above. -/
theorem predicateUnder_eq_predicate_negate (negations : Nat) (expression : Expression) :
    expression.predicateUnder negations = (negate negations expression).predicate := by
  induction negations generalizing expression with
  | zero => rfl
  | succ negations ih =>
      rw [negate_succ, ← ih (.not expression), predicateUnder]

/-- A negation of the empty expression is invalid, under any further negations. -/
@[simp]
theorem predicate_negate_empty (negations : Nat) :
    (negate (negations + 1) .empty).predicate = .rejected := by
  rw [← predicateUnder_eq_predicate_negate]
  simp [predicateUnder]

/-- A chain over a base acts on the predicate of the base. -/
theorem predicate_negate {base : Expression} (isBase : base.IsChainBase) (negations : Nat) :
    (negate negations base).predicate = base.predicate.under negations := by
  rw [← predicateUnder_eq_predicate_negate]
  cases base with
  | empty => exact absurd rfl isBase.1
  | text value => simp [predicateUnder]
  | filter field operator value =>
      cases resolved : Criterion.ofFilter field operator value with
      | ok criterion => simp [predicateUnder, predicate_filter_of_ok resolved, resolved]
      | error issue => simp [predicateUnder, predicate_filter_of_error resolved, resolved]
  | and operands =>
      cases operands with
      | nil => simp [predicateUnder]
      | cons first rest =>
          rw [predicate_and (List.cons_ne_nil first rest), predicateUnder]
          · rfl
          · exact List.cons_ne_nil first rest
  | or operands =>
      cases operands with
      | nil => simp [predicateUnder]
      | cons first rest =>
          rw [predicate_or (List.cons_ne_nil first rest), predicateUnder]
          · rfl
          · exact List.cons_ne_nil first rest
  | not operand => exact absurd rfl (isBase.2 operand)

/-- A chain over a base is invalid exactly when the base is. -/
theorem isDegraded_negate {base : Expression} (isBase : base.IsChainBase) (count : Nat) :
    isDegraded (negate count base) = isDegraded base := by
  rw [isDegraded, isDegraded, predicate_negate isBase, Predicate.degraded_under]

/-- A chain over the empty expression is invalid unless it has no negation at all. -/
theorem isDegraded_negate_empty (count : Nat) :
    isDegraded (negate (count + 1) .empty) = true := by
  rw [isDegraded, predicate_negate_empty]
  rfl

/-- A negation is invalid if its operand is, or if there is nothing to negate. -/
@[simp]
theorem isDegraded_not (operand : Expression) :
    isDegraded (.not operand) = (operand.overEmpty || operand.isDegraded) := by
  obtain ⟨count, base, rfl, rfl | isBase⟩ := exists_negate operand
  · rw [not_negate, isDegraded_negate_empty]
    simp [overEmpty]
  · rw [not_negate, isDegraded_negate isBase, isDegraded_negate isBase]
    simp [isBase.overEmpty_eq_false]

/-- A valid negation matches what its operand does not; an invalid one matches nothing. -/
theorem matchesDocument_not (operand : Expression) (document : Document) :
    matchesDocument (.not operand) document =
      (!isDegraded (.not operand) && !operand.matchesDocument document) := by
  obtain ⟨count, base, rfl, rfl | isBase⟩ := exists_negate operand
  · rw [isDegraded_not, matchesDocument, not_negate, predicate_negate_empty]
    simp [Predicate.rejected, overEmpty]
  · rw [isDegraded, matchesDocument, matchesDocument, not_negate, predicate_negate isBase,
      predicate_negate isBase, Predicate.test_under_succ, Predicate.degraded_under]

end Expression

end SearchQuery
