import SearchQuery.Proofs.Evaluation

/-!
# Expressions that can stand for each other

Two expressions match the same documents in every context if they match the same documents by
themselves, are both valid or both not, and stand both over the empty expression or both not. The
other two conditions count under negations: a negation of an invalid clause matches nothing, and
so does a negation of nothing.
-/

namespace SearchQuery.Expression

theorem overEmpty_connect (connective : Connective) (operands : List Expression) :
    (connect connective operands).overEmpty = false := by
  cases connective <;> rfl

/-- Expressions that evaluation does not tell apart, in whatever context they stand. -/
structure Interchangeable (left right : Expression) : Prop where
  overEmpty : left.overEmpty = right.overEmpty
  isDegraded : left.isDegraded = right.isDegraded
  matchesDocument : ∀ document, left.matchesDocument document = right.matchesDocument document

namespace Interchangeable

variable {left right third : Expression}

theorem refl (expression : Expression) : Interchangeable expression expression :=
  ⟨rfl, rfl, fun _ => rfl⟩

theorem symm (alike : Interchangeable left right) : Interchangeable right left :=
  ⟨alike.overEmpty.symm, alike.isDegraded.symm, fun document =>
    (alike.matchesDocument document).symm⟩

theorem trans (first : Interchangeable left right) (second : Interchangeable right third) :
    Interchangeable left third :=
  ⟨first.overEmpty.trans second.overEmpty, first.isDegraded.trans second.isDegraded,
    fun document => (first.matchesDocument document).trans (second.matchesDocument document)⟩

theorem not (alike : Interchangeable left right) : Interchangeable (.not left) (.not right) := by
  have degraded : Expression.isDegraded (.not left) = Expression.isDegraded (.not right) := by
    rw [isDegraded_not, isDegraded_not, alike.overEmpty, alike.isDegraded]
  refine ⟨alike.overEmpty, degraded, fun document => ?_⟩
  rw [matchesDocument_not, matchesDocument_not, degraded, alike.matchesDocument]

theorem connect (connective : Connective) {operands others : List Expression}
    (alike : List.Forall₂ Interchangeable operands others) :
    Interchangeable (.connect connective operands) (.connect connective others) := by
  have sameEmpty : operands.isEmpty = others.isEmpty := by
    cases alike <;> rfl
  have sameDegraded : operands.map Expression.isDegraded = others.map Expression.isDegraded :=
    Operands.map_eq_of_forall₂ (alike.imp fun _ _ each => each.isDegraded)
  constructor
  · rw [overEmpty_connect, overEmpty_connect]
  · rw [isDegraded_connect, isDegraded_connect, sameEmpty, ← Function.id_comp Expression.isDegraded,
      ← List.any_map, ← List.any_map, sameDegraded]
  · intro document
    have sameMatches : operands.map (·.matchesDocument document) =
        others.map (·.matchesDocument document) :=
      Operands.map_eq_of_forall₂ (alike.imp fun _ _ each => each.matchesDocument document)
    rw [matchesDocument_connect, matchesDocument_connect, sameEmpty, sameMatches]

section Filters

variable {field otherField : Field} {operator otherOperator : Operator} {value otherValue : String}

/-- Accepted filters can stand for each other if the same documents meet their criteria. -/
theorem filter_of_ok {criterion otherCriterion : Criterion}
    (valid : Criterion.ofFilter field operator value = .ok criterion)
    (otherValid : Criterion.ofFilter otherField otherOperator otherValue = .ok otherCriterion)
    (alike : ∀ document, criterion.holds document = otherCriterion.holds document) :
    Interchangeable (.filter field operator value)
      (.filter otherField otherOperator otherValue) := by
  refine ⟨rfl, ?_, fun document => ?_⟩
  · rw [isDegraded_filter_of_ok valid, isDegraded_filter_of_ok otherValid]
  · rw [matchesDocument_filter valid, matchesDocument_filter otherValid, alike]

/-- Rejected filters can stand for each other, whatever is wrong with them. -/
theorem filter_of_error {issue otherIssue : Issue}
    (invalid : Criterion.ofFilter field operator value = .error issue)
    (otherInvalid : Criterion.ofFilter otherField otherOperator otherValue = .error otherIssue) :
    Interchangeable (.filter field operator value)
      (.filter otherField otherOperator otherValue) := by
  refine ⟨rfl, ?_, fun document => ?_⟩
  · rw [isDegraded_filter_of_error invalid, isDegraded_filter_of_error otherInvalid]
  · rw [Expression.matchesDocument, predicate_filter_of_error invalid, Expression.matchesDocument,
      predicate_filter_of_error otherInvalid]

end Filters

section Terms

variable {value otherValue : String}

/-- Texts can stand for each other if the same documents contain them. -/
theorem text (alike : ∀ document, Criterion.holds document (.contains .nameOrContent value) =
      Criterion.holds document (.contains .nameOrContent otherValue)) :
    Interchangeable (.text value) (.text otherValue) := by
  refine ⟨rfl, ?_, fun document => ?_⟩
  · rw [isDegraded_text, isDegraded_text]
  · rw [Expression.matchesDocument, predicate_text, Expression.matchesDocument, predicate_text,
      Criterion.test_predicate, Criterion.test_predicate, alike]

/-- The filters on a text compare the value at their place, or they order texts and are invalid. -/
theorem filter_of_searches {field : Field} {place : TextPlace} (searches : field.Searches place)
    (alike : ∀ document, Criterion.holds document (.contains place value) =
      Criterion.holds document (.contains place otherValue)) (operator : Operator) :
    Interchangeable (.filter field operator value) (.filter field operator otherValue) := by
  cases operator with
  | equal => exact .filter_of_ok (searches.accepts _) (searches.accepts _) alike
  | ordering comparison =>
      exact .filter_of_error (searches.refuses comparison _) (searches.refuses comparison _)

end Terms

end Interchangeable

end SearchQuery.Expression
