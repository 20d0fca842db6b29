import SearchQuery.Proofs.Evaluation
import SearchQuery.Proofs.Operands

/-!
# Invalid clauses never widen a result

A clause is invalid if it is a filter that names no criterion, a connective without
operands, or a chain of negations of the empty expression. `Expression.Repairs` lets
any number of invalid clauses be replaced by arbitrary expressions, at any depth and
under any negations. A document that matches before the repair still matches after
it: to leave an invalid clause in place can only narrow the result.

The argument needs no comparison under negations. An expression without invalid
clauses cannot be repaired except to itself, and a negation with an invalid clause
inside matches nothing.
-/

namespace SearchQuery.Expression

open SearchQuery.Operands

/-- A clause that cannot be answered. -/
inductive IsInvalidClause : Expression → Prop
  /-- The filter names no criterion. -/
  | filter {field : Field} {operator : Operator} {value : String} {issue : Issue}
      (rejected : Criterion.ofFilter field operator value = .error issue) :
      IsInvalidClause (.filter field operator value)
  /-- AND joins nothing. -/
  | and : IsInvalidClause (.and [])
  /-- OR joins nothing. -/
  | or : IsInvalidClause (.or [])
  /-- There is nothing to negate. -/
  | negation (count : Nat) : IsInvalidClause (negate (count + 1) .empty)

/-- `Repairs source target`: some invalid clauses of `source` are replaced in
`target` by arbitrary expressions, and all else is left as it is. -/
inductive Repairs : Expression → Expression → Prop
  | clause {source : Expression} (target : Expression) (invalid : source.IsInvalidClause) :
      Repairs source target
  | unchanged (expression : Expression) : Repairs expression expression
  | and {sources targets : List Expression} (operands : List.Forall₂ Repairs sources targets) :
      Repairs (.and sources) (.and targets)
  | or {sources targets : List Expression} (operands : List.Forall₂ Repairs sources targets) :
      Repairs (.or sources) (.or targets)
  | not {source target : Expression} (operand : Repairs source target) :
      Repairs (.not source) (.not target)

theorem IsInvalidClause.isDegraded {expression : Expression}
    (invalid : expression.IsInvalidClause) : expression.isDegraded = true := by
  cases invalid with
  | filter rejected => exact isDegraded_filter_of_error rejected
  | and => simp
  | or => simp
  | negation count => exact isDegraded_negate_empty count

/-- An invalid clause matches nothing. -/
theorem IsInvalidClause.matchesDocument {expression : Expression}
    (invalid : expression.IsInvalidClause) (document : Document) :
    expression.matchesDocument document = false := by
  cases invalid with
  | filter rejected =>
      rw [Expression.matchesDocument, predicate_filter_of_error rejected]
      rfl
  | and => simp [matchesDocument_and]
  | or => simp [matchesDocument_or]
  | negation count =>
      rw [Expression.matchesDocument, predicate_negate_empty]
      rfl

/-- An expression without invalid clauses is repaired only to itself. -/
theorem Repairs.eq_of_isDegraded_eq_false {source target : Expression}
    (repairs : Repairs source target) (valid : source.isDegraded = false) : target = source := by
  induction source using induction generalizing target with
  | empty | text _ | filter _ _ _ =>
      cases repairs with
      | clause _ invalid => rw [invalid.isDegraded] at valid; contradiction
      | unchanged => rfl
  | and sources ih =>
      cases repairs with
      | clause _ invalid => rw [invalid.isDegraded] at valid; contradiction
      | unchanged => rfl
      | @and _ targets operands =>
          rw [isDegraded_and, Bool.or_eq_false_iff, List.any_eq_false] at valid
          have fixed : List.Forall₂ (· = ·) sources targets := by
            apply forall₂_imp_of_mem operands
            intro source mem target repaired
            exact (ih source mem repaired (Bool.eq_false_iff.mpr (valid.2 source mem))).symm
          rw [List.forall₂_eq_eq_eq] at fixed
          rw [fixed]
  | or sources ih =>
      cases repairs with
      | clause _ invalid => rw [invalid.isDegraded] at valid; contradiction
      | unchanged => rfl
      | @or _ targets operands =>
          rw [isDegraded_or, Bool.or_eq_false_iff, List.any_eq_false] at valid
          have fixed : List.Forall₂ (· = ·) sources targets := by
            apply forall₂_imp_of_mem operands
            intro source mem target repaired
            exact (ih source mem repaired (Bool.eq_false_iff.mpr (valid.2 source mem))).symm
          rw [List.forall₂_eq_eq_eq] at fixed
          rw [fixed]
  | not source ih =>
      cases repairs with
      | clause _ invalid => rw [invalid.isDegraded] at valid; contradiction
      | unchanged => rfl
      | not operand =>
          rw [isDegraded_not, Bool.or_eq_false_iff] at valid
          rw [ih operand valid.2]

/-- A repair never takes a matching document away. -/
theorem matchesDocument_of_repairs {source target : Expression} {document : Document}
    (repairs : Repairs source target) (matched : source.matchesDocument document = true) :
    target.matchesDocument document = true := by
  induction source using induction generalizing target with
  | empty | text _ | filter _ _ _ =>
      cases repairs with
      | clause _ invalid => rw [invalid.matchesDocument] at matched; contradiction
      | unchanged => exact matched
  | and sources ih =>
      cases repairs with
      | clause _ invalid => rw [invalid.matchesDocument] at matched; contradiction
      | unchanged => exact matched
      | and operands =>
          rw [matchesDocument_and, Bool.and_eq_true, Bool.not_eq_true',
            List.isEmpty_eq_false_iff] at matched ⊢
          have kept := forall₂_imp_of_mem operands fun source mem target repaired =>
            ih source mem repaired
          refine ⟨?_, all_of_forall₂ kept matched.2⟩
          rintro rfl
          exact matched.1 (List.forall₂_nil_right_iff.mp operands)
  | or sources ih =>
      cases repairs with
      | clause _ invalid => rw [invalid.matchesDocument] at matched; contradiction
      | unchanged => exact matched
      | or operands =>
          rw [matchesDocument_or] at matched ⊢
          have kept := forall₂_imp_of_mem operands fun source mem target repaired =>
            ih source mem repaired
          exact any_of_forall₂ kept matched
  | not source ih =>
      cases repairs with
      | clause _ invalid => rw [invalid.matchesDocument] at matched; contradiction
      | unchanged => exact matched
      | not operand =>
          rw [matchesDocument_not, Bool.and_eq_true, Bool.not_eq_true',
            Bool.not_eq_true'] at matched
          have unchanged := (Repairs.not operand).eq_of_isDegraded_eq_false matched.1
          rw [unchanged, matchesDocument_not, matched.1, matched.2]
          rfl

/-- A filter that orders names is invalid. When it is replaced, below a negation, by
the search for a term, a document that matched by its tag still matches. -/
theorem matchesDocument_of_repairs_below_negation :
    let tagged := Expression.filter .has .equal "tags"
    let source := Expression.or
      [.not (.and [tagged, .filter .name (.ordering .less) "a"]), .not (.not tagged)]
    let target := Expression.or [.not (.and [tagged, .text "flour"]), .not (.not tagged)]
    let document : Document := ⟨"doc", "Plan", "flour", [⟨"t1", "cooking"⟩], ⟨0, 0, by decide⟩⟩
    Repairs source target ∧ source.matchesDocument document = true ∧
      target.matchesDocument document = true := by
  intro tagged source target document
  have repairs : Repairs source target := by
    refine .or (.cons (.not (.and ?_)) (.cons (.unchanged _) .nil))
    exact .cons (.unchanged _) (.cons (.clause _ (.filter rfl)) .nil)
  have asks : Criterion.ofFilter .has .equal "tags" = .ok .hasTags := rfl
  have found : tagged.matchesDocument document = true := by
    rw [matchesDocument, predicate_filter_of_ok asks]
    rfl
  have matched : source.matchesDocument document = true := by
    have valid : tagged.isDegraded = false := isDegraded_filter_of_ok asks
    have something : tagged.overEmpty = false := rfl
    simp [source, matchesDocument_or, matchesDocument_not, overEmpty, found, valid, something]
  exact ⟨repairs, matched, matchesDocument_of_repairs repairs matched⟩

end SearchQuery.Expression
