import SearchQuery.Proofs.Diagnosis
import SearchQuery.Proofs.Sql.Rendering

/-!
# SQL agrees with evaluation

The condition of an expression is true for a row exactly when the expression matches
the document, provided that this holds for every term of the expression: the texts
and the valid filters. What a term finds in a full-text index is thus left open, and
all that joins terms together is settled, invalid clauses included.

`compile_agrees` says so of formulas, where every leaf may have any value, and of the
SQL text as it is read back.
-/

namespace SearchQuery.Expression

open SearchQuery.Sql

/-- The texts and the valid filters of an expression, from left to right. -/
def terms : Expression → List Expression
  | .empty => []
  | .text value => [.text value]
  | .filter field operator value =>
      match Criterion.ofFilter field operator value with
      | .ok _ => [.filter field operator value]
      | .error _ => []
  | .and operands => operands.flatMap terms
  | .or operands => operands.flatMap terms
  | .not operand => operand.terms

@[simp]
theorem terms_text (value : String) : terms (.text value) = [.text value] := by
  rw [terms]

theorem terms_filter_of_ok {field : Field} {operator : Operator} {value : String}
    {criterion : Criterion} (valid : Criterion.ofFilter field operator value = .ok criterion) :
    terms (.filter field operator value) = [.filter field operator value] := by
  rw [terms, valid]

@[simp]
theorem terms_connect (connective : Connective) (operands : List Expression) :
    terms (.connect connective operands) = operands.flatMap terms := by
  cases connective <;> rw [connect, terms]

@[simp]
theorem terms_negate (count : Nat) (expression : Expression) :
    terms (negate count expression) = terms expression := by
  induction count generalizing expression with
  | zero => rfl
  | succ count ih => rw [negate_succ, ih (.not expression), terms]

end SearchQuery.Expression

namespace SearchQuery.Sql

/-- Negations act alike on a condition and on a predicate that agree, both in value and
in whether an invalid clause is inside. -/
theorem Lowered.eval_under {operand : Lowered} {predicate : Predicate} {document : Document}
    {valuation : Leaf → Bool} (degraded : operand.degraded = predicate.degraded)
    (same : operand.condition.eval valuation = predicate.test document) (negations : Nat) :
    (operand.under negations).condition.eval valuation =
      (predicate.under negations).test document := by
  unfold Lowered.under Predicate.under
  rw [degraded]
  split_ifs with none_above invalid even
  · exact same
  · rw [Condition.eval_never]
    rfl
  · exact same
  · rw [Condition.eval_negation, same]

end SearchQuery.Sql

namespace SearchQuery.Expression

open SearchQuery.Sql

/-- If the terms of an expression agree with a valuation, so does the expression. -/
theorem eval_condition_lower (scope : String) {expression : Expression} {document : Document}
    {valuation : Leaf → Bool}
    (agree : ∀ term ∈ expression.terms,
      (term.lower scope).condition.eval valuation = term.matchesDocument document) :
    (expression.lower scope).condition.eval valuation = expression.matchesDocument document := by
  induction expression using chainInduction with
  | empty =>
      rw [lower_empty, Lowered.condition_clean, Condition.eval_always, matchesDocument,
        predicate_empty]
      rfl
  | emptyChain count =>
      rw [lower_negate_empty, Lowered.condition_rejected, Condition.eval_never, matchesDocument,
        predicate_negate_empty]
      rfl
  | text value =>
      apply agree
      simp
  | criterion field operator value criterion valid =>
      apply agree
      simp [terms_filter_of_ok valid]
  | invalidFilter field operator value issue invalid =>
      rw [lower_filter_of_error scope invalid, Lowered.condition_rejected, Condition.eval_never,
        matchesDocument, predicate_filter_of_error invalid]
      rfl
  | noOperands connective =>
      rw [lower_connect_nil, Lowered.condition_rejected, Condition.eval_never,
        matchesDocument_connect]
      rfl
  | connect connective operands nonempty ih =>
      have operandsAgree : ∀ operand ∈ operands,
          (operand.lower scope).condition.eval valuation = operand.matchesDocument document := by
        intro operand mem
        apply ih operand mem
        intro term termMem
        apply agree
        rw [terms_connect]
        exact List.mem_flatMap.mpr ⟨operand, mem, termMem⟩
      rw [lower_connect scope connective nonempty, Lowered.eval_join, List.map_map,
        matchesDocument_connect, List.isEmpty_eq_false_iff.mpr nonempty, Bool.not_false,
        Bool.true_and]
      exact congrArg connective.value (List.map_congr_left operandsAgree)
  | chain count base isBase ih =>
      rw [terms_negate] at agree
      rw [lower_negate scope isBase, matchesDocument, predicate_negate isBase]
      exact Lowered.eval_under (degraded_lower scope base) (ih agree) count

/-- The SQL of an expression is read as its condition. -/
theorem truth?_compile (compiler : Compiler) (scope : String)
    (comparison : List Grammar.Item → Bool) (expression : Expression) :
    (compiler.compile expression scope).fragment.truth? comparison =
      some ((expression.lower scope).condition.eval fun leaf =>
        Grammar.truth comparison (leaf.items compiler.schema scope)) :=
  Condition.truth?_fragment compiler.valid scope comparison (isProper_lower scope expression)

/-- The SQL of an expression is a formula in which every junction of two or more
operands and every operand of NOT has its own parentheses.

- Read back from its text, it has the value of this formula, whatever the elementary
  comparisons are, where each leaf has the value of its own SQL.
- The formula has the value that evaluation gives the expression, under every valuation
  of the leaves under which this holds for the terms.
- So has the text, if the texts of the terms do. -/
theorem compile_agrees (compiler : Compiler) (expression : Expression) (scope : String) :
    let formula := (expression.lower scope).condition
    let fragment := (compiler.compile expression scope).fragment
    formula.IsProper ∧ fragment = formula.fragment compiler.schema scope ∧
      (∀ comparison, ∃ valuation : Leaf → Bool,
        (∀ leaf, (leaf.fragment compiler.schema scope).truth? comparison = some (valuation leaf)) ∧
          fragment.truth? comparison = some (formula.eval valuation)) ∧
      (∀ document valuation,
        (∀ term ∈ expression.terms,
          (term.lower scope).condition.eval valuation = term.matchesDocument document) →
        formula.eval valuation = expression.matchesDocument document) ∧
      ∀ document comparison,
        (∀ term ∈ expression.terms,
          (compiler.compile term scope).fragment.truth? comparison =
            some (term.matchesDocument document)) →
        fragment.truth? comparison = some (expression.matchesDocument document) := by
  intro formula fragment
  refine ⟨isProper_lower scope expression, rfl, ?_, ?_, ?_⟩
  · intro comparison
    refine ⟨fun leaf => Grammar.truth comparison (leaf.items compiler.schema scope), ?_, ?_⟩
    · intro leaf
      exact (leaf.reads_fragment compiler.valid scope).truth?_eq_some comparison
    · exact truth?_compile compiler scope comparison expression
  · intro document valuation agree
    exact eval_condition_lower scope agree
  · intro document comparison agree
    rw [truth?_compile, Option.some_inj]
    apply eval_condition_lower
    intro term mem
    have termAgrees := agree term mem
    rwa [truth?_compile, Option.some_inj] at termAgrees

/-- Around an invalid clause and a double negation, formula and text have the value of
the match for a document with a tag. -/
theorem compile_agrees_around_invalid_clause :
    let tagged := Expression.filter .has .equal "tags"
    let invalid := Expression.filter .name (.ordering .less) "a"
    let expression := Expression.or [.not (.and [tagged, invalid]), .not (.not tagged)]
    let document : Document := ⟨"doc", "Plan", "flour", [⟨"t1", "cooking"⟩], ⟨0, 0, by decide⟩⟩
    let valuation : Leaf → Bool := fun leaf => leaf == .hasTags
    let comparison : List Grammar.Item → Bool := fun _ => true
    (∀ term ∈ expression.terms,
        (term.lower "org_1").condition.eval valuation = term.matchesDocument document) ∧
      (∀ term ∈ expression.terms,
        (Compiler.standard.compile term "org_1").fragment.truth? comparison =
          some (term.matchesDocument document)) ∧
      (expression.lower "org_1").condition.eval valuation = expression.matchesDocument document ∧
      (Compiler.standard.compile expression "org_1").fragment.truth? comparison =
        some (expression.matchesDocument document) := by
  intro tagged invalid expression document valuation comparison
  have asks : Criterion.ofFilter .has .equal "tags" = .ok .hasTags := rfl
  have rejects : Criterion.ofFilter .name (.ordering .less) "a" =
      .error (.unsupportedOperator .name (.ordering .less)) := rfl
  have found : tagged.matchesDocument document = true := by
    rw [matchesDocument, predicate_filter_of_ok asks]
    rfl
  have lowered : (tagged.lower "org_1").condition = .leaf .hasTags := by
    rw [lower_filter_of_ok "org_1" asks]
    rfl
  have onlyTagged : ∀ term ∈ expression.terms, term = tagged := by
    simp [expression, tagged, invalid, terms, asks, rejects]
  have formulas : ∀ term ∈ expression.terms,
      (term.lower "org_1").condition.eval valuation = term.matchesDocument document := by
    intro term mem
    rw [onlyTagged term mem, found, lowered, Condition.eval_leaf]
    rfl
  have texts : ∀ term ∈ expression.terms,
      (Compiler.standard.compile term "org_1").fragment.truth? comparison =
        some (term.matchesDocument document) := by
    intro term mem
    rw [onlyTagged term mem, found, truth?_compile, lowered, Condition.eval_leaf,
      Grammar.truth_of_isOperand comparison (Leaf.isOperand_items "org_1" .hasTags)]
    simp [comparison, Leaf.items, Leaf.tagItems, Grammar.words, Grammar.operandTruth]
  have agrees := compile_agrees .standard expression "org_1"
  exact ⟨formulas, texts, agrees.2.2.2.1 document valuation formulas,
    agrees.2.2.2.2 document comparison texts⟩

end SearchQuery.Expression
