import SearchQuery.Proofs.Sql.Agreement
import SearchQuery.Proofs.Sql.Confinement

/-!
# Constant SQL

Every leaf binds the scope, so a fragment without parameters is a formula over the two
constants, and it has one value for all rows. This value is that of evaluation, on every
document, if there is a letter or digit in the scope.

With any other scope no term is looked up in the full-text index, and nothing is reported of
that. Terms are then never found in SQL, while evaluation knows no scope and finds them: the
two backends agree only on the documents that no term of the expression is found in, and a
negated term holds for all documents.
-/

namespace SearchQuery.Sql

/-! ## Leaves and parameters -/

/-- The leaves of a condition, from left to right. -/
def Condition.leaves : Condition → List Leaf
  | .always => []
  | .never => []
  | .leaf question => [question]
  | .junction _ operands => operands.flatMap leaves
  | .negation operand => operand.leaves

theorem Leaf.scope_mem_params_fragment (schema : Schema) (scope : String) (leaf : Leaf) :
    .text scope ∈ (leaf.fragment schema scope).params := by
  cases leaf with
  | fullText _ _ _ | hasTags | createdOn _ | created _ _ =>
      simp [fragment, inScope, tagMembership]
  | tagged _ id =>
      cases id with
      | none | some _ => simp [fragment, tagMembership]

/-- A fragment has no parameters only if its condition has no leaves. -/
theorem Condition.params_fragment_eq_nil_iff (schema : Schema) (scope : String)
    (condition : Condition) :
    (condition.fragment schema scope).params = [] ↔ condition.leaves = [] := by
  induction condition using Condition.induction with
  | always | never =>
      rw [fragment, leaves]
      simp
  | leaf question =>
      rw [fragment, leaves]
      constructor
      · intro noParams
        have bound := question.scope_mem_params_fragment schema scope
        rw [noParams] at bound
        contradiction
      · intro noLeaves
        contradiction
  | junction connective operands ih =>
      rw [fragment, leaves]
      simpa [List.flatMap_eq_nil_iff] using forall₂_congr ih
  | negation operand ih =>
      rw [fragment, leaves]
      simpa using ih

/-- Without leaves, a condition has the same value for all rows. -/
theorem Condition.eval_eq_eval_of_leaves_eq_nil {condition : Condition}
    (constant : condition.leaves = []) (valuation other : Leaf → Bool) :
    condition.eval valuation = condition.eval other := by
  induction condition using Condition.induction with
  | always | never => rw [eval, eval]
  | leaf question =>
      rw [leaves] at constant
      contradiction
  | junction connective operands ih =>
      rw [leaves, List.flatMap_eq_nil_iff] at constant
      rw [eval, eval]
      apply congrArg connective.value
      apply List.map_congr_left
      intro operand mem
      exact ih operand mem (constant operand mem)
  | negation operand ih =>
      rw [leaves] at constant
      rw [eval, eval, ih constant]

/-! ## Leaves as evaluation answers them -/

/-- The answer of evaluation to the question that a leaf asks. -/
def Leaf.isMetBy (document : Document) : Leaf → Bool
  | fullText place _ term => place.holds term document
  | tagged name id => document.tags.any (Criterion.tagMatches name id)
  | hasTags => !document.tags.isEmpty
  | createdOn day => document.createdAt.day == day
  | created comparison instant => comparison.admits (document.createdAt.compare instant)

/-- A term is answered as evaluation answers it, if the scope can be searched for or if
evaluation does not find the term. -/
theorem eval_lowerText {scope value : String} {place : TextPlace} {document : Document}
    (answered : isSearchable scope = true ∨
      (Criterion.contains place value).holds document = false) :
    (lowerText scope place value).eval (·.isMetBy document) =
      (Criterion.contains place value).holds document := by
  by_cases both : isSearchable scope = true ∧ isSearchable value = true
  · obtain ⟨scopeTerm, scopeRead⟩ := Option.isSome_iff_exists.mp both.1
    obtain ⟨term, read⟩ := Option.isSome_iff_exists.mp both.2
    rw [lowerText, scopeRead, read, Condition.eval_leaf, Criterion.holds, read]
    rfl
  · rw [lowerText_of_not_searchable both, Condition.eval_never]
    rcases answered with searchable | notFound
    · have noTerm : searchTerm? value = none := by
        rw [← Option.not_isSome_iff_eq_none]
        exact fun found => both ⟨searchable, found⟩
      rw [Criterion.holds, noTerm]
    · exact notFound.symm

theorem eval_lowerCriterion {scope : String} {document : Document} {criterion : Criterion}
    (answered : ∀ place value, criterion = .contains place value →
      isSearchable scope = true ∨ criterion.holds document = false) :
    (lowerCriterion scope criterion).eval (·.isMetBy document) = criterion.holds document := by
  cases criterion with
  | contains place value =>
      rw [lowerCriterion]
      exact eval_lowerText (answered place value rfl)
  | tagged _ _ | hasTags | createdOn _ | created _ _ =>
      rw [lowerCriterion, Condition.eval_leaf]
      rfl

end SearchQuery.Sql

namespace SearchQuery.Expression

open SearchQuery.Sql

/-- Whether an expression is a term that is searched for in the name or in the content. -/
def searchesText : Expression → Bool
  | .text _ => true
  | .filter .name _ _ => true
  | .filter .content _ _ => true
  | _ => false

/-- The filters that search for a term are those on the name and on the content. -/
theorem searchesText_of_contains {field : Field} {operator : Operator} {value term : String}
    {place : TextPlace}
    (valid : Criterion.ofFilter field operator value = .ok (.contains place term)) :
    searchesText (.filter field operator value) = true := by
  cases field with
  | name | content => rfl
  | tag =>
      unfold Criterion.ofFilter at valid
      split at valid
      · contradiction
      · cases valid
  | created =>
      unfold Criterion.ofFilter at valid
      split at valid
      · contradiction
      · dsimp only at valid
        split at valid
        · cases operator <;> cases valid
        · contradiction
  | has =>
      unfold Criterion.ofFilter at valid
      split at valid
      · contradiction
      · dsimp only at valid
        split at valid <;> cases valid

theorem exists_of_mem_terms {expression term : Expression} (mem : term ∈ expression.terms) :
    (∃ value, term = .text value) ∨
      ∃ field operator value criterion, term = .filter field operator value ∧
        Criterion.ofFilter field operator value = .ok criterion := by
  induction expression using induction with
  | empty =>
      rw [terms] at mem
      contradiction
  | text value =>
      rw [terms_text, List.mem_singleton] at mem
      exact .inl ⟨value, mem⟩
  | filter field operator value =>
      rw [terms] at mem
      split at mem
      · rename_i criterion valid
        rw [List.mem_singleton] at mem
        exact .inr ⟨field, operator, value, criterion, mem, valid⟩
      · contradiction
  | and operands ih | or operands ih =>
      rw [terms] at mem
      obtain ⟨operand, operandMem, termMem⟩ := List.mem_flatMap.mp mem
      exact ih operand operandMem termMem
  | not operand ih =>
      rw [terms] at mem
      exact ih mem

/-- A term has the same answer in SQL as in evaluation, if the scope can be searched for or if
evaluation does not find the term. -/
theorem eval_lower_of_mem_terms {scope : String} {document : Document}
    {expression term : Expression} (mem : term ∈ expression.terms)
    (answered : term.searchesText = true →
      isSearchable scope = true ∨ term.matchesDocument document = false) :
    (term.lower scope).condition.eval (·.isMetBy document) = term.matchesDocument document := by
  rcases exists_of_mem_terms mem with
    ⟨value, rfl⟩ | ⟨field, operator, value, criterion, rfl, valid⟩
  · rw [lower_text, Lowered.condition_clean]
    rw [matchesDocument, predicate_text, Criterion.test_predicate] at answered ⊢
    exact eval_lowerText (answered rfl)
  · rw [lower_filter_of_ok scope valid, Lowered.condition_clean]
    rw [matchesDocument_filter valid] at answered ⊢
    apply eval_lowerCriterion
    rintro place term rfl
    exact answered (searchesText_of_contains valid)

/-- A fragment without parameters is a formula over the two constants, whose value is the same
for all rows.

- If a letter or digit is in the scope, it is the value of evaluation on every document.
- Otherwise it is the value of evaluation on the documents in which no term of the expression
  is found. -/
theorem constant_fragment_agrees (compiler : Compiler) (expression : Expression) (scope : String)
    (constant : (compiler.compile expression scope).fragment.params = []) :
    let formula := (expression.lower scope).condition
    let fragment := (compiler.compile expression scope).fragment
    fragment = formula.fragment compiler.schema scope ∧ formula.IsProper ∧ formula.leaves = [] ∧
      ∃ value, (∀ comparison, fragment.truth? comparison = some value) ∧
        (∀ valuation, formula.eval valuation = value) ∧
        (isSearchable scope = true →
          ∀ document, expression.matchesDocument document = value) ∧
        ∀ document, (∀ term ∈ expression.terms, term.searchesText = true →
            term.matchesDocument document = false) →
          expression.matchesDocument document = value := by
  intro formula fragment
  have noLeaves : formula.leaves = [] :=
    (formula.params_fragment_eq_nil_iff compiler.schema scope).mp constant
  have sameValue := Condition.eval_eq_eval_of_leaves_eq_nil noLeaves
  refine ⟨rfl, isProper_lower scope expression, noLeaves, formula.eval fun _ => false,
    ?_, fun valuation => sameValue valuation _, ?_, ?_⟩
  · intro comparison
    exact (truth?_compile compiler scope comparison expression).trans
      (congrArg some (sameValue _ _))
  · intro searchable document
    rw [← eval_condition_lower scope fun term mem =>
      eval_lower_of_mem_terms mem fun _ => .inl searchable]
    exact sameValue _ _
  · intro document notFound
    rw [← eval_condition_lower scope fun term mem =>
      eval_lower_of_mem_terms mem fun searches => .inr (notFound term mem searches)]
    exact sameValue _ _

/-- The negation of a term without letters or digits is the constant that every document
matches. So is the negation of any term with a scope of dashes, which is right for the
documents that the term is not found in. -/
theorem constant_fragment_agrees_below_negations :
    let unsearchable := Expression.or [.not (.text "&"), .filter .name (.ordering .less) "a"]
    let absent := Expression.not (.text "salt")
    let document : Document := ⟨"doc", "Plan", "flour", [], ⟨0, 0, by decide⟩⟩
    (Compiler.standard.compile unsearchable "org_1").fragment.params = [] ∧
      isSearchable "org_1" = true ∧
      unsearchable.matchesDocument document = true ∧
      (Compiler.standard.compile absent "--").fragment.params = [] ∧
      (∀ term ∈ absent.terms, term.searchesText = true →
        term.matchesDocument document = false) ∧
      absent.matchesDocument document = true := by
  intro unsearchable absent document
  have rejects : Criterion.ofFilter .name (.ordering .less) "a" =
      .error (.unsupportedOperator .name (.ordering .less)) := rfl
  have noTerm : ¬ isSearchable "&" = true := by decide +kernel
  have noScope : ¬ isSearchable "--" = true := by decide +kernel
  have searchable : isSearchable "org_1" = true := by decide +kernel
  have notAbsent : matchesDocument (.text "salt") document = false := by
    rw [matchesDocument, predicate_text]
    decide +kernel
  have firstLowered : (unsearchable.lower "org_1").condition =
      .junction .or [.negation .never, .never] := by
    have negated : (Expression.not (.text "&")).lower "org_1" = .clean (.negation .never) := by
      rw [lower, lowerUnder, lowerUnder, lowerText_of_not_searchable fun both => noTerm both.2]
      rfl
    rw [lower_or _ (List.cons_ne_nil _ _), List.map_cons, List.map_cons, negated,
      lower_filter_of_error _ rejects]
    rfl
  have secondLowered : (absent.lower "--").condition = .negation .never := by
    rw [lower, lowerUnder, lowerUnder, lowerText_of_not_searchable fun both => noScope both.1]
    rfl
  have firstConstant : (Compiler.standard.compile unsearchable "org_1").fragment.params = [] := by
    rw [Compiler.compile, firstLowered, Condition.params_fragment_eq_nil_iff]
    simp [Condition.leaves]
  have secondConstant : (Compiler.standard.compile absent "--").fragment.params = [] := by
    rw [Compiler.compile, secondLowered, Condition.params_fragment_eq_nil_iff]
    simp [Condition.leaves]
  have notFound : ∀ term ∈ absent.terms, term.searchesText = true →
      term.matchesDocument document = false := by
    intro term mem searches
    rw [terms, terms_text, List.mem_singleton] at mem
    rw [mem]
    exact notAbsent
  obtain ⟨_, _, _, first, _, firstValue, firstAgrees, _⟩ :=
    constant_fragment_agrees .standard unsearchable "org_1" firstConstant
  obtain ⟨_, _, _, second, _, secondValue, _, secondAgrees⟩ :=
    constant_fragment_agrees .standard absent "--" secondConstant
  refine ⟨firstConstant, searchable, ?_, secondConstant, notFound, ?_⟩
  · rw [firstAgrees searchable document, ← firstValue fun _ => false, firstLowered]
    simp [Connective.value]
  · rw [secondAgrees document notFound, ← secondValue fun _ => false, secondLowered]
    simp

/-- With a scope of dashes a term is the constant that holds for no row, although evaluation
finds the term. -/
theorem constant_fragment_misses_term_of_unsearchable_scope :
    let expression := Expression.text "flour"
    let document : Document := ⟨"doc", "Plan", "flour", [], ⟨0, 0, by decide⟩⟩
    let fragment := (Compiler.standard.compile expression "--").fragment
    fragment = .text "0" ∧ fragment.truth? (fun _ => true) = some false ∧
      expression.matchesDocument document = true := by
  intro expression document fragment
  have noScope : ¬ isSearchable "--" = true := by decide +kernel
  have lowered : (expression.lower "--").condition = .never := by
    rw [lower_text, lowerText_of_not_searchable fun both => noScope both.1]
    rfl
  refine ⟨?_, ?_, ?_⟩
  · change (expression.lower "--").condition.fragment _ _ = _
    rw [lowered, Condition.fragment]
  · change (Compiler.standard.compile expression "--").fragment.truth? _ = _
    rw [truth?_compile, lowered, Condition.eval_never]
  · rw [matchesDocument, predicate_text]
    decide +kernel

end SearchQuery.Expression
