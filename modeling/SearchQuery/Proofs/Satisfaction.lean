import SearchQuery.Proofs.Evaluation

/-!
# What an expression means

Evaluation takes a chain of negations as a whole: the parity of the chain decides, and only
the expression under the chain is looked at. The meaning of an expression is said here one
node at a time. `isInvalid` marks the expressions with a clause that cannot be answered,
and `isSatisfiedBy` fails closed at each negation by itself. Evaluation computes both.

Without invalid clauses the meaning is the classical one, `truth`, so the laws of Boolean
algebra hold for valid expressions.
-/

namespace SearchQuery

/-- The connective that negation turns into the given one. -/
def Connective.dual : Connective → Connective
  | .and => .or
  | .or => .and

theorem Connective.value_dual (connective : Connective) (operands : List Bool) :
    connective.dual.value (operands.map (!·)) = !connective.value operands := by
  cases connective with
  | and => simp [dual, value, List.not_all_eq_any_not]
  | or => simp [dual, value, List.not_any_eq_all_not]

namespace Expression

/-- Whether some clause of an expression cannot be answered: a filter that names no
criterion, a connective without operands, or a negation of the empty expression. -/
def isInvalid : Expression → Bool
  | .empty | .text _ => false
  | .filter field operator value =>
      match Criterion.ofFilter field operator value with
      | .ok _ => false
      | .error _ => true
  | .and operands | .or operands => operands.isEmpty || (operands.map isInvalid).any id
  | .not .empty => true
  | .not operand => operand.isInvalid

/-- Whether a document satisfies an expression. No document satisfies a rejected filter or
an invalid negation. -/
def isSatisfiedBy (document : Document) : Expression → Bool
  | .empty => true
  | .text value => (Criterion.contains .nameOrContent value).holds document
  | .filter field operator value =>
      match Criterion.ofFilter field operator value with
      | .ok criterion => criterion.holds document
      | .error _ => false
  | .and operands => !operands.isEmpty && (operands.map (isSatisfiedBy document)).all id
  | .or operands => (operands.map (isSatisfiedBy document)).any id
  | .not operand => !isInvalid (.not operand) && !operand.isSatisfiedBy document

/-- The classical value of an expression, given the values of its terms and filters. -/
def truth (leaf : Expression → Bool) : Expression → Bool
  | .empty => true
  | .text value => leaf (.text value)
  | .filter field operator value => leaf (.filter field operator value)
  | .and operands => (operands.map (truth leaf)).all id
  | .or operands => (operands.map (truth leaf)).any id
  | .not operand => !operand.truth leaf

/-! ## Evaluation computes the meaning -/

theorem isInvalid_not {operand : Expression} (notEmpty : operand ≠ .empty) :
    isInvalid (.not operand) = operand.isInvalid := by
  rw [isInvalid]
  exact notEmpty

/-- In a chain over the empty expression the innermost negation is invalid already. -/
theorem isDegraded_of_overEmpty {expression : Expression}
    (overEmpty : expression.overEmpty = true) (notEmpty : expression ≠ .empty) :
    expression.isDegraded = true := by
  obtain ⟨count, rfl⟩ := overEmpty_iff.mp overEmpty
  cases count with
  | zero => exact absurd rfl notEmpty
  | succ count => exact isDegraded_negate_empty count

theorem isDegraded_eq_isInvalid (expression : Expression) :
    expression.isDegraded = expression.isInvalid := by
  induction expression using induction with
  | empty => simp [isInvalid]
  | text value => simp [isInvalid]
  | filter field operator value =>
      rw [isInvalid]
      cases resolved : Criterion.ofFilter field operator value with
      | ok criterion => exact isDegraded_filter_of_ok resolved
      | error issue => exact isDegraded_filter_of_error resolved
  | and operands ih =>
      rw [isDegraded_and, isInvalid, List.any_map]
      exact congrArg _ (Operands.any_congr_of_mem ih)
  | or operands ih =>
      rw [isDegraded_or, isInvalid, List.any_map]
      exact congrArg _ (Operands.any_congr_of_mem ih)
  | not operand ih =>
      rw [isDegraded_not]
      by_cases empty : operand = .empty
      · rw [empty]
        simp [isInvalid, overEmpty]
      · rw [isInvalid_not empty, ← ih]
        cases standsOver : operand.overEmpty with
        | true => rw [isDegraded_of_overEmpty standsOver empty, Bool.or_self]
        | false => rw [Bool.false_or]

theorem matchesDocument_eq_isSatisfiedBy (expression : Expression) (document : Document) :
    expression.matchesDocument document = expression.isSatisfiedBy document := by
  induction expression using induction with
  | empty => simp [matchesDocument, isSatisfiedBy, Predicate.ofTest]
  | text value =>
      rw [matchesDocument, predicate_text, Criterion.test_predicate, isSatisfiedBy]
  | filter field operator value =>
      rw [isSatisfiedBy]
      cases resolved : Criterion.ofFilter field operator value with
      | ok criterion => exact matchesDocument_filter resolved document
      | error issue =>
          rw [matchesDocument, predicate_filter_of_error resolved]
          rfl
  | and operands ih =>
      rw [matchesDocument_and, isSatisfiedBy, List.all_map]
      exact congrArg _ (Operands.all_congr_of_mem ih)
  | or operands ih =>
      rw [matchesDocument_or, isSatisfiedBy, List.any_map]
      exact Operands.any_congr_of_mem ih
  | not operand ih =>
      rw [matchesDocument_not, isSatisfiedBy, isDegraded_eq_isInvalid, ih]

/-! ## Valid expressions -/

section Valid

variable {document : Document}

/-- A negation of a valid expression turns the result around. A negation of the empty
expression does so too, since it matches nothing. -/
theorem matchesDocument_not_of_valid {operand : Expression} (valid : operand.isInvalid = false) :
    matchesDocument (.not operand) document = !operand.matchesDocument document := by
  rw [matchesDocument_not, isDegraded_eq_isInvalid]
  by_cases empty : operand = .empty
  · rw [empty]
    simp [isInvalid, matchesDocument, Predicate.ofTest]
  · rw [isInvalid_not empty, valid, Bool.not_false, Bool.true_and]

theorem isInvalid_connect (connective : Connective) (operands : List Expression) :
    isInvalid (.connect connective operands) = (operands.isEmpty || operands.any isInvalid) := by
  rw [← isDegraded_eq_isInvalid, isDegraded_connect]
  exact congrArg _ (Operands.any_congr_of_mem fun operand _ => isDegraded_eq_isInvalid operand)

theorem isInvalid_connect_eq_false_iff (connective : Connective) {operands : List Expression} :
    isInvalid (.connect connective operands) = false ↔
      operands ≠ [] ∧ ∀ operand ∈ operands, operand.isInvalid = false := by
  simp [isInvalid_connect]

/-- What a valid negation negates is valid and not empty. -/
theorem isInvalid_not_eq_false_iff {operand : Expression} :
    isInvalid (.not operand) = false ↔ operand ≠ .empty ∧ operand.isInvalid = false := by
  by_cases empty : operand = .empty
  · simp [empty, isInvalid]
  · simp [isInvalid_not empty, empty]

theorem matchesDocument_eq_truth {expression : Expression} (valid : expression.isInvalid = false) :
    expression.matchesDocument document = expression.truth (·.matchesDocument document) := by
  induction expression using induction with
  | empty => simp [matchesDocument, truth, Predicate.ofTest]
  | text value => rw [truth]
  | filter field operator value => rw [truth]
  | and operands ih =>
      obtain ⟨nonempty, each⟩ := (isInvalid_connect_eq_false_iff .and).mp valid
      rw [matchesDocument_and, truth, List.all_map, List.isEmpty_eq_false_iff.mpr nonempty,
        Bool.not_false, Bool.true_and]
      exact Operands.all_congr_of_mem fun operand mem => ih operand mem (each operand mem)
  | or operands ih =>
      obtain ⟨_, each⟩ := (isInvalid_connect_eq_false_iff .or).mp valid
      rw [matchesDocument_or, truth, List.any_map]
      exact Operands.any_congr_of_mem fun operand mem => ih operand mem (each operand mem)
  | not operand ih =>
      obtain ⟨_, operandValid⟩ := isInvalid_not_eq_false_iff.mp valid
      rw [matchesDocument_not_of_valid operandValid, truth, ih operandValid]

/-- The parity of a valid chain of negations decides, however long the chain is. -/
theorem matchesDocument_negate_of_valid {count : Nat} {expression : Expression}
    (valid : (negate count expression).isInvalid = false) :
    (negate count expression).matchesDocument document =
      if count % 2 = 0 then expression.matchesDocument document
      else !expression.matchesDocument document := by
  induction count with
  | zero => rfl
  | succ count ih =>
      rw [← not_negate] at valid ⊢
      obtain ⟨_, inner⟩ := isInvalid_not_eq_false_iff.mp valid
      rw [matchesDocument_not_of_valid inner, ih inner]
      rcases Nat.mod_two_eq_zero_or_one count with even | odd
      · have next : (count + 1) % 2 ≠ 0 := by omega
        rw [if_pos even, if_neg next]
      · have next : (count + 1) % 2 = 0 := by omega
        rw [if_neg (by omega), if_pos next, Bool.not_not]

/-- Negation goes over to the operands of a valid connective and turns the connective
into its dual. -/
theorem matchesDocument_not_connect_of_valid {connective : Connective}
    {operands : List Expression}
    (valid : isInvalid (.not (.connect connective operands)) = false) :
    matchesDocument (.not (.connect connective operands)) document =
      matchesDocument (.connect connective.dual (operands.map .not)) document := by
  obtain ⟨_, inner⟩ := isInvalid_not_eq_false_iff.mp valid
  obtain ⟨nonempty, each⟩ := (isInvalid_connect_eq_false_iff connective).mp inner
  have negated : (operands.map Expression.not).map (·.matchesDocument document) =
      (operands.map (·.matchesDocument document)).map (!·) := by
    rw [List.map_map, List.map_map]
    exact List.map_congr_left fun operand mem => matchesDocument_not_of_valid (each operand mem)
  rw [matchesDocument_not_of_valid inner, matchesDocument_connect, matchesDocument_connect,
    negated, Connective.value_dual, List.isEmpty_map, List.isEmpty_eq_false_iff.mpr nonempty]
  simp

end Valid

/-- Evaluation marks the invalid expressions and matches the documents that satisfy an
expression. On valid expressions this is the classical reading: chains of negations act by
their parity, and negation turns each connective into its dual. -/
theorem evaluation_computes_meaning (expression : Expression) (document : Document) :
    expression.isDegraded = expression.isInvalid ∧
      expression.matchesDocument document = expression.isSatisfiedBy document ∧
      (expression.isInvalid = false →
        expression.matchesDocument document = expression.truth (·.isSatisfiedBy document)) ∧
      (∀ count, (negate count expression).isInvalid = false →
        (negate count expression).matchesDocument document =
          if count % 2 = 0 then expression.matchesDocument document
          else !expression.matchesDocument document) ∧
      ∀ connective operands, isInvalid (.not (.connect connective operands)) = false →
        matchesDocument (.not (.connect connective operands)) document =
          matchesDocument (.connect connective.dual (operands.map .not)) document := by
  refine ⟨isDegraded_eq_isInvalid expression,
    matchesDocument_eq_isSatisfiedBy expression document, ?_, ?_, ?_⟩
  · intro valid
    rw [matchesDocument_eq_truth valid]
    simp only [matchesDocument_eq_isSatisfiedBy]
  · exact fun _ => matchesDocument_negate_of_valid
  · exact fun _ _ => matchesDocument_not_connect_of_valid

/-- Five negations of a disjunction turn it around, and one of them makes it a conjunction
of negations, the second of which is a double negation. -/
theorem evaluation_computes_meaning_below_negations :
    let tagged := Expression.filter .has .equal "tags"
    let clause := Expression.or [tagged, .not tagged]
    let document : Document := ⟨"doc", "Plan", "flour", [⟨"t1", "cooking"⟩], ⟨0, 0, by decide⟩⟩
    clause.isInvalid = false ∧ (negate 5 clause).isInvalid = false ∧
      isInvalid (.not clause) = false ∧
      clause.matchesDocument document = clause.truth (·.isSatisfiedBy document) ∧
      (negate 5 clause).matchesDocument document = !clause.matchesDocument document ∧
      matchesDocument (.not clause) document =
        matchesDocument (.and [.not tagged, .not (.not tagged)]) document := by
  intro tagged clause document
  have asks : Criterion.ofFilter .has .equal "tags" = .ok .hasTags := rfl
  have valid : clause.isInvalid = false := by
    simp [clause, tagged, isInvalid, asks]
  have negationValid : isInvalid (.not clause) = false := by
    simp [clause, tagged, isInvalid, asks]
  have chainValid : (negate 5 clause).isInvalid = false := by
    simp [negate, clause, tagged, isInvalid, asks]
  obtain ⟨_, _, classical, chains, duals⟩ := evaluation_computes_meaning clause document
  exact ⟨valid, chainValid, negationValid, classical valid, chains 5 chainValid,
    duals .or _ negationValid⟩

end Expression

end SearchQuery
