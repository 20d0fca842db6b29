import SearchQuery.Proofs.Derivation
import SearchQuery.Proofs.Evaluation

/-!
# The leaves of a query

The leaves of an expression are its terms and filters, from left to right. Reading keeps
every leaf that the tokens before the end marker stand for, once and in their order,
however the parentheses, keywords and operators around it are put. `Reading.leaves` says
where the leaves are while a query is being read: around the innermost open group, from
the outside in, and in a group the finished alternatives before the present operands.
-/

namespace SearchQuery

namespace Expression

/-- The terms and filters of an expression, from left to right. -/
def leaves : Expression → List Expression
  | .empty => []
  | .text value => [.text value]
  | .filter field operator value => [.filter field operator value]
  | .and operands => operands.flatMap leaves
  | .or operands => operands.flatMap leaves
  | .not operand => operand.leaves

@[simp]
theorem leaves_empty : leaves .empty = [] := by
  rw [leaves]

@[simp]
theorem leaves_text (value : String) : leaves (.text value) = [.text value] := by
  rw [leaves]

@[simp]
theorem leaves_filter (field : Field) (operator : Operator) (value : String) :
    leaves (.filter field operator value) = [.filter field operator value] := by
  rw [leaves]

@[simp]
theorem leaves_and (operands : List Expression) :
    leaves (.and operands) = operands.flatMap leaves := by
  rw [leaves]

@[simp]
theorem leaves_or (operands : List Expression) :
    leaves (.or operands) = operands.flatMap leaves := by
  rw [leaves]

@[simp]
theorem leaves_not (operand : Expression) : leaves (.not operand) = operand.leaves := by
  rw [leaves]

/-- The leaves of an expression, if there is one. -/
def leavesOf (expression : Option Expression) : List Expression :=
  expression.toList.flatMap leaves

@[simp]
theorem leavesOf_none : leavesOf none = [] :=
  rfl

@[simp]
theorem leavesOf_some (expression : Expression) : leavesOf (some expression) = expression.leaves :=
  List.flatMap_singleton leaves expression

/-- Joining operands keeps the leaves of all, whatever their number is. -/
theorem leavesOf_join {junction : List Expression → Expression}
    (keeps : ∀ operands, (junction operands).leaves = operands.flatMap leaves)
    (operands : List Expression) :
    leavesOf (join junction operands) = operands.flatMap leaves := by
  match operands with
  | [] => rfl
  | [operand] => rfl
  | first :: second :: rest =>
      rw [join, leavesOf_some, keeps]
      · simp
      · simp

/-- What is derived in the grammar has a leaf. -/
theorem Derived.leaves_ne_nil {level : Level} {room : Nat} {expression : Expression}
    (derived : Derived level room expression) : expression.leaves ≠ [] := by
  induction derived with
  | text room value => simp
  | filter room field operator value => simp
  | group _ ih | positive _ ih | operand _ ih | alternative _ ih => exact ih
  | negation _ ih => rwa [leaves_not]
  | @conjunction _ operands two _ ih | @disjunction _ operands two _ ih =>
      obtain ⟨first, mem⟩ := List.exists_mem_of_length_pos (Nat.lt_of_lt_of_le Nat.two_pos two)
      intro noLeaves
      simp only [leaves_and, leaves_or, List.flatMap_eq_nil_iff] at noLeaves
      exact ih first mem (noLeaves first mem)

theorem leaves_foldNegations (operand : Expression) (negations : Int32) :
    (operand.foldNegations negations).leaves = operand.leaves := by
  rw [foldNegations]
  split
  · exact leaves_not operand
  · rfl

end Expression

open Expression

namespace Token

/-- The term or filter that a token stands for. Other tokens stand for none, and neither
does a value of nothing but white space. -/
def leaf? : Token → Option Expression
  | .word value => if Text.isBlank value then none else some (.text value)
  | .phrase value => if Text.isBlank value then none else some (.text value)
  | .filter field comparison value =>
      if Text.isBlank value then none else some (.filter field comparison value)
  | _ => none

/-- The terms and filters that tokens stand for, up to the first end marker. -/
def leaves (tokens : List Token) : List Expression :=
  (tokens.takeWhile (· != .endOfQuery)).filterMap leaf?

end Token

/-! ## Leaves of what has been read -/

namespace OpenGroup

/-- The leaves that have been read in a group. -/
def leaves (group : OpenGroup) : List Expression :=
  group.alternatives.reverse.flatMap Expression.leaves ++
    group.operands.reverse.flatMap Expression.leaves

@[simp]
theorem leaves_fresh : fresh.leaves = [] :=
  rfl

@[simp]
theorem leaves_settle (group : OpenGroup) : group.settle.leaves = group.leaves :=
  rfl

/-- An operand that is taken in comes last, with or without negations. -/
theorem leaves_take (group : OpenGroup) (operand : Option Expression) :
    (group.take operand).leaves = group.leaves ++ leavesOf operand := by
  cases operand with
  | none => simp [take]
  | some operand =>
      rw [take, leavesOf_some]
      simp [leaves, leaves_foldNegations]

theorem leavesOf_conjunction (group : OpenGroup) :
    leavesOf group.conjunction = group.operands.reverse.flatMap Expression.leaves :=
  leavesOf_join leaves_and _

theorem leaves_allAlternatives (group : OpenGroup) :
    group.allAlternatives.reverse.flatMap Expression.leaves = group.leaves := by
  have present : group.conjunction.toList.reverse = group.conjunction.toList := by
    cases group.conjunction <;> rfl
  rw [allAlternatives, List.reverse_append, List.flatMap_append, present, leaves,
    ← leavesOf_conjunction, leavesOf]

@[simp]
theorem leaves_nextAlternative (group : OpenGroup) :
    group.nextAlternative.leaves = group.leaves := by
  rw [nextAlternative, leaves, leaves_allAlternatives]
  simp

/-- A group means an expression with the leaves that have been read in it. -/
theorem leavesOf_result (group : OpenGroup) : leavesOf group.result = group.leaves := by
  rw [result, leavesOf_join leaves_or, leaves_allAlternatives]

end OpenGroup

namespace Reading

/-- The leaves that have been read in groups, which are given from the inside out. -/
def leavesAround (groups : List OpenGroup) : List Expression :=
  groups.reverse.flatMap OpenGroup.leaves

@[simp]
theorem leavesAround_cons (outer : OpenGroup) (others : List OpenGroup) :
    leavesAround (outer :: others) = leavesAround others ++ outer.leaves := by
  simp [leavesAround]

/-- The leaves that have been read. -/
def leaves (reading : Reading) : List Expression :=
  leavesAround reading.enclosing ++ reading.current.leaves

/-- What a change adds to the innermost group comes last. -/
theorem leaves_update (reading : Reading) {change : OpenGroup → OpenGroup}
    {more : List Expression}
    (adds : (change reading.current).leaves = reading.current.leaves ++ more) :
    (reading.update change).leaves = reading.leaves ++ more := by
  rw [update, leaves, leaves, adds, List.append_assoc]

theorem leavesOf_leaf? {leaf : String → Expression} {value : String}
    (isLeaf : (leaf value).leaves = [leaf value]) :
    leavesOf (leaf? leaf value) =
      (if Text.isBlank value then none else some (leaf value)).toList := by
  unfold leaf?
  split
  · rfl
  · rw [leavesOf_some, isLeaf]
    rfl

@[simp]
theorem leaves_openGroup (reading : Reading) : reading.openGroup.leaves = reading.leaves := by
  unfold Reading.openGroup
  split
  · simp [leaves]
  · rfl

/-- Closing a group moves its leaves to the group around it, where they come last. -/
@[simp]
theorem leaves_closeGroup (reading : Reading) : reading.closeGroup.leaves = reading.leaves := by
  unfold Reading.closeGroup
  split
  · rfl
  · rename_i outer others enclosing
    simp only [leaves]
    rw [OpenGroup.leaves_take, OpenGroup.leavesOf_result, enclosing, leavesAround_cons,
      List.append_assoc]

/-- A token adds the leaf that it stands for, and loses none. -/
theorem leaves_step (reading : Reading) (token : Token) :
    (reading.step token).leaves = reading.leaves ++ token.leaf?.toList := by
  cases token with
  | word value | phrase value =>
      apply leaves_update
      rw [OpenGroup.leaves_take, leavesOf_leaf? (leaves_text value), Token.leaf?]
  | filter field operator value =>
      apply leaves_update
      rw [OpenGroup.leaves_take, leavesOf_leaf? (leaves_filter field operator value), Token.leaf?]
  | or =>
      apply leaves_update
      rw [OpenGroup.leaves_nextAlternative]
      exact (List.append_nil _).symm
  | openGroup => simp [step, Token.leaf?]
  | closeGroup => simp [step, Token.leaf?]
  | operator _ | and | not | minus | endOfQuery => exact (List.append_nil _).symm

theorem leaves_run (reading : Reading) (tokens : List Token) :
    (tokens.foldl step reading).leaves = reading.leaves ++ tokens.filterMap Token.leaf? := by
  induction tokens generalizing reading with
  | nil => exact (List.append_nil _).symm
  | cons token tokens ih =>
      rw [List.foldl_cons, ih, leaves_step, List.append_assoc]
      cases leaf : token.leaf? with
      | none => simp [leaf]
      | some expression => simp [leaf]

theorem leavesOf_finishAround (inner : Option Expression) (groups : List OpenGroup) :
    leavesOf (finishAround inner groups) = leavesAround groups ++ leavesOf inner := by
  induction groups generalizing inner with
  | nil => rfl
  | cons outer others ih =>
      rw [finishAround, ih, OpenGroup.leavesOf_result, OpenGroup.leaves_take, leavesAround_cons,
        List.append_assoc]

theorem leavesOf_finish (reading : Reading) : leavesOf reading.finish = reading.leaves := by
  rw [finish, leavesOf_finishAround, OpenGroup.leavesOf_result, leaves]

end Reading

namespace Expression

/-- What is read has the leaves that the tokens stand for. -/
theorem leaves_ofTokens (tokens : List Token) : (ofTokens tokens).leaves = Token.leaves tokens := by
  have kept : leavesOf ((tokens.takeWhile (· != .endOfQuery)).foldl Reading.step
      Reading.start).finish = Token.leaves tokens := by
    rw [Reading.leavesOf_finish, Reading.leaves_run]
    rfl
  rw [← kept, ofTokens]
  cases (List.foldl Reading.step Reading.start (tokens.takeWhile (· != .endOfQuery))).finish with
  | none => simp
  | some expression => simp

/-- Only a query without terms and filters is blank. -/
theorem ofTokens_eq_empty_iff (tokens : List Token) :
    ofTokens tokens = .empty ↔ Token.leaves tokens = [] := by
  rw [← leaves_ofTokens]
  constructor
  · intro blank
    rw [blank, leaves_empty]
  · intro noLeaves
    rcases eq_empty_or_derived_ofTokens tokens with blank | derived
    · exact blank
    · exact absurd noLeaves derived.leaves_ne_nil

/-- Reading neither loses, repeats, invents nor reorders a term or filter, whatever the
tokens are. So the blank expression is read exactly from tokens that stand for none, and
such a query matches every document. -/
theorem ofTokens_keeps_leaves (tokens : List Token) :
    (ofTokens tokens).leaves = Token.leaves tokens ∧
      (ofTokens tokens = .empty ↔ Token.leaves tokens = []) ∧
      (Token.leaves tokens = [] →
        ∀ document, (ofTokens tokens).matchesDocument document = true) := by
  refine ⟨leaves_ofTokens tokens, ofTokens_eq_empty_iff tokens, ?_⟩
  intro noLeaves document
  rw [(ofTokens_eq_empty_iff tokens).mpr noLeaves, matchesDocument, predicate_empty]
  rfl

/-- In the tokens of `((NOT " ") <= OR tag:` there is no term, and the term after the end
marker is never read. -/
theorem ofTokens_keeps_leaves_of_malformed_query :
    let tokens : List Token :=
      [.openGroup, .openGroup, .not, .phrase " ", .closeGroup, .operator (.ordering .lessOrEqual),
        .or, .filter .tag .equal "", .endOfQuery, .word "flour"]
    Token.leaves tokens = [] ∧ ofTokens tokens = .empty ∧
      ∀ document, (ofTokens tokens).matchesDocument document = true := by
  intro tokens
  have noLeaves : Token.leaves tokens = [] := by decide
  obtain ⟨_, blank, matchesAll⟩ := ofTokens_keeps_leaves tokens
  exact ⟨noLeaves, blank.mpr noLeaves, matchesAll noLeaves⟩

end Expression

end SearchQuery
