import SearchQuery.Expression.Reader
import Mathlib.Data.List.Induction
import Mathlib.Data.List.TakeWhile

/-!
# Groups that are too deep

Reading opens groups only to the depth `Reading.maxDepth`. It takes an opening parenthesis
that is too deep as AND, so that negations before it are dropped, and it lets each closing
parenthesis close the innermost group that is open. So tokens are read as if no parenthesis
stood below the limit (`Expression.ofTokens_capNesting`).

How many groups are open and how many negations wait for an operand can be told from the
tokens alone (`Reading.depth_step`, `Reading.negations_run`).
-/

namespace SearchQuery

namespace Token

/-! ## Parentheses in tokens -/

/-- The number of open parentheses after a token, if some are open before it. -/
def nest (opened : Nat) : Token → Nat
  | .openGroup => opened + 1
  | .closeGroup => opened - 1
  | _ => opened

/-- Every closing parenthesis has an opening one before it, and the other way round. -/
def IsBalanced (tokens : List Token) : Prop :=
  tokens.count .closeGroup = tokens.count .openGroup ∧
    ∀ length ≤ tokens.length,
      (tokens.take length).count .closeGroup ≤ (tokens.take length).count .openGroup

instance (tokens : List Token) : Decidable (IsBalanced tokens) :=
  inferInstanceAs (Decidable (_ ∧ _))

/-- A token as it is read if some groups are open: a parenthesis that cannot open another
one is read as AND. -/
def capped (opened : Nat) : Token → Token
  | .openGroup => if opened < Reading.maxDepth then .openGroup else .and
  | token => token

/-- Tokens as they are read if some groups are open. Only parentheses that open a group
count, and every closing parenthesis closes the innermost open group. -/
def capNestingFrom (opened : Nat) : List Token → List Token
  | [] => []
  | token :: rest =>
      token.capped opened :: capNestingFrom (min (token.nest opened) Reading.maxDepth) rest

/-- Tokens as they are read. -/
def capNesting (tokens : List Token) : List Token :=
  capNestingFrom 0 tokens

/-- Whether a token negates the operand after it. -/
def negates : Token → Bool
  | .not | .minus => true
  | _ => false

/-- The number of negations at the end of tokens. -/
def negationsAtEnd (tokens : List Token) : Nat :=
  (tokens.reverse.takeWhile negates).length

/-- The number of negations at the start of tokens. -/
def negationsAtStart (tokens : List Token) : Nat :=
  (tokens.takeWhile negates).length

theorem negationsAtEnd_concat (tokens : List Token) (token : Token) :
    negationsAtEnd (tokens ++ [token]) =
      if token.negates then negationsAtEnd tokens + 1 else 0 := by
  cases negates : token.negates <;> simp [negationsAtEnd, negates]

theorem negationsAtStart_cons (token : Token) (rest : List Token) :
    negationsAtStart (token :: rest) = if token.negates then negationsAtStart rest + 1 else 0 := by
  cases negates : token.negates <;> simp [negationsAtStart, negates]

/-- An end marker is not a negation. -/
theorem negationsAtStart_takeWhile (tokens : List Token) :
    negationsAtStart (tokens.takeWhile (· != .endOfQuery)) = negationsAtStart tokens := by
  have same : (fun token : Token => decide (token.negates ∧ (token != .endOfQuery) = true)) =
      negates := by
    funext token
    cases token <;> rfl
  rw [negationsAtStart, List.takeWhile_takeWhile, same, negationsAtStart]

theorem endOfQuery_notMem_takeWhile (tokens : List Token) :
    .endOfQuery ∉ tokens.takeWhile (· != .endOfQuery) := by
  intro mem
  simpa using List.mem_takeWhile_imp mem

theorem takeWhile_capNestingFrom (opened : Nat) (tokens : List Token) :
    (capNestingFrom opened tokens).takeWhile (· != .endOfQuery) =
      capNestingFrom opened (tokens.takeWhile (· != .endOfQuery)) := by
  induction tokens generalizing opened with
  | nil => rfl
  | cons token rest ih =>
      have same : (token.capped opened != .endOfQuery) = (token != .endOfQuery) := by
        cases token with
        | openGroup =>
            rw [capped]
            split <;> rfl
        | _ => rfl
      cases further : token != .endOfQuery with
      | false => simp [capNestingFrom, same, further]
      | true => simp [capNestingFrom, same, further, ih]

end Token

open Token

namespace Reading

/-! ## One token -/

section Steps

variable {reading : Reading}

/-- A token opens or closes groups as its parentheses do, but not beyond the limit. -/
theorem depth_step (bounded : reading.depth ≤ maxDepth) (token : Token) :
    (reading.step token).depth = min (token.nest reading.depth) maxDepth := by
  cases token with
  | openGroup =>
      rw [step, openGroup, nest]
      split
      · rename_i shallow
        rw [Nat.min_eq_left shallow]
        rfl
      · rename_i deep
        rw [Nat.min_eq_right (by omega)]
        exact Nat.le_antisymm bounded (Nat.le_of_not_lt deep)
  | closeGroup =>
      rw [step, closeGroup, nest, Nat.min_eq_left (Nat.le_trans (Nat.sub_le _ _) bounded)]
      split
      · rename_i closed
        simp [depth, update, closed]
      · rename_i outer others enclosing
        simp [depth, enclosing]
  | word _ | phrase _ | filter _ _ _ | operator _ | and | or | not | minus | endOfQuery =>
      exact (Nat.min_eq_left bounded).symm

theorem negations_take (group : OpenGroup) (operand : Option Expression) :
    (group.take operand).negations = 0 := by
  cases operand <;> rfl

/-- A negation is counted, and every other token settles the negations before it. -/
theorem negations_step {token : Token} (notEnd : token ≠ .endOfQuery) :
    (reading.step token).current.negations =
      if token.negates then reading.current.negations + 1 else 0 := by
  cases token with
  | openGroup =>
      rw [step, openGroup]
      split <;> rfl
  | closeGroup =>
      rw [step, closeGroup]
      split
      · rfl
      · exact negations_take _ _
  | word _ | phrase _ | filter _ _ _ => exact negations_take _ _
  | operator _ | and | or | not | minus => rfl
  | endOfQuery => exact absurd rfl notEnd

/-- A parenthesis that can open no group is read as AND. -/
theorem step_capped (token : Token) :
    reading.step (token.capped reading.depth) = reading.step token := by
  cases token with
  | openGroup =>
      rw [capped]
      split
      · rfl
      · rename_i deep
        exact (if_neg deep).symm
  | _ => rfl

/-- If nothing waits for an operand, AND changes nothing. -/
theorem step_and_of_settled (settled : reading.current.negations = 0) :
    reading.step .and = reading := by
  obtain ⟨⟨alternatives, operands, negations⟩, enclosing⟩ := reading
  cases settled
  rfl

end Steps

/-! ## Runs -/

section Runs

theorem run_capNestingFrom (reading : Reading) (bounded : reading.depth ≤ maxDepth)
    (tokens : List Token) :
    (capNestingFrom reading.depth tokens).foldl step reading = tokens.foldl step reading := by
  induction tokens generalizing reading with
  | nil => rfl
  | cons token rest ih =>
      have next := depth_step bounded token
      rw [capNestingFrom, List.foldl_cons, List.foldl_cons, step_capped, ← next]
      exact ih _ (next ▸ Nat.min_le_right _ _)

variable {reading : Reading}

theorem depth_run_le (bounded : reading.depth ≤ maxDepth) (tokens : List Token) :
    (tokens.foldl step reading).depth ≤ maxDepth := by
  induction tokens generalizing reading with
  | nil => exact bounded
  | cons token rest ih => exact ih (depth_step bounded token ▸ Nat.min_le_right _ _)

theorem foldl_concat (front : List Token) (token : Token) :
    (front ++ [token]).foldl step start = (front.foldl step start).step token := by
  rw [List.foldl_append, List.foldl_cons, List.foldl_nil]

/-- The negations that wait for an operand after tokens are those at their end. -/
theorem negations_run {tokens : List Token} (noEnd : .endOfQuery ∉ tokens) :
    (tokens.foldl step start).current.negations = Int32.ofNat (negationsAtEnd tokens) := by
  induction tokens using List.reverseRecOn with
  | nil => rfl
  | append_singleton front token ih =>
      rw [List.mem_append, List.mem_singleton, not_or] at noEnd
      rw [foldl_concat, negations_step (Ne.symm noEnd.2), ih noEnd.1, negationsAtEnd_concat]
      split
      · exact (Int32.ofNat_add (negationsAtEnd front) 1).symm
      · rfl

end Runs

end Reading

namespace Expression

/-- Any tokens are read as if the parentheses that can open no group were ANDs. -/
theorem ofTokens_capNesting (tokens : List Token) :
    ofTokens (capNesting tokens) = ofTokens tokens := by
  unfold ofTokens capNesting
  rw [takeWhile_capNestingFrom]
  have read := Reading.run_capNestingFrom .start (Nat.zero_le _)
    (tokens.takeWhile (· != .endOfQuery))
  exact congrArg (fun reading => reading.finish.getD .empty) read

end Expression

end SearchQuery
