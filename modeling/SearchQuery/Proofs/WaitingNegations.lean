import SearchQuery.Proofs.Composition
import SearchQuery.Proofs.Leaves
import SearchQuery.Proofs.NegationCount

/-!
# Negations that wait for an operand

Negations are counted until the operand comes that they stand before. How many of them wait
makes a difference if and only if a term stands in that operand and, together with the
negations still to come, they turn it around for one of the two numbers only
(`Reading.finish_run_withNegations_eq_iff`).

That it does make a difference then comes from the fact that reading forgets nothing: from two
states of the same form, in which different expressions have been read, different expressions
result (`Reading.SameForm.run`, `Reading.SameForm.finish_inj`).
-/

namespace SearchQuery

namespace Expression

variable {junction : List Expression → Expression} {operands others : List Expression}

theorem isSome_join : (join junction operands).isSome = decide (0 < operands.length) := by
  match operands with
  | [] => rfl
  | [operand] => rfl
  | first :: second :: rest => rfl

/-- Operands are determined by their number and by what they are joined to. -/
theorem join_inj (injective : Function.Injective junction)
    (lengths : operands.length = others.length)
    (same : join junction operands = join junction others) : operands = others := by
  match operands, others with
  | [], [] => rfl
  | [operand], [other] => exact congrArg (fun operand => [operand]) (Option.some.inj same)
  | first :: second :: rest, other :: next :: more =>
      exact injective (Option.some.inj same)

end Expression

open Expression

namespace OpenGroup

/-! ## Negations of a group -/

/-- A group in which so many negations more wait for an operand. -/
def negateBy (group : OpenGroup) (count : Nat) : OpenGroup :=
  { group with negations := group.negations + Int32.ofNat count }

theorem negateBy_zero (group : OpenGroup) : group.negateBy 0 = group :=
  congrArg (OpenGroup.mk group.alternatives group.operands) (Int32.add_zero _)

theorem negate_negateBy (group : OpenGroup) (count : Nat) :
    group.negate.negateBy count = group.negateBy (count + 1) := by
  rw [negateBy, negateBy, negate, Int32.add_assoc, Nat.add_comm count, Int32.ofNat_add]
  rfl

theorem negateBy_ofNat (alternatives operands : List Expression) (first second : Nat) :
    negateBy ⟨alternatives, operands, Int32.ofNat first⟩ second =
      ⟨alternatives, operands, Int32.ofNat (first + second)⟩ := by
  rw [negateBy, Int32.ofNat_add]

/-! ## Reading forgets nothing -/

/-- Two groups of which equally much has been read. -/
structure SameForm (first second : OpenGroup) : Prop where
  alternatives : first.alternatives.length = second.alternatives.length
  operands : first.operands.length = second.operands.length
  negations : first.negations = second.negations

theorem SameForm.refl (group : OpenGroup) : group.SameForm group :=
  ⟨rfl, rfl, rfl⟩

section Forms

variable {first second : OpenGroup} (same : first.SameForm second)
include same

theorem SameForm.take {operand other : Option Expression}
    (both : operand.isSome = other.isSome) : (first.take operand).SameForm (second.take other) := by
  cases operand with
  | none =>
      cases other with
      | none => exact ⟨same.alternatives, same.operands, rfl⟩
      | some _ => contradiction
  | some operand =>
      cases other with
      | none => contradiction
      | some other => exact ⟨same.alternatives, congrArg (· + 1) same.operands, rfl⟩

theorem SameForm.take_inj {operand other : Option Expression}
    (both : operand.isSome = other.isSome) (taken : first.take operand = second.take other) :
    first = second ∧ operand = other := by
  obtain ⟨alternatives, operands, negations⟩ := first
  obtain ⟨otherAlternatives, otherOperands, otherNegations⟩ := second
  obtain rfl : negations = otherNegations := same.negations
  cases operand with
  | none =>
      cases other with
      | none =>
          cases taken
          exact ⟨rfl, rfl⟩
      | some _ => contradiction
  | some operand =>
      cases other with
      | none => contradiction
      | some other =>
          obtain ⟨rfl, taken, _⟩ := OpenGroup.mk.inj taken
          obtain ⟨folded, rfl⟩ := List.cons.inj taken
          exact ⟨rfl, congrArg some (foldNegations_injective negations folded)⟩

theorem SameForm.isSome_conjunction : first.conjunction.isSome = second.conjunction.isSome := by
  rw [conjunction, conjunction, isSome_join, isSome_join, List.length_reverse, List.length_reverse,
    same.operands]

theorem SameForm.conjunction_inj (read : first.conjunction = second.conjunction) :
    first.operands = second.operands := by
  have lengths : first.operands.reverse.length = second.operands.reverse.length := by
    rw [List.length_reverse, List.length_reverse, same.operands]
  exact List.reverse_injective (join_inj (fun _ _ => Expression.and.inj) lengths read)

theorem SameForm.length_allAlternatives :
    first.allAlternatives.length = second.allAlternatives.length := by
  rw [allAlternatives, allAlternatives, List.length_append, List.length_append, same.alternatives,
    Option.length_toList, Option.length_toList, same.isSome_conjunction]

theorem SameForm.allAlternatives_inj (read : first.allAlternatives = second.allAlternatives) :
    first = second := by
  obtain ⟨conjunctions, alternatives⟩ := List.append_inj' read same.alternatives
  have conjunction : first.conjunction = second.conjunction := by
    simpa using congrArg List.head? conjunctions
  have operands := same.conjunction_inj conjunction
  obtain ⟨_, _, _⟩ := first
  obtain ⟨_, _, _⟩ := second
  cases alternatives
  cases operands
  cases same.negations
  rfl

theorem SameForm.nextAlternative : first.nextAlternative.SameForm second.nextAlternative :=
  ⟨same.length_allAlternatives, rfl, rfl⟩

theorem SameForm.isSome_result : first.result.isSome = second.result.isSome := by
  rw [result, result, isSome_join, isSome_join, List.length_reverse, List.length_reverse,
    same.length_allAlternatives]

theorem SameForm.result_inj (read : first.result = second.result) : first = second := by
  have lengths : first.allAlternatives.reverse.length = second.allAlternatives.reverse.length := by
    rw [List.length_reverse, List.length_reverse, same.length_allAlternatives]
  apply same.allAlternatives_inj
  exact List.reverse_injective (join_inj (fun _ _ => Expression.or.inj) lengths read)

end Forms

end OpenGroup

namespace Reading

/-- Two states in which equally much has been read, in every open group. -/
structure SameForm (first second : Reading) : Prop where
  current : first.current.SameForm second.current
  enclosing : List.Forall₂ OpenGroup.SameForm first.enclosing second.enclosing

theorem ext {first second : Reading} (current : first.current = second.current)
    (enclosing : first.enclosing = second.enclosing) : first = second := by
  obtain ⟨_, _⟩ := first
  obtain ⟨_, _⟩ := second
  cases current
  cases enclosing
  rfl

/-- What two states have in common if a step forgets nothing. -/
def Separates (change : Reading → Reading) (first second : Reading) : Prop :=
  (change first).SameForm (change second) ∧ (change first = change second → first = second)

section Forms

variable {first second : Reading} (same : first.SameForm second)
include same

theorem SameForm.depth : first.depth = second.depth :=
  same.enclosing.length_eq

theorem SameForm.update {change : OpenGroup → OpenGroup}
    (keeps : (change first.current).SameForm (change second.current))
    (injective : change first.current = change second.current → first.current = second.current) :
    Separates (·.update change) first second := by
  refine ⟨⟨keeps, same.enclosing⟩, ?_⟩
  intro updated
  obtain ⟨current, enclosing⟩ := Reading.mk.inj updated
  exact ext (injective current) enclosing

theorem SameForm.take (operand : Option Expression) :
    Separates (·.update (·.take operand)) first second :=
  same.update (same.current.take rfl) fun taken => (same.current.take_inj rfl taken).1

theorem SameForm.openGroup : Separates openGroup first second := by
  unfold Separates Reading.openGroup
  rw [same.depth]
  split
  · refine ⟨⟨.refl .fresh, .cons same.current same.enclosing⟩, ?_⟩
    intro opened
    obtain ⟨current, enclosing⟩ := List.cons.inj (Reading.mk.inj opened).2
    exact ext current enclosing
  · exact same.take none

theorem SameForm.closeGroup : Separates closeGroup first second := by
  obtain ⟨current, enclosing⟩ := first
  obtain ⟨otherCurrent, otherEnclosing⟩ := second
  obtain ⟨sameCurrent, sameEnclosing⟩ := same
  cases sameEnclosing with
  | nil => exact SameForm.take ⟨sameCurrent, .nil⟩ none
  | cons outer others =>
      refine ⟨⟨outer.take sameCurrent.isSome_result, others⟩, ?_⟩
      intro closed
      obtain ⟨taken, rest⟩ := Reading.mk.inj closed
      obtain ⟨sameOuter, sameResult⟩ := outer.take_inj sameCurrent.isSome_result taken
      exact ext (sameCurrent.result_inj sameResult) (List.cons_eq_cons.mpr ⟨sameOuter, rest⟩)

theorem SameForm.negate : Separates (·.update .negate) first second := by
  obtain ⟨⟨alternatives, operands, negations⟩, enclosing⟩ := first
  obtain ⟨⟨otherAlternatives, otherOperands, otherNegations⟩, otherEnclosing⟩ := second
  obtain rfl : negations = otherNegations := same.current.negations
  refine same.update ⟨same.current.alternatives, same.current.operands, rfl⟩ ?_
  intro counted
  obtain ⟨rfl, rfl, _⟩ := OpenGroup.mk.inj counted
  rfl

theorem SameForm.step (token : Token) : Separates (·.step token) first second := by
  cases token with
  | word _ | phrase _ | filter _ _ _ => exact same.take _
  | operator _ | and => exact same.take none
  | or =>
      refine same.update same.current.nextAlternative ?_
      intro next
      exact same.current.allAlternatives_inj (OpenGroup.mk.inj next).1
  | not | minus => exact same.negate
  | openGroup => exact same.openGroup
  | closeGroup => exact same.closeGroup
  | endOfQuery => exact ⟨same, id⟩

theorem SameForm.run (tokens : List Token) :
    Separates (tokens.foldl Reading.step ·) first second := by
  induction tokens generalizing first second with
  | nil => exact ⟨same, id⟩
  | cons token tokens ih =>
      obtain ⟨sameNext, next⟩ := same.step token
      obtain ⟨sameLast, last⟩ := ih sameNext
      exact ⟨sameLast, fun equal => next (last equal)⟩

/-- From different states of one form, different expressions result. -/
theorem SameForm.finish_inj (finished : first.finish = second.finish) : first = second := by
  obtain ⟨current, enclosing⟩ := first
  obtain ⟨otherCurrent, otherEnclosing⟩ := second
  have sameEnclosing : List.Forall₂ OpenGroup.SameForm enclosing otherEnclosing := same.enclosing
  have sameCurrent : current.SameForm otherCurrent := same.current
  clear same
  induction sameEnclosing generalizing current otherCurrent with
  | nil => exact ext (sameCurrent.result_inj finished) rfl
  | cons outer others ih =>
      have taken := ih _ _ finished (outer.take sameCurrent.isSome_result)
      obtain ⟨sameTaken, sameOthers⟩ := Reading.mk.inj taken
      obtain ⟨sameOuter, sameResult⟩ := outer.take_inj sameCurrent.isSome_result sameTaken
      exact ext (sameCurrent.result_inj sameResult)
        (List.cons_eq_cons.mpr ⟨sameOuter, sameOthers⟩)

end Forms

end Reading

/-! ## Operands in tokens -/

namespace Token

/-- The number of groups that reading has open after tokens. -/
def groupsAfter (tokens : List Token) : Nat :=
  tokens.foldl (fun opened token => min (token.nest opened) Reading.maxDepth) 0

/-- Tokens up to the parenthesis that leaves only `outer` groups open, if `opened` groups are
open before them. -/
def bodyWithin (outer opened : Nat) : List Token → List Token
  | [] => []
  | token :: rest =>
      let next := min (token.nest opened) Reading.maxDepth
      if outer < next then token :: bodyWithin outer next rest else []

/-- The operand that tokens begin with, if some groups are open before them: after any
negations, a single token or a group up to the parenthesis that closes it. -/
def operand (opened : Nat) (tokens : List Token) : List Token :=
  match tokens.dropWhile negates with
  | [] => []
  | token :: rest =>
      let next := min (token.nest opened) Reading.maxDepth
      token :: if opened < next then bodyWithin opened next rest else []

/-- Whether no term stands in tokens. -/
def IsBare (tokens : List Token) : Prop :=
  ∀ token ∈ tokens, token.leaf? = none

instance (tokens : List Token) : Decidable (IsBare tokens) :=
  inferInstanceAs (Decidable (∀ token ∈ tokens, token.leaf? = none))

theorem isBare_iff {tokens : List Token} : IsBare tokens ↔ tokens.filterMap leaf? = [] :=
  List.filterMap_eq_nil_iff.symm

theorem leaf?_capped (opened : Nat) (token : Token) :
    (token.capped opened).leaf? = token.leaf? := by
  cases token with
  | openGroup =>
      rw [capped]
      split <;> rfl
  | _ => rfl

theorem filterMap_leaf?_capNestingFrom (opened : Nat) (tokens : List Token) :
    (capNestingFrom opened tokens).filterMap leaf? = tokens.filterMap leaf? := by
  induction tokens generalizing opened with
  | nil => rfl
  | cons token rest ih =>
      rw [capNestingFrom, List.filterMap_cons, List.filterMap_cons, leaf?_capped, ih]

/-- Only an opening parenthesis opens groups. -/
theorem eq_openGroup_of_lt {opened : Nat} {token : Token} (opens : opened < token.nest opened) :
    token = .openGroup := by
  cases token with
  | openGroup => rfl
  | closeGroup => exact absurd opens (Nat.not_lt_of_le (Nat.sub_le _ _))
  | _ => exact absurd opens (Nat.lt_irrefl opened)

/-- Only a closing parenthesis closes groups. -/
theorem eq_closeGroup_of_lt {opened : Nat} {token : Token} (closes : token.nest opened < opened) :
    token = .closeGroup := by
  cases token with
  | closeGroup => rfl
  | openGroup => exact absurd closes (Nat.not_lt_of_le (Nat.le_succ _))
  | _ => exact absurd closes (Nat.lt_irrefl opened)

end Token

open Token

namespace Reading

/-- Reading has as many groups open as it counts. -/
theorem depth_run_start (tokens : List Token) :
    (tokens.foldl step start).depth = groupsAfter tokens := by
  induction tokens using List.reverseRecOn with
  | nil => rfl
  | append_singleton front token ih =>
      rw [foldl_concat, depth_step (depth_run_le (Nat.zero_le _) front), ih, groupsAfter,
        groupsAfter, List.foldl_append, List.foldl_cons, List.foldl_nil]

theorem depth_within (reading : Reading) (outer : List OpenGroup) :
    (reading.within outer).depth = reading.depth + outer.length :=
  List.length_append

/-- A token that closes none of the groups around is read as on its own, except that a
parenthesis that is too deep counts as AND. -/
theorem step_within_capped {reading : Reading} (outer : List OpenGroup) {token : Token}
    (closes : token = .closeGroup → 0 < reading.depth) :
    (reading.within outer).step token =
      (reading.step (token.capped (reading.depth + outer.length))).within outer := by
  rw [← step_capped, depth_within]
  apply step_within
  · intro opens
    cases token with
    | openGroup =>
        rw [capped] at opens
        split at opens
        · assumption
        · contradiction
    | _ => contradiction
  · intro capsToClosing
    apply closes
    cases token with
    | openGroup =>
        rw [capped] at capsToClosing
        split at capsToClosing <;> contradiction
    | _ => exact capsToClosing

/-- The body of a group is read as on its own, except that parentheses that are too deep count
as AND. It ends with the tokens or before the parenthesis that closes the group. -/
theorem run_bodyWithin {around : Nat} {outer : List OpenGroup} (length : outer.length = around + 1)
    {reading : Reading} {opened : Nat} (depth : reading.depth + outer.length = opened)
    (bounded : opened ≤ maxDepth) (tokens : List Token) :
    let body := bodyWithin around opened tokens
    let read := (capNestingFrom opened body).foldl step reading
    body.foldl step (reading.within outer) = read.within outer ∧
      (tokens = body ∨
        ∃ later, tokens = body ++ .closeGroup :: later ∧ read.enclosing = []) := by
  induction tokens generalizing reading opened with
  | nil => exact ⟨rfl, .inl rfl⟩
  | cons token rest ih =>
      intro body read
      by_cases inside : around < min (token.nest opened) maxDepth
      · have closes : token = .closeGroup → 0 < reading.depth := by
          rintro rfl
          rw [nest] at inside
          omega
        have whole : (reading.within outer).depth = opened := by
          rw [depth_within, depth]
        have stepped := step_within_capped outer closes
        rw [depth] at stepped
        have next := depth_step (whole ▸ bounded) token
        rw [whole, stepped, depth_within] at next
        obtain ⟨run, ends⟩ := ih next (Nat.min_le_right _ _)
        have split : body = token :: bodyWithin around (min (token.nest opened) maxDepth) rest :=
          if_pos inside
        have readSplit : read = (capNestingFrom (min (token.nest opened) maxDepth)
            (bodyWithin around (min (token.nest opened) maxDepth) rest)).foldl step
              (reading.step (token.capped opened)) := by
          change (capNestingFrom opened body).foldl step reading = _
          rw [split]
          rfl
        rw [readSplit, split, List.foldl_cons, stepped]
        refine ⟨run, ends.imp (congrArg (token :: ·)) ?_⟩
        rintro ⟨later, restSplit, closed⟩
        exact ⟨later, congrArg (token :: ·) restSplit, closed⟩
      · have outside : body = [] := if_neg inside
        have none : read = reading := by
          change (capNestingFrom opened body).foldl step reading = reading
          rw [outside]
          rfl
        obtain rfl : token = .closeGroup := by
          have closes : token.nest opened < opened := by omega
          exact eq_closeGroup_of_lt closes
        have closed : reading.depth = 0 := by
          rw [nest] at inside
          omega
        rw [none, outside]
        exact ⟨rfl, .inr ⟨rest, rfl, List.eq_nil_of_length_eq_zero closed⟩⟩

theorem finishAround_append (inner : Option Expression) (groups others : List OpenGroup) :
    finishAround inner (groups ++ others) = finishAround (finishAround inner groups) others := by
  induction groups generalizing inner with
  | nil => rfl
  | cons group groups ih => exact ih _

/-- At the end of a query, what has been read of a group becomes an operand of the group
around it. -/
theorem finish_within (reading : Reading) (group : OpenGroup) (enclosing : List OpenGroup) :
    (reading.within (group :: enclosing)).finish =
      finish ⟨group.take reading.finish, enclosing⟩ :=
  finishAround_append _ _ _

theorem leaves_ne_nil_of_finish {tokens : List Token} {expression : Expression}
    (finished : (tokens.foldl step start).finish = some expression) : expression.leaves ≠ [] :=
  ((isDerived_start.run tokens).finish finished).leaves_ne_nil

/-- Tokens mean nothing if and only if no term stands in them. -/
theorem finish_eq_none_iff (tokens : List Token) :
    (tokens.foldl step start).finish = none ↔ IsBare tokens := by
  have leaves : leavesOf (tokens.foldl step start).finish = tokens.filterMap Token.leaf? := by
    rw [leavesOf_finish, leaves_run]
    rfl
  rw [isBare_iff, ← leaves]
  cases finished : (tokens.foldl step start).finish with
  | none => simp
  | some expression => simpa using leaves_ne_nil_of_finish finished

/-- A negation is counted, which changes nothing else. -/
theorem step_of_negates {token : Token} (negates : token.negates = true) (reading : Reading) :
    reading.step token = reading.update .negate := by
  cases token with
  | not | minus => rfl
  | _ => contradiction

/-- In the innermost of some groups, tokens are read as an operand under the negations that they
begin with, and then as later tokens. The operand has a meaning if and only if a term stands in
it. -/
structure ReadsOperand (enclosing : List OpenGroup) (tokens : List Token)
    (meaning : Option Expression) (later : List Token) : Prop where
  bare : meaning = none ↔ IsBare (operand enclosing.length tokens)
  finish : ∀ group : OpenGroup, (tokens.foldl step ⟨group, enclosing⟩).finish =
    (later.foldl step ⟨(group.negateBy (negationsAtStart tokens)).take meaning, enclosing⟩).finish

section Operands

variable {enclosing : List OpenGroup} {token : Token} {rest : List Token}

theorem readsOperand_nil : ReadsOperand enclosing [] none [] :=
  ⟨by simp [operand, IsBare], fun _ => rfl⟩

theorem ReadsOperand.negation {meaning : Option Expression} {later : List Token}
    (reads : ReadsOperand enclosing rest meaning later) (negating : token.negates = true) :
    ReadsOperand enclosing (token :: rest) meaning later := by
  have same : operand enclosing.length (token :: rest) = operand enclosing.length rest := by
    rw [operand, List.dropWhile_cons_of_pos negating, operand]
  refine ⟨same ▸ reads.bare, ?_⟩
  intro group
  rw [List.foldl_cons, step_of_negates negating, update, reads.finish, OpenGroup.negate_negateBy,
    negationsAtStart_cons, if_pos negating]

/-- A token that opens no group is an operand by itself. -/
theorem isBare_operand_of_not_opening (positive : ¬ token.negates = true)
    (closed : ¬ enclosing.length < min (token.nest enclosing.length) maxDepth) :
    IsBare (operand enclosing.length (token :: rest)) ↔ token.leaf? = none := by
  have single : operand enclosing.length (token :: rest) = [token] := by
    rw [operand, List.dropWhile_cons_of_neg positive]
    exact congrArg (token :: ·) (if_neg closed)
  rw [single]
  exact List.forall_mem_singleton

/-- A token that is neither an operand nor a negation settles the negations before it, so it
makes no difference if they have been dropped already. -/
theorem readsOperand_of_settles (bare : none = (none : Option Expression) ↔
      IsBare (operand enclosing.length (token :: rest)))
    (settles : ∀ group : OpenGroup,
      step ⟨group.settle, enclosing⟩ token = step ⟨group, enclosing⟩ token) :
    ReadsOperand enclosing (token :: rest) none (token :: rest) := by
  refine ⟨bare, ?_⟩
  intro group
  rw [List.foldl_cons, List.foldl_cons, ← settles group]
  rfl

theorem readsOperand_of_not_opening (positive : ¬ token.negates = true)
    (notEnd : token ≠ .endOfQuery)
    (closed : ¬ enclosing.length < min (token.nest enclosing.length) maxDepth) :
    ∃ meaning later, ReadsOperand enclosing (token :: rest) meaning later := by
  have bare : IsBare (operand enclosing.length (token :: rest)) ↔ token.leaf? = none :=
    isBare_operand_of_not_opening positive closed
  cases token with
  | word _ | phrase _ | filter _ _ _ =>
      refine ⟨_, rest, bare.symm, fun group => ?_⟩
      rw [negationsAtStart_cons, if_neg positive, OpenGroup.negateBy_zero]
      rfl
  | operator _ | and | or =>
      exact ⟨none, _, readsOperand_of_settles (by simp [bare, Token.leaf?]) fun _ => rfl⟩
  | not | minus => exact absurd rfl positive
  | openGroup =>
      have deep : ¬ enclosing.length < maxDepth := by
        rw [nest] at closed
        omega
      refine ⟨none, _, readsOperand_of_settles (by simp [bare, Token.leaf?]) fun group => ?_⟩
      exact (if_neg deep).trans (if_neg deep).symm
  | closeGroup =>
      refine ⟨none, _, readsOperand_of_settles (by simp [bare, Token.leaf?]) fun group => ?_⟩
      cases enclosing <;> rfl
  | endOfQuery => exact absurd rfl notEnd

/-- A group is read as an operand, which it is without its parentheses. -/
theorem readsOperand_group (more : enclosing.length < maxDepth) :
    ∃ meaning later, ReadsOperand enclosing (.openGroup :: rest) meaning later := by
  let body := bodyWithin enclosing.length (enclosing.length + 1) rest
  let read := (capNestingFrom (enclosing.length + 1) body).foldl step start
  have bare : read.finish = none ↔ IsBare (operand enclosing.length (.openGroup :: rest)) := by
    have next : min (enclosing.length + 1) maxDepth = enclosing.length + 1 := Nat.min_eq_left more
    have whole : operand enclosing.length (.openGroup :: rest) = .openGroup :: body := by
      have first : ¬ Token.openGroup.negates = true := by decide
      rw [operand, List.dropWhile_cons_of_neg first]
      simp only [nest, next, Nat.lt_add_one, if_true]
      rfl
    rw [finish_eq_none_iff, whole, isBare_iff, isBare_iff, filterMap_leaf?_capNestingFrom]
    rfl
  have run (group : OpenGroup) :
      body.foldl step (step ⟨group, enclosing⟩ .openGroup) = read.within (group :: enclosing) ∧
      (rest = body ∨ ∃ later, rest = body ++ .closeGroup :: later ∧ read.enclosing = []) := by
    have opened : step ⟨group, enclosing⟩ .openGroup = start.within (group :: enclosing) :=
      if_pos more
    rw [opened]
    exact run_bodyWithin rfl (Nat.zero_add _) more rest
  have unnegated : negationsAtStart (.openGroup :: rest) = 0 := rfl
  rcases (run .fresh).2 with whole | ⟨later, split, closed⟩
  · refine ⟨read.finish, [], bare, ?_⟩
    intro group
    rw [unnegated, OpenGroup.negateBy_zero, List.foldl_cons, whole, (run group).1, finish_within]
    rfl
  · refine ⟨read.finish, later, bare, ?_⟩
    intro group
    have result : read.finish = read.current.result := by
      rw [finish, closed]
      rfl
    have closing : step (read.within (group :: enclosing)) .closeGroup =
        ⟨group.take read.finish, enclosing⟩ := by
      rw [within, closed, result]
      rfl
    rw [unnegated, OpenGroup.negateBy_zero, List.foldl_cons, split, List.foldl_append,
      (run group).1, List.foldl_cons, closing]

theorem exists_readsOperand {tokens : List Token} (noEnd : .endOfQuery ∉ tokens) :
    ∃ meaning later, ReadsOperand enclosing tokens meaning later := by
  induction tokens with
  | nil => exact ⟨none, [], readsOperand_nil⟩
  | cons token rest ih =>
      rw [List.mem_cons, not_or] at noEnd
      by_cases negating : token.negates = true
      · obtain ⟨meaning, later, reads⟩ := ih noEnd.2
        exact ⟨meaning, later, reads.negation negating⟩
      · by_cases opens : enclosing.length < min (token.nest enclosing.length) maxDepth
        · obtain rfl := eq_openGroup_of_lt (Nat.lt_of_lt_of_le opens (Nat.min_le_left _ _))
          have more := Nat.lt_of_lt_of_le opens (Nat.min_le_right _ _)
          exact readsOperand_group more
        · exact readsOperand_of_not_opening negating (Ne.symm noEnd.1) opens

end Operands

/-- What has been read, with so many negations that wait for an operand. -/
def withNegations (count : Nat) (reading : Reading) : Reading :=
  reading.update fun group => { group with negations := Int32.ofNat count }

section WaitingNegations

variable {reading : Reading} {tokens : List Token}

theorem withNegations_eq_self {count : Nat}
    (counted : reading.current.negations = Int32.ofNat count) :
    reading.withNegations count = reading := by
  rw [withNegations, update, ← counted]

/-- How many negations wait makes a difference if and only if a term stands in the operand that
comes next and, together with the negations before it, they turn it around for one of the two
numbers only. -/
theorem finish_run_withNegations_eq_iff (noEnd : .endOfQuery ∉ tokens) (first second : Nat) :
    (tokens.foldl step (reading.withNegations first)).finish =
        (tokens.foldl step (reading.withNegations second)).finish ↔
      (TurnsAround (first + negationsAtStart tokens) ↔
        TurnsAround (second + negationsAtStart tokens)) ∨
          IsBare (operand reading.depth tokens) := by
  obtain ⟨⟨alternatives, operands, _⟩, enclosing⟩ := reading
  obtain ⟨meaning, later, bare, finish⟩ := exists_readsOperand noEnd
  have counted (count : Nat) :
      (tokens.foldl step ⟨⟨alternatives, operands, Int32.ofNat count⟩, enclosing⟩).finish =
        (later.foldl step ⟨OpenGroup.take ⟨alternatives, operands,
          Int32.ofNat (count + negationsAtStart tokens)⟩ meaning, enclosing⟩).finish := by
    rw [finish, OpenGroup.negateBy_ofNat]
  refine (Eq.congr (counted first) (counted second)).trans ?_
  cases meaning with
  | none => exact iff_of_true rfl (.inr (bare.mp rfl))
  | some expression =>
      have notBare : ¬ IsBare (operand enclosing.length tokens) :=
        fun isBare => Option.some_ne_none expression (bare.mpr isBare)
      have same (count other : Int32) : SameForm
          ⟨OpenGroup.take ⟨alternatives, operands, count⟩ (some expression), enclosing⟩
          ⟨OpenGroup.take ⟨alternatives, operands, other⟩ (some expression), enclosing⟩ :=
        ⟨⟨rfl, rfl, rfl⟩, List.forall₂_same.mpr fun group _ => .refl group⟩
      refine Iff.trans ?_ (or_iff_left notBare).symm
      rw [← foldNegations_ofNat_eq_iff expression]
      constructor
      · intro equal
        obtain ⟨sameLater, later⟩ := (same _ _).run later
        have taken := congrArg (·.current.operands.head?) (later (sameLater.finish_inj equal))
        exact Option.some.inj taken
      · intro folded
        rw [OpenGroup.take, OpenGroup.take, folded]

/-- It makes no difference that negations are dropped if and only if they cancel, before those
that follow, or no term stands in the operand that comes next. -/
theorem finish_run_dropped_eq_iff (noEnd : .endOfQuery ∉ tokens) (count : Nat) :
    (tokens.foldl step (reading.withNegations 0)).finish =
        (tokens.foldl step (reading.withNegations count)).finish ↔
      Cancels count (negationsAtStart tokens) ∨ IsBare (operand reading.depth tokens) := by
  rw [eq_comm, finish_run_withNegations_eq_iff noEnd, Nat.zero_add, Cancels]

end WaitingNegations

end Reading

end SearchQuery
