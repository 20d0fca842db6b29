import SearchQuery.Proofs.WaitingNegations

/-!
# Flattening groups that are too deep

To flatten a query is to leave out the parentheses of all groups below the depth to which
reading opens groups, each opening parenthesis with the closing parenthesis that matches it,
and nothing else. Reading does not do this: it drops the negations before an opening
parenthesis that is too deep, and it lets the closing parenthesis close another group.

A deep query is read like the flattened one if the negations that are dropped cancel and if
the groups around a deep group are closed right behind it. Otherwise the two may differ, and
a query may ask for a term that it excludes when it is flattened.
-/

namespace SearchQuery

namespace Token

/-- The number of open parentheses after tokens. -/
def depthAfter (tokens : List Token) : Nat :=
  tokens.foldl nest 0

/-- Whether a token is a parenthesis of a group below the depth to which groups are
opened, if some parentheses are open before it. -/
def isTooDeep (opened : Nat) : Token → Bool
  | .openGroup => Reading.maxDepth ≤ opened
  | .closeGroup => Reading.maxDepth < opened
  | _ => false

/-- Tokens without the parentheses of groups that are too deep, if some parentheses are
open before them. -/
def flattenFrom (opened : Nat) : List Token → List Token
  | [] => []
  | token :: rest =>
      if token.isTooDeep opened then flattenFrom (token.nest opened) rest
      else token :: flattenFrom (token.nest opened) rest

/-- Tokens without the parentheses of groups that are too deep. -/
def flatten (tokens : List Token) : List Token :=
  flattenFrom 0 tokens

theorem depthAfter_concat (tokens : List Token) (token : Token) :
    depthAfter (tokens ++ [token]) = token.nest (depthAfter tokens) := by
  simp [depthAfter]

theorem depthAfter_closings (tokens : List Token) (count : Nat) :
    depthAfter (tokens ++ List.replicate count .closeGroup) = depthAfter tokens - count := by
  induction count with
  | zero => simp
  | succ count ih =>
      rw [List.replicate_succ', ← List.append_assoc, depthAfter_concat, ih]
      rfl

/-- Unless a deep group is closed, the limit on the depth can be applied before a token as
well as after it. -/
theorem min_nest {opened : Nat} {token : Token}
    (shallow : token = .closeGroup → opened ≤ Reading.maxDepth) :
    min (token.nest (min opened Reading.maxDepth)) Reading.maxDepth =
      min (token.nest opened) Reading.maxDepth := by
  cases token with
  | openGroup =>
      rw [nest, nest]
      omega
  | closeGroup => rw [nest, nest, Nat.min_eq_left (shallow rfl)]
  | word _ | phrase _ | filter _ _ _ | operator _ | and | or | not | minus | endOfQuery =>
      exact (Nat.min_assoc _ _ _).trans (congrArg _ (Nat.min_self _))

/-- Of the parentheses that close all groups, those of deep groups are left out. -/
theorem flattenFrom_closings (opened : Nat) (rest : List Token) :
    flattenFrom opened (List.replicate opened .closeGroup ++ rest) =
      List.replicate (min opened Reading.maxDepth) .closeGroup ++ flattenFrom 0 rest := by
  induction opened with
  | zero => rfl
  | succ opened ih =>
      rw [List.replicate_succ, List.cons_append, flattenFrom, nest, Nat.add_sub_cancel, ih]
      by_cases deep : Reading.maxDepth < opened + 1
      · have all : min opened Reading.maxDepth = min (opened + 1) Reading.maxDepth := by omega
        have left : isTooDeep (opened + 1) .closeGroup = true := decide_eq_true deep
        rw [if_pos left, all]
      · have shallow : min opened Reading.maxDepth = opened := by omega
        have next : min (opened + 1) Reading.maxDepth = opened + 1 := by omega
        have kept : ¬isTooDeep (opened + 1) .closeGroup = true := by simpa [isTooDeep] using deep
        rw [if_neg kept, shallow, next, List.replicate_succ, List.cons_append]

/-- Flattening adds no tokens. -/
theorem flattenFrom_sublist (opened : Nat) (tokens : List Token) :
    (flattenFrom opened tokens).Sublist tokens := by
  induction tokens generalizing opened with
  | nil => exact .slnil
  | cons token rest ih =>
      rw [flattenFrom]
      split
      · exact (ih _).cons token
      · exact (ih _).cons_cons token

/-- Flattening leaves the end marker where it is. -/
theorem takeWhile_flattenFrom (opened : Nat) (tokens : List Token) :
    (flattenFrom opened tokens).takeWhile (· != .endOfQuery) =
      flattenFrom opened (tokens.takeWhile (· != .endOfQuery)) := by
  induction tokens generalizing opened with
  | nil => rfl
  | cons token rest ih =>
      cases further : token != .endOfQuery with
      | false =>
          obtain rfl : token = .endOfQuery := by simpa using further
          rfl
      | true =>
          rw [flattenFrom]
          split
          · rename_i deep
            simp [further, flattenFrom, deep, ih]
          · rename_i shallow
            simp [further, flattenFrom, shallow, ih]

/-- Deep groups stand where flattening makes no difference to reading. -/
structure FlattensInPlace (tokens : List Token) : Prop where
  /-- The negations right before a group that is too deep cancel, before those that the group
  begins with when it is flattened. -/
  cancel : ∀ front rest, tokens = front ++ .openGroup :: rest →
    Reading.maxDepth ≤ depthAfter front →
      Cancels (negationsAtEnd front)
        (negationsAtStart (flattenFrom (depthAfter front + 1) rest))
  /-- When a group that is too deep is closed, all groups around it are closed next. -/
  closed : ∀ front rest, tokens = front ++ .closeGroup :: rest →
    Reading.maxDepth < depthAfter front →
      List.replicate (depthAfter front - 1) .closeGroup <+: rest

/-- The tokens around each occurrence of a token are those before and behind a position. -/
theorem forall_around_iff {tokens : List Token} {token : Token}
    {around : List Token → List Token → Prop} :
    (∀ front rest, tokens = front ++ token :: rest → around front rest) ↔
      ∀ length < tokens.length, tokens[length]? = some token →
        around (tokens.take length) (tokens.drop (length + 1)) := by
  constructor
  · intro split length within found
    refine split _ _ ?_
    rw [← List.getElem?_eq_some_iff.mp found |>.2, List.getElem_cons_drop, List.take_append_drop]
  · rintro position front rest rfl
    simpa using position front.length (by simp) (by simp)

instance (tokens : List Token) : Decidable (FlattensInPlace tokens) :=
  decidable_of_iff
    ((∀ length < tokens.length, tokens[length]? = some .openGroup →
        Reading.maxDepth ≤ depthAfter (tokens.take length) →
          Cancels (negationsAtEnd (tokens.take length)) (negationsAtStart
            (flattenFrom (depthAfter (tokens.take length) + 1) (tokens.drop (length + 1))))) ∧
      ∀ length < tokens.length, tokens[length]? = some .closeGroup →
        Reading.maxDepth < depthAfter (tokens.take length) →
          List.replicate (depthAfter (tokens.take length) - 1) .closeGroup <+:
            tokens.drop (length + 1))
    ⟨fun positions => ⟨forall_around_iff.mpr positions.1, forall_around_iff.mpr positions.2⟩,
      fun inPlace => ⟨forall_around_iff.mp inPlace.cancel, forall_around_iff.mp inPlace.closed⟩⟩

end Token

open Token

namespace Reading

section Closings

variable {reading : Reading}

/-- If no group is open and nothing waits for an operand, a closing parenthesis changes
nothing. -/
theorem step_closeGroup_of_depth_eq_zero (closed : reading.depth = 0)
    (settled : reading.current.negations = 0) : reading.step .closeGroup = reading := by
  obtain ⟨⟨alternatives, operands, negations⟩, enclosing⟩ := reading
  cases List.eq_nil_of_length_eq_zero closed
  cases settled
  rfl

/-- Closing parentheses close one group each. -/
theorem depth_closings (bounded : reading.depth ≤ maxDepth) (count : Nat) :
    ((List.replicate count .closeGroup).foldl step reading).depth = reading.depth - count := by
  induction count with
  | zero => rfl
  | succ count ih =>
      have later := depth_run_le bounded (List.replicate count .closeGroup)
      rw [List.replicate_succ', List.foldl_append, List.foldl_cons, List.foldl_nil,
        depth_step later, ih, nest]
      omega

/-- Once all groups are closed, further closing parentheses change nothing. -/
theorem run_closings (bounded : reading.depth ≤ maxDepth) (someOpen : 0 < reading.depth)
    {count : Nat} (enough : reading.depth ≤ count) :
    (List.replicate count .closeGroup).foldl step reading =
      (List.replicate reading.depth .closeGroup).foldl step reading := by
  obtain ⟨more, rfl⟩ := Nat.exists_eq_add_of_le enough
  induction more with
  | zero => rfl
  | succ more ih =>
      have closed := depth_closings bounded (reading.depth + more)
      rw [Nat.sub_eq_zero_of_le (Nat.le_add_right _ _)] at closed
      rw [← Nat.add_assoc, List.replicate_succ', List.foldl_append, List.foldl_cons,
        List.foldl_nil, step_closeGroup_of_depth_eq_zero closed, ih (Nat.le_add_right _ _)]
      rw [ih (Nat.le_add_right _ _)]
      -- The last group was closed by a parenthesis, which settles what was negated.
      obtain ⟨depth, eq⟩ := Nat.exists_eq_succ_of_ne_zero (Nat.ne_of_gt someOpen)
      rw [eq, Nat.succ_eq_add_one, List.replicate_succ', List.foldl_append, List.foldl_cons,
        List.foldl_nil, negations_step (by simp)]
      rfl

end Closings

/-! ## Flattening in place -/

/-- After tokens, as many groups are open as parentheses are, up to the limit. -/
def InStep (front : List Token) : Prop :=
  (front.foldl step start).depth = min (depthAfter front) maxDepth

/-- After tokens, it makes no difference to what is read whether the rest is flattened. -/
def Flattens (front rest : List Token) : Prop :=
  ((flattenFrom (depthAfter front) rest).foldl step (front.foldl step start)).finish =
    (rest.foldl step (front.foldl step start)).finish

section InPlace

variable {front rest : List Token} {token : Token}

theorem InStep.depth_le (inStep : InStep front) : (front.foldl step start).depth ≤ maxDepth :=
  inStep ▸ Nat.min_le_right _ _

theorem InStep.concat (inStep : InStep front)
    (shallow : token = .closeGroup → depthAfter front ≤ maxDepth) : InStep (front ++ [token]) := by
  rw [InStep, foldl_concat, depth_step inStep.depth_le, inStep, depthAfter_concat,
    min_nest shallow]

theorem InStep.closings (inStep : InStep front) :
    InStep (front ++ List.replicate (depthAfter front) .closeGroup) := by
  rw [InStep, List.foldl_append, depth_closings inStep.depth_le, inStep, depthAfter_closings]
  omega

/-- What is kept is read in the same way. -/
theorem Flattens.concat (kept : ¬token.isTooDeep (depthAfter front) = true)
    (later : Flattens (front ++ [token]) rest) : Flattens front (token :: rest) := by
  rw [Flattens, foldl_concat, depthAfter_concat] at later
  rw [Flattens, flattenFrom, if_neg kept]
  exact later

/-- An opening parenthesis that is too deep can be left out if the negations before it cancel. -/
theorem Flattens.opening (inStep : InStep front) (deep : maxDepth ≤ depthAfter front)
    (noEnd : .endOfQuery ∉ front) (noEndBehind : .endOfQuery ∉ rest)
    (cancel : Cancels (negationsAtEnd front)
      (negationsAtStart (flattenFrom (depthAfter front + 1) rest)))
    (later : Flattens (front ++ [.openGroup]) rest) : Flattens front (.openGroup :: rest) := by
  have full : ¬(front.foldl step start).depth < maxDepth := by
    rw [inStep, Nat.min_eq_right deep]
    exact Nat.lt_irrefl _
  have dropped : (front.foldl step start).step .openGroup =
      (front.foldl step start).withNegations 0 :=
    if_neg full
  have left : isTooDeep (depthAfter front) .openGroup = true := decide_eq_true deep
  have flattenedNoEnd : .endOfQuery ∉ flattenFrom (depthAfter front + 1) rest :=
    fun mem => noEndBehind ((flattenFrom_sublist _ rest).subset mem)
  have same := (@finish_run_dropped_eq_iff (front.foldl step start) _ flattenedNoEnd _).mpr
    (.inl cancel)
  rw [withNegations_eq_self (negations_run noEnd)] at same
  rw [Flattens, foldl_concat, depthAfter_concat, dropped] at later
  rw [Flattens, flattenFrom, if_pos left, List.foldl_cons, dropped]
  exact same.symm.trans later

/-- Where all groups are closed, the parentheses of deep groups can be left out. -/
theorem Flattens.closings (inStep : InStep front) (someOpen : 0 < depthAfter front)
    (later : Flattens (front ++ List.replicate (depthAfter front) .closeGroup) rest) :
    Flattens front (List.replicate (depthAfter front) .closeGroup ++ rest) := by
  have groupOpen : 0 < (front.foldl step start).depth := by
    rw [inStep]
    exact Nat.lt_min.mpr ⟨someOpen, by decide⟩
  have closings := run_closings inStep.depth_le groupOpen (inStep ▸ Nat.min_le_left _ _)
  rw [Flattens, List.foldl_append, depthAfter_closings, Nat.sub_self, closings] at later
  rw [Flattens, flattenFrom_closings, ← inStep, List.foldl_append, List.foldl_append, closings]
  exact later

end InPlace

theorem flattens_of_flattensInPlace {tokens : List Token} (inPlace : FlattensInPlace tokens)
    (noEnd : .endOfQuery ∉ tokens) {front rest : List Token} (whole : tokens = front ++ rest)
    (inStep : InStep front) : Flattens front rest := by
  -- When a deep group is closed, all closing parentheses that follow are taken at once.
  induction length : rest.length using Nat.strongRecOn generalizing front rest with
  | ind size ih =>
      cases rest with
      | nil => rfl
      | cons token later =>
          have smaller : later.length < size := by simp [← length]
          have further : tokens = (front ++ [token]) ++ later := by simp [whole]
          by_cases deep : token.isTooDeep (depthAfter front) = true
          · cases token with
            | openGroup =>
                have below : maxDepth ≤ depthAfter front := of_decide_eq_true deep
                rw [whole, List.mem_append, List.mem_cons, not_or, not_or] at noEnd
                have cancel := inPlace.cancel front later whole below
                have next := ih later.length smaller further (inStep.concat (by simp)) rfl
                exact .opening inStep below noEnd.1 noEnd.2.2 cancel next
            | closeGroup =>
                have below : maxDepth < depthAfter front := of_decide_eq_true deep
                have someOpen : 0 < depthAfter front := Nat.lt_of_le_of_lt (Nat.zero_le _) below
                obtain ⟨others, rfl⟩ := inPlace.closed front later whole below
                have closings : Token.closeGroup ::
                      (List.replicate (depthAfter front - 1) .closeGroup ++ others) =
                    List.replicate (depthAfter front) .closeGroup ++ others := by
                  rw [← List.cons_append, ← List.replicate_succ, Nat.sub_add_cancel someOpen]
                rw [closings] at whole ⊢
                rw [← List.append_assoc] at whole
                have fewer : others.length < size := by
                  rw [List.length_append] at smaller
                  exact Nat.lt_of_le_of_lt (Nat.le_add_left _ _) smaller
                exact .closings inStep someOpen (ih others.length fewer whole inStep.closings rfl)
            | _ => contradiction
          · have shallow : token = .closeGroup → depthAfter front ≤ maxDepth := by
              rintro rfl
              simpa [isTooDeep] using deep
            exact .concat deep (ih later.length smaller further (inStep.concat shallow) rfl)

end Reading

namespace Expression

theorem ofTokens_flatten {tokens : List Token}
    (inPlace : FlattensInPlace (tokens.takeWhile (· != .endOfQuery))) :
    ofTokens (flatten tokens) = ofTokens tokens := by
  unfold ofTokens flatten
  rw [takeWhile_flattenFrom]
  have read : Reading.Flattens [] _ := Reading.flattens_of_flattensInPlace inPlace
    (endOfQuery_notMem_takeWhile tokens) (List.nil_append _).symm rfl
  exact congrArg (·.getD .empty) read

/-- Parentheses that are too deep to open a group are read as ANDs, and no closing parenthesis is
left out. This amounts to flattening for queries that flatten in place. -/
theorem ofTokens_of_deep_groups (tokens : List Token) :
    ofTokens tokens = ofTokens (capNesting tokens) ∧
      (FlattensInPlace (tokens.takeWhile (· != .endOfQuery)) →
        ofTokens tokens = ofTokens (flatten tokens)) :=
  ⟨(ofTokens_capNesting tokens).symm, fun inPlace => (ofTokens_flatten inPlace).symm⟩

/-- Alternatives in 66 groups stand in 64 groups when they are read. -/
theorem ofTokens_of_deep_groups_around_alternatives :
    let tokens : List Token :=
      List.replicate 66 .openGroup ++ [.word "flour", .or, .not, .not, .word "salt"] ++
        List.replicate 66 .closeGroup
    FlattensInPlace (tokens.takeWhile (· != .endOfQuery)) ∧
      ofTokens tokens = ofTokens (flatten tokens) := by
  intro tokens
  have inPlace : FlattensInPlace (tokens.takeWhile (· != .endOfQuery)) := by
    decide +kernel
  exact ⟨inPlace, (ofTokens_of_deep_groups tokens).2 inPlace⟩

set_option maxRecDepth 4000 in
/-- In `c NOT (a) b` below the limit the negation is dropped and the alternative ends with
the group, so the query asks for `a`, which is excluded when the group is flattened. -/
theorem ofTokens_ne_ofTokens_flatten :
    let tokens : List Token :=
      List.replicate 64 .openGroup ++
        [.word "c", .not, .openGroup, .word "a", .closeGroup, .word "b"] ++
          List.replicate 64 .closeGroup
    IsBalanced tokens ∧
      ofTokens tokens = .and [.and [.text "c", .text "a"], .text "b"] ∧
      ofTokens (flatten tokens) = .and [.text "c", .not (.text "a"), .text "b"] ∧
      ofTokens tokens ≠ ofTokens (flatten tokens) := by
  intro tokens
  have balanced : IsBalanced tokens := by
    decide +kernel
  have read : ofTokens tokens = .and [.and [.text "c", .text "a"], .text "b"] := by
    rfl
  have flattened :
      ofTokens (flatten tokens) = .and [.text "c", .not (.text "a"), .text "b"] := by
    rfl
  refine ⟨balanced, read, flattened, ?_⟩
  rw [read, flattened]
  simp

end Expression

end SearchQuery
