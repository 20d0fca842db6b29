import SearchQuery.Proofs.DeepGroups
import SearchQuery.Proofs.ReadingBack
import SearchQuery.Proofs.Token.Seam

/-!
# Queries in parentheses

A query that closes its quotes and its groups can be put in parentheses and used as a part of
another query: it means there what it means on its own. The reason is that reading does not
depend on the groups around the one that is open, as long as none of these is closed and there
is room for more (`Reading.run_within`). So conjunctions, alternatives and negations of queries
are read as those of their meanings, where blank queries are dropped.
-/

namespace SearchQuery

namespace Token

/-- At no place in tokens more groups are closed than opened, or more are open than there is
room for. -/
def FitsIn (room : Nat) (tokens : List Token) : Prop :=
  ∀ front, front <+: tokens → front.count .closeGroup ≤ front.count .openGroup ∧
    front.count .openGroup ≤ front.count .closeGroup + room

theorem FitsIn.of_prefix {room : Nat} {tokens front : List Token} (fits : FitsIn room tokens)
    (isFront : front <+: tokens) : FitsIn room front :=
  fun part isPart => fits part (isPart.trans isFront)

/-- Beyond a token that changes the number of open groups, the bounds hold as well. -/
theorem FitsIn.concat {room : Nat} {front : List Token} {token : Token}
    (fits : FitsIn room (front ++ [token])) :
    (token = .openGroup → front.count .openGroup < front.count .closeGroup + room) ∧
      (token = .closeGroup → front.count .closeGroup < front.count .openGroup) := by
  have whole := fits _ List.prefix_rfl
  constructor
  · rintro rfl
    exact Nat.lt_of_succ_le (by simpa using whole.2)
  · rintro rfl
    exact Nat.lt_of_succ_le (by simpa using whole.1)

/-- A token changes the number of open parentheses by its own. -/
theorem nest_add_count {opened : Nat} {token : Token}
    (closes : token = .closeGroup → 0 < opened) :
    token.nest opened + [token].count .closeGroup = opened + [token].count .openGroup := by
  cases token with
  | closeGroup =>
      have someOpen := closes rfl
      exact Nat.sub_add_cancel someOpen
  | openGroup => rfl
  | word _ | phrase _ | filter _ _ _ | operator _ | and | or | not | minus | endOfQuery => rfl

end Token

open Token

namespace Reading

/-! ## Reading within other groups -/

/-- What has been read, with further groups around it. -/
def within (outer : List OpenGroup) (reading : Reading) : Reading :=
  ⟨reading.current, reading.enclosing ++ outer⟩

theorem step_within {reading : Reading} {outer : List OpenGroup} {token : Token}
    (opens : token = .openGroup → reading.depth + outer.length < maxDepth)
    (closes : token = .closeGroup → 0 < reading.depth) :
    (reading.within outer).step token = (reading.step token).within outer := by
  cases token with
  | openGroup =>
      have room := opens rfl
      have inner : reading.depth < maxDepth := Nat.lt_of_le_of_lt (Nat.le_add_right _ _) room
      have whole : (reading.within outer).depth < maxDepth := by
        rwa [depth, within, List.length_append]
      rw [step, step, openGroup, openGroup, if_pos inner, if_pos whole]
      rfl
  | closeGroup =>
      obtain ⟨current, enclosing⟩ := reading
      cases enclosing with
      | nil => exact absurd (closes rfl) (Nat.lt_irrefl _)
      | cons group others => rfl
  | word _ | phrase _ | filter _ _ _ | operator _ | and | or | not | minus | endOfQuery => rfl

/-- After tokens that fit, as many groups are open as have been opened and not closed. -/
theorem depth_run_of_fitsIn {room : Nat} {tokens : List Token} (fits : FitsIn room tokens)
    (enough : room ≤ maxDepth) :
    (tokens.foldl step start).depth + tokens.count .closeGroup = tokens.count .openGroup := by
  induction tokens using List.reverseRecOn with
  | nil => rfl
  | append_singleton front token ih =>
      have before := ih (fits.of_prefix (List.prefix_append front [token]))
      obtain ⟨opens, closes⟩ := fits.concat
      have bounded : (front.foldl step start).depth ≤ maxDepth :=
        depth_run_le (Nat.zero_le _) front
      rw [foldl_concat, depth_step bounded, List.count_append, List.count_append]
      have someOpen : token = .closeGroup → 0 < (front.foldl step start).depth := by
        intro isClosing
        have further := closes isClosing
        omega
      have next := nest_add_count someOpen
      have whole := (fits _ List.prefix_rfl).2
      rw [List.count_append, List.count_append] at whole
      rw [Nat.min_eq_left (by omega)]
      omega

theorem run_within {room : Nat} {tokens : List Token} (fits : FitsIn room tokens)
    {outer : List OpenGroup} (enough : outer.length + room ≤ maxDepth) :
    tokens.foldl step (start.within outer) = (tokens.foldl step start).within outer := by
  -- From the end, since the bounds on a token are those on the tokens before it.
  induction tokens using List.reverseRecOn with
  | nil => rfl
  | append_singleton front token ih =>
      have frontFits := fits.of_prefix (List.prefix_append front [token])
      have opened := depth_run_of_fitsIn frontFits (by omega)
      obtain ⟨opens, closes⟩ := fits.concat
      rw [List.foldl_append, ih frontFits, foldl_concat]
      apply step_within
      · intro isOpening
        have more := opens isOpening
        omega
      · intro isClosing
        have some := closes isClosing
        omega

/-- A group of tokens that close all groups which they open means what these tokens mean on
their own. -/
theorem run_group {room : Nat} {body : List Token} (fits : FitsIn room body)
    (balanced : body.count .closeGroup = body.count .openGroup) {group : OpenGroup}
    {enclosing : List OpenGroup} (enough : enclosing.length + 1 + room ≤ maxDepth) :
    (.openGroup :: (body ++ [.closeGroup])).foldl step ⟨group, enclosing⟩ =
      ⟨group.take (body.foldl step start).finish, enclosing⟩ := by
  have more : enclosing.length < maxDepth := by omega
  have opened : step ⟨group, enclosing⟩ .openGroup = start.within (group :: enclosing) := by
    rw [step, openGroup, depth, if_pos more]
    rfl
  have closed : (body.foldl step start).enclosing = [] := by
    have count := depth_run_of_fitsIn fits (by omega)
    apply List.eq_nil_of_length_eq_zero
    rw [depth] at count
    omega
  rw [List.foldl_cons, opened, List.foldl_append, run_within fits (by simpa using enough)]
  rw [finish, closed, finishAround, within, closed]
  rfl

/-- A dash before a group is read before the group is. -/
theorem leads_minus {text : List Char} {source target : Reading}
    (leads : Leads ('(' :: text) (source.step .minus) target) :
    Leads ('-' :: '(' :: text) source target := by
  intro rest
  have attached : ¬ NothingAttached ('(' :: (text ++ rest)) := by
    rw [nothingAttached_cons]
    decide
  have read := (takes_minus attached).ofText
  rw [← leads rest, after, after]
  exact congrArg (fun tokens => (tokens.takeWhile (· != .endOfQuery)).foldl step source) read

end Reading

/-! ## Queries in parentheses -/

/-- A query closes all quotes and groups that it opens, and no others, and opens fewer than
`Reading.maxDepth` groups inside each other. -/
structure IsClosedQuery (query : String) : Prop where
  quotes : ClosesQuotes query.toList
  balanced : IsBalanced (ofQuery query)
  shallow : ∀ length ≤ (ofQuery query).length,
    ((ofQuery query).take length).count .openGroup <
      ((ofQuery query).take length).count .closeGroup + Reading.maxDepth

instance (query : String) : Decidable (IsClosedQuery query) :=
  decidable_of_iff (_ ∧ _ ∧ _)
    ⟨fun ⟨quotes, balanced, shallow⟩ => ⟨quotes, balanced, shallow⟩,
      fun closed => ⟨closed.quotes, closed.balanced, closed.shallow⟩⟩

section Closed

variable {query : String} (closed : IsClosedQuery query)
include closed

/-- The tokens of a closed query before the end marker close all groups which they open. -/
theorem IsClosedQuery.exists_body :
    ∃ body, ofQuery query = body ++ [.endOfQuery] ∧ .endOfQuery ∉ body ∧
      body.count .closeGroup = body.count .openGroup ∧ FitsIn (Reading.maxDepth - 1) body := by
  obtain ⟨body, whole, readable⟩ := wellFormed_ofText query.toList
  obtain ⟨_, ⟨balanced, prefixes⟩, shallow⟩ := closed
  rw [ofQuery, whole] at balanced prefixes shallow
  refine ⟨body, whole, fun mem => readable _ mem, by simpa using balanced, ?_⟩
  intro front isFront
  have inWhole : front <+: body ++ [.endOfQuery] := isFront.trans (List.prefix_append _ _)
  have length := inWhole.length_le
  have isTaken := List.prefix_iff_eq_take.mp inWhole
  have opened := prefixes front.length length
  have room := shallow front.length length
  rw [← isTaken] at opened room
  exact ⟨opened, by omega⟩

/-- In parentheses, a closed query becomes an operand of the query around it. -/
theorem IsClosedQuery.leads (group : OpenGroup) :
    Reading.Leads ('(' :: (query.toList ++ [')'])) ⟨group, []⟩
      ⟨group.take (Reading.start.after query.toList).finish, []⟩ := by
  obtain ⟨body, tokens, noEnd, balanced, fits⟩ := closed.exists_body
  rw [ofQuery] at tokens
  intro rest
  have apart : NothingAttached (')' :: rest) := nothingAttached_cons.mpr (.inr rfl)
  have read : ofText ('(' :: (query.toList ++ ')' :: rest)) =
      (.openGroup :: (body ++ [.closeGroup])) ++ ofText rest := by
    rw [ofText_opening, ofText_append closed.quotes apart, tokens, List.dropLast_concat,
      ofText_closing]
    simp
  have further : ∀ token ∈ body, (token != .endOfQuery) = true := by
    intro token mem
    rw [bne_iff_ne]
    rintro rfl
    exact noEnd mem
  have own : Reading.start.after query.toList = body.foldl Reading.step .start := by
    rw [Reading.after, tokens, List.takeWhile_append_of_pos further]
    simp
  have run : (.openGroup :: (body ++ [.closeGroup])).foldl Reading.step ⟨group, []⟩ =
      ⟨group.take (body.foldl Reading.step .start).finish, []⟩ :=
    Reading.run_group fits balanced (by decide)
  have furtherGroup : ∀ token ∈ Token.openGroup :: (body ++ [.closeGroup]),
      (token != .endOfQuery) = true := by
    rw [List.forall_mem_cons, List.forall_mem_append]
    exact ⟨rfl, further, by simp⟩
  have text : ('(' :: (query.toList ++ [')'])) ++ rest = '(' :: (query.toList ++ ')' :: rest) := by
    simp
  rw [text, Reading.after, read, List.takeWhile_append_of_pos furtherGroup, List.foldl_append, run,
    own, Reading.after]

end Closed

namespace Expression

/-! ## Junctions and negations without blank parts -/

/-- Two expressions side by side, where a blank one is dropped. -/
def beside (junction : List Expression → Expression) : Expression → Expression → Expression
  | .empty, right => right
  | left, .empty => left
  | left, right => junction [left, right]

/-- An expression under a negation, unless it is blank. -/
def negated : Expression → Expression
  | .empty => .empty
  | operand => .not operand

/-- What a query means, before a query without meaning is made the empty expression. -/
theorem exists_meaning (query : String) :
    ∃ meaning : Option Expression, (Reading.start.after query.toList).finish = meaning ∧
      ofQuery query = meaning.getD .empty ∧ meaning ≠ some .empty := by
  refine ⟨_, rfl, rfl, ?_⟩
  intro found
  have wellBuilt := ((Reading.isDerived_start.run _).finish found).isWellBuilt
  cases wellBuilt

/-- A query that leads to the end of a group has the meaning of this group. -/
theorem ofQuery_of_leads {query : String} {group : OpenGroup}
    (leads : Reading.Leads query.toList .start ⟨group, []⟩) :
    ofQuery query = group.result.getD .empty := by
  have whole := leads []
  have finished : (Reading.start.after query.toList).finish = group.result := by
    rw [List.append_nil] at whole
    rw [whole, Reading.after, Token.ofText_nil]
    rfl
  exact congrArg (Option.getD · .empty) finished

section Parts

variable {left right : Option Expression}

/-- Expressions are joined as they are put side by side, if the blank ones have been dropped. -/
theorem getD_join (junction : List Expression → Expression) (leftMeans : left ≠ some .empty)
    (rightMeans : right ≠ some .empty) :
    (join junction (left.toList ++ right.toList)).getD .empty =
      beside junction (left.getD .empty) (right.getD .empty) := by
  cases left with
  | none => cases right <;> rfl
  | some left =>
      cases right with
      | none => cases left <;> rfl
      | some right =>
          cases left with
          | empty => contradiction
          | text _ | filter _ _ _ | and _ | or _ | not _ =>
              cases right <;> first | contradiction | rfl

theorem getD_result_of_operands (leftMeans : left ≠ some .empty)
    (rightMeans : right ≠ some .empty) :
    ((OpenGroup.fresh.take left).take right).result.getD .empty =
      beside .and (left.getD .empty) (right.getD .empty) := by
  rw [← getD_join .and leftMeans rightMeans]
  cases left with
  | none => cases right <;> rfl
  | some left =>
      cases right with
      | none => rfl
      | some right =>
          rw [OpenGroup.fresh, OpenGroup.take_unnegated, OpenGroup.take_unnegated]
          rfl

theorem getD_result_of_alternatives (leftMeans : left ≠ some .empty)
    (rightMeans : right ≠ some .empty) :
    ((OpenGroup.fresh.take left).nextAlternative.take right).result.getD .empty =
      beside .or (left.getD .empty) (right.getD .empty) := by
  rw [← getD_join .or leftMeans rightMeans]
  cases left with
  | none => cases right <;> rfl
  | some left =>
      cases right with
      | none => rfl
      | some right =>
          rw [OpenGroup.nextAlternative, OpenGroup.take_unnegated]
          rfl

theorem getD_result_of_negation (means : left ≠ some .empty) :
    (OpenGroup.take ⟨[], [], 1⟩ left).result.getD .empty = negated (left.getD .empty) := by
  cases left with
  | none => rfl
  | some operand =>
      cases operand with
      | empty => contradiction
      | text _ | filter _ _ _ | and _ | or _ | not _ => rfl

end Parts

/-- A query in parentheses is a part of the query around it. Two of them side by side are a
conjunction, with OR between them they are alternatives, and behind NOT or a dash one of them is
negated; the parts mean what they mean on their own. -/
theorem ofQuery_composes {query other : String} (closed : IsClosedQuery query)
    (otherClosed : IsClosedQuery other) :
    ofQuery ("(" ++ query ++ ") (" ++ other ++ ")") =
        beside .and (ofQuery query) (ofQuery other) ∧
      ofQuery ("(" ++ query ++ ") OR (" ++ other ++ ")") =
        beside .or (ofQuery query) (ofQuery other) ∧
      ofQuery ("NOT (" ++ query ++ ")") = negated (ofQuery query) ∧
      ofQuery ("-(" ++ query ++ ")") = negated (ofQuery query) := by
  obtain ⟨left, leftFinish, leftRead, leftMeans⟩ := exists_meaning query
  obtain ⟨right, rightFinish, rightRead, rightMeans⟩ := exists_meaning other
  have leftLeads (group : OpenGroup) := closed.leads group
  have rightLeads (group : OpenGroup) := otherClosed.leads group
  rw [leftFinish] at leftLeads
  rw [rightFinish] at rightLeads
  rw [leftRead, rightRead]
  refine ⟨?_, ?_, ?_, ?_⟩
  · rw [← getD_result_of_operands leftMeans rightMeans]
    apply ofQuery_of_leads
    have whole := ((leftLeads .fresh).append (Reading.leads_space _)).append (rightLeads _)
    simpa [Reading.start] using whole
  · rw [← getD_result_of_alternatives leftMeans rightMeans]
    apply ofQuery_of_leads
    have whole := ((leftLeads .fresh).append (Reading.leads_or _)).append (rightLeads _)
    simpa [Reading.start] using whole
  · rw [← getD_result_of_negation leftMeans]
    apply ofQuery_of_leads
    have whole := (Reading.leads_not .start).append (leftLeads ⟨[], [], 1⟩)
    simpa using whole
  · rw [← getD_result_of_negation leftMeans]
    apply ofQuery_of_leads
    have whole : Reading.Leads ('-' :: '(' :: (query.toList ++ [')'])) .start
        ⟨OpenGroup.take ⟨[], [], 1⟩ left, []⟩ :=
      Reading.leads_minus (leftLeads ⟨[], [], 1⟩)
    simpa using whole

/-- A query with keywords, operators and a field that have nothing to act on, a term in another
group than the rest, beside a quoted parenthesis. -/
theorem ofQuery_composes_of_malformed_parts :
    let query := "NOT OR >= (tag: -a)- AND"
    let other := "(\")\" OR b NOT) created:"
    IsClosedQuery query ∧ IsClosedQuery other ∧
      ofQuery ("(" ++ query ++ ") OR (" ++ other ++ ")") =
        .or [.not (.text "a"), .or [.text ")", .text "b"]] := by
  have closed : IsClosedQuery "NOT OR >= (tag: -a)- AND" := by decide +kernel
  have otherClosed : IsClosedQuery "(\")\" OR b NOT) created:" := by decide +kernel
  refine ⟨closed, otherClosed, ?_⟩
  have tokens : Token.ofQuery "NOT OR >= (tag: -a)- AND" =
      [.not, .or, .operator (.ordering .greaterOrEqual), .openGroup, .filter .tag .equal "",
        .minus, .word "a", .closeGroup, .and, .endOfQuery] := by
    decide +kernel
  have otherTokens : Token.ofQuery "(\")\" OR b NOT) created:" =
      [.openGroup, .phrase ")", .or, .word "b", .not, .closeGroup, .filter .created .equal "",
        .endOfQuery] := by
    decide +kernel
  rw [(ofQuery_composes closed otherClosed).2.1, ofQuery, ofQuery, tokens, otherTokens]
  rfl

end Expression

end SearchQuery
