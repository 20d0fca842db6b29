import SearchQuery.Proofs.EndOfQuery
import SearchQuery.Proofs.Evaluation

/-!
# Alternatives

A query is a list of alternatives with OR between them, whatever else is wrong with it. OR
outside of all groups puts the alternatives on its right behind those on its left, so that
it means union: a document matches if it matches on one side. The tokens on the right may
have any form, for reading them does not depend on the alternatives before them
(`Reading.Behind.run`).
-/

namespace SearchQuery

open Token

namespace OpenGroup

/-- The group with further alternatives before those that have been read. -/
def behind (earlier : List Expression) (group : OpenGroup) : OpenGroup :=
  { group with alternatives := group.alternatives ++ earlier }

section Behind

variable (earlier : List Expression) (group : OpenGroup)

theorem take_behind (operand : Option Expression) :
    (group.behind earlier).take operand = (group.take operand).behind earlier := by
  cases operand <;> rfl

theorem allAlternatives_behind :
    (group.behind earlier).allAlternatives = group.allAlternatives ++ earlier :=
  (List.append_assoc _ _ _).symm

theorem nextAlternative_behind :
    (group.behind earlier).nextAlternative = group.nextAlternative.behind earlier := by
  rw [nextAlternative, allAlternatives_behind]
  rfl

end Behind

end OpenGroup

namespace Reading

/-! ## The alternatives of a query -/

/-- What becomes of the outermost group if all groups end, given the innermost one and those
around it. -/
def closeAll (group : OpenGroup) : List OpenGroup → OpenGroup
  | [] => group
  | outer :: others => closeAll (outer.take group.result) others

/-- The alternatives of the query if it ends here. -/
def alternatives (reading : Reading) : List Expression :=
  (closeAll reading.current reading.enclosing).allAlternatives.reverse

theorem result_closeAll (group : OpenGroup) (enclosing : List OpenGroup) :
    (closeAll group enclosing).result = finishAround group.result enclosing := by
  induction enclosing generalizing group with
  | nil => rfl
  | cons outer others ih => exact ih _

/-- A query means its alternatives, joined by OR. -/
theorem finish_eq_join (reading : Reading) :
    reading.finish = Expression.join .or reading.alternatives :=
  (result_closeAll reading.current reading.enclosing).symm

/-- The second state has read the same as the first, but for alternatives before it. -/
inductive Behind (earlier : List Expression) : Reading → Reading → Prop
  | outside (query : OpenGroup) : Behind earlier ⟨query, []⟩ ⟨query.behind earlier, []⟩
  | inside (current : OpenGroup) (groups : List OpenGroup) (query : OpenGroup) :
      Behind earlier ⟨current, groups ++ [query]⟩ ⟨current, groups ++ [query.behind earlier]⟩

section Runs

variable {earlier : List Expression} {first second : Reading}

theorem Behind.depth (related : Behind earlier first second) : first.depth = second.depth := by
  cases related with
  | outside query => rfl
  | inside current groups query => simp [Reading.depth]

theorem Behind.update (related : Behind earlier first second) {change : OpenGroup → OpenGroup}
    (commutes : ∀ group, change (group.behind earlier) = (change group).behind earlier) :
    Behind earlier (first.update change) (second.update change) := by
  cases related with
  | outside query =>
      change Behind earlier ⟨change query, []⟩ ⟨change (query.behind earlier), []⟩
      rw [commutes]
      exact .outside (change query)
  | inside current groups query => exact .inside _ groups query

theorem Behind.openGroup (related : Behind earlier first second) :
    Behind earlier first.openGroup second.openGroup := by
  by_cases more : first.depth < maxDepth
  · rw [Reading.openGroup, if_pos more, Reading.openGroup, if_pos (related.depth ▸ more)]
    cases related with
    | outside query => exact .inside .fresh [] query
    | inside current groups query => exact .inside .fresh (current :: groups) query
  · rw [Reading.openGroup, if_neg more, Reading.openGroup, if_neg (related.depth ▸ more)]
    exact related.update fun _ => rfl

theorem Behind.closeGroup (related : Behind earlier first second) :
    Behind earlier first.closeGroup second.closeGroup := by
  cases related with
  | outside query => exact .outside query.settle
  | inside current groups query =>
      cases groups with
      | nil =>
          change Behind earlier ⟨query.take current.result, []⟩
            ⟨(query.behind earlier).take current.result, []⟩
          rw [OpenGroup.take_behind]
          exact .outside (query.take current.result)
      | cons outer others => exact .inside _ others query

theorem Behind.take (related : Behind earlier first second) (operand : Option Expression) :
    Behind earlier (first.update (·.take operand)) (second.update (·.take operand)) := by
  apply related.update
  intro group
  exact OpenGroup.take_behind earlier group operand

theorem Behind.negate (related : Behind earlier first second) :
    Behind earlier (first.update .negate) (second.update .negate) := by
  apply related.update
  intro group
  rfl

theorem Behind.step (related : Behind earlier first second) (token : Token) :
    Behind earlier (first.step token) (second.step token) := by
  cases token with
  | word value => exact related.take (leaf? .text value)
  | phrase value => exact related.take (leaf? .text value)
  | filter field operator value => exact related.take (leaf? (.filter field operator) value)
  | operator _ => exact related.take none
  | and => exact related.take none
  | or => exact related.update (OpenGroup.nextAlternative_behind earlier)
  | not => exact related.negate
  | minus => exact related.negate
  | openGroup => exact related.openGroup
  | closeGroup => exact related.closeGroup
  | endOfQuery => exact related

/-- No token looks at the alternatives that have been read before. -/
theorem Behind.run (related : Behind earlier first second) (tokens : List Token) :
    Behind earlier (tokens.foldl Reading.step first) (tokens.foldl Reading.step second) := by
  induction tokens generalizing first second with
  | nil => exact related
  | cons token tokens ih => exact ih (related.step token)

theorem closeAll_behind (current query : OpenGroup) (groups : List OpenGroup) :
    closeAll current (groups ++ [query.behind earlier]) =
      (closeAll current (groups ++ [query])).behind earlier := by
  induction groups generalizing current with
  | nil => exact OpenGroup.take_behind earlier query current.result
  | cons outer others ih => exact ih _

theorem Behind.alternatives (related : Behind earlier first second) :
    second.alternatives = earlier.reverse ++ first.alternatives := by
  have closed : closeAll second.current second.enclosing =
      (closeAll first.current first.enclosing).behind earlier := by
    cases related with
    | outside query => rfl
    | inside current groups query => exact closeAll_behind current query groups
  rw [Reading.alternatives, closed, OpenGroup.allAlternatives_behind, List.reverse_append]
  rfl

end Runs

end Reading

namespace Expression

/-- The alternatives that tokens stand for. -/
def alternativesOf (tokens : List Token) : List Expression :=
  ((tokens.takeWhile (· != .endOfQuery)).foldl Reading.step .start).alternatives

theorem ofTokens_eq_join (tokens : List Token) :
    ofTokens tokens = (join .or (alternativesOf tokens)).getD .empty := by
  rw [ofTokens, Reading.finish_eq_join, alternativesOf]

theorem join_eq_none_iff (alternatives : List Expression) :
    join .or alternatives = none ↔ alternatives = [] := by
  rw [← Option.not_isSome_iff_eq_none, isSome_join, decide_eq_true_eq, Nat.pos_iff_ne_zero,
    not_not, List.length_eq_zero_iff]

/-- A query is blank if and only if it has no alternatives. -/
theorem ofTokens_eq_empty_iff_alternativesOf (tokens : List Token) :
    ofTokens tokens = .empty ↔ alternativesOf tokens = [] := by
  rw [ofTokens_eq_empty_iff, Token.leaves, ← isBare_iff, ← Reading.finish_eq_none_iff,
    Reading.finish_eq_join, join_eq_none_iff, alternativesOf]

section Union

variable {front rest : List Token}

theorem alternativesOf_of_notMem (further : .endOfQuery ∉ front) :
    alternativesOf front = (front.foldl Reading.step .start).alternatives := by
  rw [alternativesOf, takeWhile_of_notMem further]

/-- OR outside of all groups puts the alternatives on its right behind those on its left. -/
theorem alternativesOf_or (further : .endOfQuery ∉ front) (closed : groupsAfter front = 0) :
    alternativesOf (front ++ [.or] ++ rest) = alternativesOf front ++ alternativesOf rest := by
  have outside : (front.foldl Reading.step .start).enclosing = [] := by
    rw [← List.length_eq_zero_iff, ← closed, ← Reading.depth_run_start, Reading.depth]
  have read : (front ++ [Token.or] ++ rest).takeWhile (· != .endOfQuery) =
      front ++ Token.or :: rest.takeWhile (· != .endOfQuery) := by
    rw [List.append_assoc, takeWhile_append_of_notMem further]
    rfl
  rw [alternativesOf_of_notMem further, alternativesOf, read, List.foldl_append, List.foldl_cons]
  generalize front.foldl Reading.step .start = before at outside
  rcases before with ⟨query, enclosing⟩
  cases outside
  -- Behind OR, reading goes on as at the beginning, but for the alternatives before.
  have related : Reading.Behind query.allAlternatives .start (Reading.step ⟨query, []⟩ .or) :=
    .outside .fresh
  exact (related.run (rest.takeWhile (· != .endOfQuery))).alternatives

end Union

/-- A document matches alternatives if it matches one of them. -/
theorem matchesDocument_join {alternatives : List Expression} (some : alternatives ≠ [])
    (document : Document) :
    ((join .or alternatives).getD .empty).matchesDocument document =
      alternatives.any (·.matchesDocument document) := by
  match alternatives with
  | [] => contradiction
  | [alternative] => exact (Bool.or_false _).symm
  | first :: second :: others => exact matchesDocument_or _ document

/-- Alternatives are invalid if one of them is. -/
theorem isDegraded_join (alternatives : List Expression) :
    ((join .or alternatives).getD .empty).isDegraded = alternatives.any (·.isDegraded) := by
  match alternatives with
  | [] => exact isDegraded_empty
  | [alternative] => exact (Bool.or_false _).symm
  | first :: second :: others => exact isDegraded_or _

/-- OR outside of all groups means union. If there is nothing on one side, the query means what
the other side means. Otherwise it matches the documents that match one side, and it is invalid
if one side is. -/
theorem ofTokens_or_is_union {front : List Token} (further : .endOfQuery ∉ front)
    (closed : groupsAfter front = 0) (rest : List Token) :
    (ofTokens front = .empty → ofTokens (front ++ [.or] ++ rest) = ofTokens rest) ∧
      (ofTokens rest = .empty → ofTokens (front ++ [.or] ++ rest) = ofTokens front) ∧
      (ofTokens front ≠ .empty → ofTokens rest ≠ .empty →
        (∀ document : Document, (ofTokens (front ++ [.or] ++ rest)).matchesDocument document =
          ((ofTokens front).matchesDocument document ||
            (ofTokens rest).matchesDocument document)) ∧
          (ofTokens (front ++ [.or] ++ rest)).isDegraded =
            ((ofTokens front).isDegraded || (ofTokens rest).isDegraded)) := by
  have alternatives := @alternativesOf_or front rest further closed
  refine ⟨?_, ?_, ?_⟩
  · intro blank
    rw [ofTokens_eq_empty_iff_alternativesOf] at blank
    rw [ofTokens_eq_join, alternatives, blank, List.nil_append, ← ofTokens_eq_join]
  · intro blank
    rw [ofTokens_eq_empty_iff_alternativesOf] at blank
    rw [ofTokens_eq_join, alternatives, blank, List.append_nil, ← ofTokens_eq_join]
  · intro some restSome
    rw [Ne, ofTokens_eq_empty_iff_alternativesOf] at some restSome
    constructor
    · intro document
      rw [ofTokens_eq_join, alternatives,
        matchesDocument_join (List.append_ne_nil_of_left_ne_nil some _), List.any_append,
        ofTokens_eq_join front, matchesDocument_join some, ofTokens_eq_join rest,
        matchesDocument_join restSome]
    · rw [ofTokens_eq_join, alternatives, isDegraded_join, List.any_append,
        ofTokens_eq_join front, isDegraded_join, ofTokens_eq_join rest, isDegraded_join]

/-- The alternatives of `flour OR sugar)` stand side by side with those of `AND (NOT salt OR`,
which has an open group and no term behind OR. -/
theorem ofTokens_or_is_union_of_malformed_queries :
    let front : List Token := [.word "flour", .or, .word "sugar", .closeGroup]
    let rest : List Token := [.and, .openGroup, .not, .word "salt", .or]
    .endOfQuery ∉ front ∧ groupsAfter front = 0 ∧
      ofTokens front ≠ .empty ∧ ofTokens rest ≠ .empty ∧
      ofTokens (front ++ [.or] ++ rest) =
        .or [.text "flour", .text "sugar", .not (.text "salt")] ∧
      ∀ document : Document, (ofTokens (front ++ [.or] ++ rest)).matchesDocument document =
        ((ofTokens front).matchesDocument document ||
          (ofTokens rest).matchesDocument document) := by
  intro front rest
  have further : .endOfQuery ∉ front := by decide
  have closed : groupsAfter front = 0 := rfl
  have some : ofTokens front ≠ .empty := by
    rw [Ne, ofTokens_eq_empty_iff]
    decide
  have restSome : ofTokens rest ≠ .empty := by
    rw [Ne, ofTokens_eq_empty_iff]
    decide
  rcases ofTokens_or_is_union further closed rest with ⟨-, -, union⟩
  exact ⟨further, closed, some, restSome, rfl, (union some restSome).1⟩

end Expression

end SearchQuery
