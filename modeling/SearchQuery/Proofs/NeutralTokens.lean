import SearchQuery.Proofs.EndOfQuery

/-!
# Tokens that change nothing

AND is understood between neighbours, and reading passes over operators that belong to no
filter and over parentheses that close nothing. Two negations in a row cancel, unless so many
stand around them that their count wraps. Tokens like these can stand anywhere in a query, in
any group, behind OR or behind a parenthesis, and the query means what it means without them.

There is one thing they do: the negations right before a neutral token are dropped, and the
negations that are counted before an operand may turn it around. So the exact conditions under
which the meaning stays depend on the number of these negations, and on whether a term stands
in the operand behind them.
-/

namespace SearchQuery

open Token

namespace Token

/-- Whether a token says nothing that is not understood without it, if some groups are open
before it. -/
def isNeutral (opened : Nat) : Token → Bool
  | .and => true
  | token => token.isIgnored opened

end Token

namespace Reading

section States

variable {reading : Reading} {token : Token} {front run : List Token}

/-- A neutral token drops the negations that wait. -/
theorem step_of_isNeutral (neutral : token.isNeutral reading.depth = true) :
    reading.step token = reading.withNegations 0 := by
  by_cases isAnd : token = .and
  · subst isAnd
    rfl
  · apply step_of_isIgnored
    cases token with
    | and => contradiction
    | _ => exact neutral

/-- A run of negations is counted, which changes nothing else. -/
theorem run_negations (negations : ∀ negation ∈ run, negation.negates = true) :
    run.foldl step reading = reading.update (·.negateBy run.length) := by
  induction run generalizing reading with
  | nil => exact congrArg (Reading.mk · reading.enclosing) reading.current.negateBy_zero.symm
  | cons negation run ih =>
      rw [List.forall_mem_cons] at negations
      rw [List.foldl_cons, step_of_negates negations.1, ih negations.2, List.length_cons]
      exact congrArg (Reading.mk · reading.enclosing) (reading.current.negate_negateBy run.length)

/-- Negations are counted together with those before them. -/
theorem run_negations_behind (further : .endOfQuery ∉ front)
    (negations : ∀ negation ∈ run, negation.negates = true) :
    run.foldl step (front.foldl step start) =
      (front.foldl step start).withNegations (negationsAtEnd front + run.length) := by
  rw [run_negations negations, withNegations, Int32.ofNat_add, ← negations_run further]
  rfl

end States

end Reading

namespace Expression

open Reading

section Places

variable {front middle other rest : List Token} {token : Token} {first second : Nat}

/-- Two ways to go on at one place, which differ only in the number of negations that they leave
waiting, mean the same if and only if they are not read, or turn the operand behind them around
alike, or no term stands in that operand. -/
theorem ofTokens_eq_iff_of_withNegations (further : .endOfQuery ∉ middle)
    (otherFurther : .endOfQuery ∉ other)
    (run : .endOfQuery ∉ front → middle.foldl step (front.foldl step start) =
      (front.foldl step start).withNegations first)
    (otherRun : .endOfQuery ∉ front → other.foldl step (front.foldl step start) =
      (front.foldl step start).withNegations second) :
    ofTokens (front ++ middle ++ rest) = ofTokens (front ++ other ++ rest) ↔
      .endOfQuery ∈ front ∨
        (TurnsAround (first + negationsAtStart rest) ↔
          TurnsAround (second + negationsAtStart rest)) ∨
        IsBare (operand (groupsAfter front) (rest.takeWhile (· != .endOfQuery))) := by
  by_cases ended : .endOfQuery ∈ front
  · rw [List.append_assoc, List.append_assoc, ofTokens_append_of_mem ended,
      ofTokens_append_of_mem ended]
    exact iff_of_true rfl (.inl ended)
  · rw [or_iff_right ended]
    have restFurther := endOfQuery_notMem_takeWhile rest
    have whole (tokens : List Token) (tokensFurther : .endOfQuery ∉ tokens) :
        ofTokens (front ++ tokens ++ rest) =
          ofTokens (front ++ tokens ++ rest.takeWhile (· != .endOfQuery)) := by
      have readFurther : .endOfQuery ∉ front ++ tokens := List.not_mem_append ended tokensFurther
      rw [ofTokens_append_of_notMem readFurther, ← List.foldl_append, ofTokens_of_notMem]
      exact List.not_mem_append readFurther restFurther
    rw [whole middle further, whole other otherFurther,
      ofTokens_eq_iff (List.not_mem_append (List.not_mem_append ended further) restFurther)
        (List.not_mem_append (List.not_mem_append ended otherFurther) restFurther),
      ← depth_run_start, ← negationsAtStart_takeWhile]
    simp only [List.foldl_append, run ended, otherRun ended]
    exact finish_run_withNegations_eq_iff restFurther first second

/-- Without negations at the end of tokens, none waits. -/
theorem negationsAtEnd_eq_zero (positive : ∀ last ∈ front.getLast?, last.negates = false) :
    negationsAtEnd front = 0 := by
  cases front using List.reverseRecOn with
  | nil => rfl
  | append_singleton front last =>
      have lastPositive : last.negates = false := positive last (by simp)
      rw [negationsAtEnd_concat, lastPositive]
      rfl

/-- Neutral tokens can be left out if and only if they are not read, or the negations before them
cancel, or no term stands in the operand behind them. -/
theorem ofTokens_eq_iff_of_isNeutral (neutral : token.isNeutral (groupsAfter front) = true) :
    ofTokens (front ++ [token] ++ rest) = ofTokens (front ++ rest) ↔
      .endOfQuery ∈ front ∨ Cancels (negationsAtEnd front) (negationsAtStart rest) ∨
        IsBare (operand (groupsAfter front) (rest.takeWhile (· != .endOfQuery))) := by
  have further : .endOfQuery ∉ [token] := by
    rintro (_ | ⟨_, ⟨⟩⟩)
    contradiction
  have drops : [token].foldl step (front.foldl step start) =
      (front.foldl step start).withNegations 0 := by
    apply step_of_isNeutral
    rwa [depth_run_start]
  have keeps (frontFurther : .endOfQuery ∉ front) :
      ([] : List Token).foldl step (front.foldl step start) =
        (front.foldl step start).withNegations (negationsAtEnd front) :=
    (withNegations_eq_self (negations_run frontFurther)).symm
  have differ := @ofTokens_eq_iff_of_withNegations front [] [token] rest _ _ List.not_mem_nil
    further keeps fun _ => drops
  rw [List.append_nil, Nat.zero_add] at differ
  rw [eq_comm, differ, Cancels]

/-- AND, operators that belong to no filter and parentheses that close nothing can be left out
wherever they do not stand right behind a negation. Behind negations there is an exact condition:
the negations cancel, before those that follow the token, or no term stands in the operand behind
it, or it is not read. -/
theorem ofTokens_of_neutral_token (neutral : token.isNeutral (groupsAfter front) = true) :
    ((∀ last ∈ front.getLast?, last.negates = false) →
        ofTokens (front ++ [token] ++ rest) = ofTokens (front ++ rest)) ∧
      (ofTokens (front ++ [token] ++ rest) = ofTokens (front ++ rest) ↔
        .endOfQuery ∈ front ∨ Cancels (negationsAtEnd front) (negationsAtStart rest) ∨
          IsBare (operand (groupsAfter front) (rest.takeWhile (· != .endOfQuery)))) := by
  constructor
  · intro positive
    rw [ofTokens_eq_iff_of_isNeutral neutral, negationsAtEnd_eq_zero positive]
    exact .inr (.inl (cancels_zero _))
  · exact ofTokens_eq_iff_of_isNeutral neutral

/-- In `(NOT flour) OR ) -salt)` the parenthesis behind OR closes nothing, and no negation stands
right before it. In `flour -AND salt` one does, and AND makes a difference. -/
theorem ofTokens_of_neutral_token_behind_or :
    let front : List Token := [.openGroup, .not, .word "flour", .closeGroup, .or]
    let rest : List Token := [.minus, .word "salt", .closeGroup]
    let negated : List Token := [.word "flour", .minus]
    isNeutral (groupsAfter front) .closeGroup = true ∧
      (∀ last ∈ front.getLast?, last.negates = false) ∧
      ofTokens (front ++ [.closeGroup] ++ rest) = ofTokens (front ++ rest) ∧
      isNeutral (groupsAfter negated) .and = true ∧
      ofTokens (negated ++ [.and] ++ [.word "salt"]) ≠ ofTokens (negated ++ [.word "salt"]) := by
  intro front rest negated
  have neutral : isNeutral (groupsAfter front) .closeGroup = true := rfl
  have positive : ∀ last ∈ front.getLast?, last.negates = false := by decide
  have andNeutral : isNeutral (groupsAfter negated) .and = true := rfl
  refine ⟨neutral, positive, (ofTokens_of_neutral_token neutral).1 positive, andNeutral, ?_⟩
  rw [Ne, (ofTokens_of_neutral_token andNeutral).2]
  decide

theorem endOfQuery_notMem_of_negates (negations : ∀ negation ∈ middle, negation.negates = true) :
    .endOfQuery ∉ middle := by
  intro mem
  exact absurd (negations _ mem) Bool.false_ne_true

/-- A run of negations can stand for another one if and only if they are not read, or the operand
behind them is turned around alike, or no term stands in it. -/
theorem ofTokens_eq_iff_of_negations (negations : ∀ negation ∈ middle, negation.negates = true)
    (otherNegations : ∀ negation ∈ other, negation.negates = true) :
    ofTokens (front ++ middle ++ rest) = ofTokens (front ++ other ++ rest) ↔
      .endOfQuery ∈ front ∨
        (TurnsAround (negationsAtEnd front + middle.length + negationsAtStart rest) ↔
          TurnsAround (negationsAtEnd front + other.length + negationsAtStart rest)) ∨
        IsBare (operand (groupsAfter front) (rest.takeWhile (· != .endOfQuery))) :=
  ofTokens_eq_iff_of_withNegations (endOfQuery_notMem_of_negates negations)
    (endOfQuery_notMem_of_negates otherNegations)
    (fun further => run_negations_behind further negations)
    fun further => run_negations_behind further otherNegations

/-- Two negations in a row can be left out wherever they stand, unless the run in which they stand
is so long that the count wraps. One run of negations can stand for another if and only if they
turn the operand behind them around alike, with the negations beside them, or no term stands in
that operand, or they are not read. Where the count does not wrap, they turn it around alike if
and only if their lengths have the same parity. -/
theorem ofTokens_of_negations (front rest : List Token) :
    (∀ first second : Token, first.negates = true → second.negates = true →
      negationsAtEnd front + 2 + negationsAtStart rest < 2 ^ 31 →
        ofTokens (front ++ [first, second] ++ rest) = ofTokens (front ++ rest)) ∧
      ∀ run other : List Token, (∀ negation ∈ run, negation.negates = true) →
        (∀ negation ∈ other, negation.negates = true) →
          let whole := negationsAtEnd front + run.length + negationsAtStart rest
          let otherWhole := negationsAtEnd front + other.length + negationsAtStart rest
          (ofTokens (front ++ run ++ rest) = ofTokens (front ++ other ++ rest) ↔
            .endOfQuery ∈ front ∨ (TurnsAround whole ↔ TurnsAround otherWhole) ∨
              IsBare (operand (groupsAfter front) (rest.takeWhile (· != .endOfQuery)))) ∧
            (whole < 2 ^ 31 → otherWhole < 2 ^ 31 →
              ((TurnsAround whole ↔ TurnsAround otherWhole) ↔
                run.length % 2 = other.length % 2)) := by
  constructor
  · intro first second negates secondNegates short
    have negations : ∀ negation ∈ [first, second], negation.negates = true := by
      simp [negates, secondNegates]
    have noNegations : ∀ negation ∈ [], Token.negates negation = true := by simp
    have pair := @ofTokens_eq_iff_of_negations front _ _ rest negations noNegations
    rw [List.append_nil] at pair
    refine pair.mpr (.inr (.inl ?_))
    rw [List.length_cons, List.length_singleton, List.length_nil, Nat.add_zero,
      turnsAround_iff_iff_of_lt short (by omega)]
    omega
  · intro run other negations otherNegations whole otherWhole
    refine ⟨ofTokens_eq_iff_of_negations negations otherNegations, ?_⟩
    intro short otherShort
    rw [turnsAround_iff_iff_of_lt short otherShort]
    omega

/-- A pair can be left out in the middle of `(-NOT- flour`, but all three negations cannot. At the
end of `(flour`, they stand for nothing. -/
theorem ofTokens_of_negations_behind_parenthesis :
    let run : List Token := [.minus, .not, .minus]
    ofTokens ([.openGroup, .minus] ++ [.not, .minus] ++ [.word "flour"]) =
        ofTokens ([.openGroup, .minus] ++ [.word "flour"]) ∧
      (∀ negation ∈ run, negation.negates = true) ∧
      ofTokens ([.openGroup] ++ run ++ [.word "flour"]) ≠
        ofTokens ([.openGroup] ++ [] ++ [.word "flour"]) ∧
      ofTokens ([.openGroup, .word "flour"] ++ run ++ []) =
        ofTokens ([.openGroup, .word "flour"] ++ [] ++ []) := by
  intro run
  have negations : ∀ negation ∈ run, negation.negates = true := by decide
  have noNegations : ∀ negation ∈ [], Token.negates negation = true := by decide
  have short : negationsAtEnd [.openGroup, .minus] + 2 + negationsAtStart [.word "flour"] <
      2 ^ 31 := by
    decide
  refine ⟨?_, negations, ?_, ?_⟩
  · exact (ofTokens_of_negations [.openGroup, .minus] [.word "flour"]).1 .not .minus rfl rfl short
  · rw [Ne, ((ofTokens_of_negations [.openGroup] [.word "flour"]).2 run [] negations noNegations).1]
    decide
  · rw [((ofTokens_of_negations [.openGroup, .word "flour"] []).2 run [] negations noNegations).1]
    decide

theorem forall_mem_dashes (count : Nat) :
    ∀ dash ∈ List.replicate count Token.minus, dash.negates = true := by
  intro dash mem
  rw [List.eq_of_mem_replicate mem]
  rfl

/-- A term behind dashes. -/
theorem ofTokens_dashes (count : Nat) {value : String} (notBlank : Text.isBlank value = false) :
    ofTokens (List.replicate count .minus ++ [.word value]) =
      if TurnsAround count then .not (.text value) else .text value := by
  have dashes := forall_mem_dashes count
  have further : Token.endOfQuery ∉ List.replicate count .minus ++ [.word value] :=
    List.not_mem_append (endOfQuery_notMem_of_negates dashes) (by simp)
  have term : leaf? .text value = some (.text value) := if_neg (by simp [notBlank])
  rw [ofTokens_of_notMem further, List.foldl_append, run_negations dashes, List.length_replicate,
    ← foldNegations_ofNat, ← Int32.zero_add (Int32.ofNat count)]
  simp only [List.foldl_cons, List.foldl_nil, step, term]
  rfl

/-- Before `2 ^ 31 - 1` dashes two more make a difference: the term that the shorter query excludes
is asked for by the longer one. -/
theorem ofTokens_ne_of_overlong_run :
    let rest : List Token := List.replicate (2 ^ 31 - 1) .minus ++ [.word "a"]
    ofTokens ([.minus, .minus] ++ rest) = .text "a" ∧ ofTokens rest = .not (.text "a") ∧
      ofTokens ([.minus, .minus] ++ rest) ≠ ofTokens rest := by
  intro rest
  have notBlank : Text.isBlank "a" = false := by decide +kernel
  have joined (count : Nat) :
      [.minus, .minus] ++ (List.replicate count .minus ++ [.word "a"]) =
        List.replicate (count + 2) Token.minus ++ [.word "a"] :=
    rfl
  have longer : ofTokens ([.minus, .minus] ++ rest) = .text "a" := by
    rw [joined, ofTokens_dashes _ notBlank]
    exact if_neg (by decide)
  have shorter : ofTokens rest = .not (.text "a") := by
    rw [ofTokens_dashes _ notBlank]
    exact if_pos (by decide)
  refine ⟨longer, shorter, ?_⟩
  rw [longer, shorter]
  exact ne_not (.text "a")

end Places

end Expression

end SearchQuery
