import SearchQuery.Proofs.WaitingNegations
import Mathlib.Data.List.DropRight

/-!
# Negations before ignored tokens

Operators that belong to no filter and parentheses that close nothing carry no meaning, and
reading passes over them. It takes them, however, as the end of what a negation can stand
for. The negations right before such a token are dropped with it, and a term behind the
token is asked for where it should be excluded.

Reading is the same as without the ignored token if and only if the negations before it
cancel, or no term stands in the operand behind it (`ofTokens_of_ignored_token`).
-/

namespace SearchQuery

namespace Token

/-- Whether reading passes over a token, if some groups are open before it: over operators that
belong to no filter and parentheses that close nothing. -/
def isIgnored (opened : Nat) : Token → Bool
  | .operator _ => true
  | .closeGroup => opened == 0
  | _ => false

end Token

open Token

namespace Reading

/-- An ignored token settles the negations before it. -/
theorem step_of_isIgnored {reading : Reading} {token : Token}
    (isIgnored : token.isIgnored reading.depth = true) :
    reading.step token = reading.update .settle := by
  cases token with
  | operator _ => rfl
  | closeGroup =>
      have closed : reading.enclosing = [] :=
        List.eq_nil_of_length_eq_zero (beq_iff_eq.mp isIgnored)
      rw [step, closeGroup, closed]
  | _ => contradiction

/-- Before the negations at the end of tokens, nothing waits to be negated. -/
theorem run_rdropWhile_negates {tokens : List Token} (noEnd : .endOfQuery ∉ tokens) :
    (tokens.rdropWhile Token.negates).foldl step start =
      (tokens.foldl step start).update .settle := by
  induction tokens using List.reverseRecOn with
  | nil => rfl
  | append_singleton front token ih =>
      rw [List.mem_append, List.mem_singleton, not_or] at noEnd
      rw [foldl_concat]
      by_cases negates : token.negates = true
      · rw [List.rdropWhile_concat_pos _ _ _ negates, ih noEnd.1, step_of_negates negates]
        rfl
      · rw [List.rdropWhile_concat_neg _ _ _ negates, foldl_concat]
        have settled : ((front.foldl step start).step token).current.negations = 0 := by
          rw [negations_step (Ne.symm noEnd.2), if_neg negates]
        exact (step_and_of_settled settled).symm

end Reading

namespace Expression

open Reading

theorem ofTokens_of_notMem {tokens : List Token} (noEnd : .endOfQuery ∉ tokens) :
    ofTokens tokens = (tokens.foldl step start).finish.getD .empty := by
  have whole : tokens.takeWhile (· != .endOfQuery) = tokens := by
    rw [List.takeWhile_eq_self_iff]
    intro token mem
    rw [bne_iff_ne]
    rintro rfl
    exact noEnd mem
  rw [ofTokens, whole]

/-- Tokens mean the same if and only if reading them ends in the same way. -/
theorem ofTokens_eq_iff {first second : List Token} (firstRead : .endOfQuery ∉ first)
    (secondRead : .endOfQuery ∉ second) :
    ofTokens first = ofTokens second ↔
      (first.foldl step start).finish = (second.foldl step start).finish := by
  have notEmpty {tokens : List Token} {expression : Expression}
      (finished : (tokens.foldl step start).finish = some expression) : expression ≠ .empty := by
    rintro rfl
    exact leaves_ne_nil_of_finish finished leaves_empty
  rw [ofTokens_of_notMem firstRead, ofTokens_of_notMem secondRead]
  cases firstFinished : (first.foldl step start).finish with
  | none =>
      cases secondFinished : (second.foldl step start).finish with
      | none => exact iff_of_true rfl rfl
      | some other =>
          apply iff_of_false
          · exact (notEmpty secondFinished).symm
          · exact (Option.some_ne_none other).symm
  | some expression =>
      cases secondFinished : (second.foldl step start).finish with
      | none =>
          apply iff_of_false
          · exact notEmpty firstFinished
          · exact Option.some_ne_none expression
      | some other => exact Option.some_inj.symm

section IgnoredToken

variable {front rest : List Token} {negation ignored : Token}

/-- After an ignored token, nothing waits to be negated. -/
theorem run_ignored (negates : negation.negates = true)
    (isIgnored : ignored.isIgnored (groupsAfter front) = true) :
    (front ++ [negation, ignored]).foldl step start = (front.foldl step start).update .settle := by
  have depth : ((front.foldl step start).step negation).depth = groupsAfter front := by
    rw [step_of_negates negates, ← depth_run_start]
    rfl
  rw [List.foldl_append, List.foldl_cons, List.foldl_cons, List.foldl_nil,
    step_of_isIgnored (depth ▸ isIgnored), step_of_negates negates]
  rfl

/-- Reading drops the negations right before an ignored token together with the token. It is the
same as without the ignored token if and only if these negations cancel or no term stands in the
operand behind the token. -/
theorem ofTokens_of_ignored_token (frontRead : .endOfQuery ∉ front)
    (restRead : .endOfQuery ∉ rest) (negates : negation.negates = true)
    (isIgnored : ignored.isIgnored (groupsAfter front) = true) :
    ofTokens (front ++ [negation, ignored] ++ rest) =
        ofTokens (front.rdropWhile Token.negates ++ rest) ∧
      (ofTokens (front ++ [negation, ignored] ++ rest) = ofTokens (front ++ [negation] ++ rest) ↔
        Cancels (negationsAtEnd (front ++ [negation])) (negationsAtStart rest) ∨
          IsBare (operand (groupsAfter front) rest)) := by
  have negationRead : .endOfQuery ∉ [negation] := by
    rw [List.mem_singleton]
    rintro rfl
    contradiction
  have ignoredRead : .endOfQuery ∉ [negation, ignored] := by
    rw [List.mem_cons, List.mem_singleton, not_or]
    constructor
    · rintro rfl
      contradiction
    · rintro rfl
      contradiction
  have droppedRead : .endOfQuery ∉ front.rdropWhile Token.negates :=
    fun mem => frontRead ((List.rdropWhile_prefix _ _).subset mem)
  have read {tokens : List Token} (tokensRead : .endOfQuery ∉ tokens) :
      .endOfQuery ∉ tokens ++ rest := List.not_mem_append tokensRead restRead
  have withIgnored := read (List.not_mem_append frontRead ignoredRead)
  have withNegation := List.not_mem_append frontRead negationRead
  have run (tokens : List Token) :
      (tokens ++ rest).foldl step start = rest.foldl step (tokens.foldl step start) :=
    List.foldl_append
  rw [ofTokens_eq_iff withIgnored (read droppedRead),
    ofTokens_eq_iff withIgnored (read withNegation), run, run, run, run_ignored negates isIgnored,
    run_rdropWhile_negates frontRead]
  refine ⟨rfl, ?_⟩
  have counted := negations_run withNegation
  rw [foldl_concat, step_of_negates negates] at counted ⊢
  rw [← withNegations_eq_self counted, ← depth_run_start]
  exact finish_run_dropped_eq_iff restRead _

/-- In `flour (NOT) --= (sugar)` the parenthesis closes a group, so it is not ignored; the
operator is, and the dashes before it cancel. -/
theorem ofTokens_of_ignored_operator_behind_group :
    let front : List Token := [.word "flour", .openGroup, .not, .closeGroup, .minus]
    let rest : List Token := [.openGroup, .word "sugar", .closeGroup]
    (.endOfQuery ∉ front ∧ .endOfQuery ∉ rest ∧ Token.minus.negates = true ∧
        Token.isIgnored (groupsAfter front) (.operator .equal) = true) ∧
      ofTokens (front ++ [.minus, .operator .equal] ++ rest) =
        ofTokens (front.rdropWhile Token.negates ++ rest) ∧
      ofTokens (front ++ [.minus, .operator .equal] ++ rest) =
        ofTokens (front ++ [.minus] ++ rest) := by
  intro front rest
  have frontRead : .endOfQuery ∉ front := by decide
  have restRead : .endOfQuery ∉ rest := by decide
  have negates : Token.minus.negates = true := rfl
  have isIgnored : Token.isIgnored (groupsAfter front) (.operator .equal) = true := rfl
  obtain ⟨dropped, same⟩ := ofTokens_of_ignored_token frontRead restRead negates isIgnored
  have cancel : Cancels (negationsAtEnd (front ++ [.minus])) (negationsAtStart rest) :=
    (cancels_iff_of_lt (by decide)).mpr (by decide)
  exact ⟨⟨frontRead, restRead, negates, isIgnored⟩, dropped, same.mpr (.inl cancel)⟩

/-- In `NOT =a` and `-)a`, the term is asked for that `NOT a` and `-a` exclude. -/
theorem ofTokens_requires_term_behind_ignored_token :
    (ofTokens [.not, .operator .equal, .word "a"] = .text "a" ∧
        ofTokens [.not, .word "a"] = .not (.text "a")) ∧
      ofTokens [.minus, .closeGroup, .word "a"] = .text "a" ∧
        ofTokens [.minus, .word "a"] = .not (.text "a") := by
  constructor
  · constructor <;> rfl
  · constructor <;> rfl

end IgnoredToken

end Expression

end SearchQuery
