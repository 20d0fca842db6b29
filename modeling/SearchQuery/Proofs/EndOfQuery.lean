import SearchQuery.Proofs.Descent
import SearchQuery.Proofs.IgnoredTokens

/-!
# The end of a query

The end of a query closes every group that is still open. So closing parentheses make no
difference before the end, be there more or fewer of them than open groups, and a query means
the same whether an end marker stands behind its tokens or not. What stands behind the first
end marker is never read, and the cursor of the recursive descent stays on that marker.
-/

namespace SearchQuery

open Token

namespace Reading

/-- A group that is closed right before the end is closed by the end as well. -/
theorem finish_closeGroup (reading : Reading) :
    (reading.step .closeGroup).finish = reading.finish := by
  rcases reading with ⟨current, enclosing⟩
  cases enclosing with
  | nil => rfl
  | cons outer others => rfl

theorem finish_closings (reading : Reading) (count : Nat) :
    ((List.replicate count .closeGroup).foldl step reading).finish = reading.finish := by
  induction count generalizing reading with
  | zero => rfl
  | succ count ih =>
      rw [List.replicate_succ, List.foldl_cons, ih, finish_closeGroup]

end Reading

namespace Expression

section EndMarker

variable {front : List Token}

/-- What stands behind an end marker is not read. -/
theorem ofTokens_append_of_mem (ended : .endOfQuery ∈ front) (rest : List Token) :
    ofTokens (front ++ rest) = ofTokens front := by
  rw [ofTokens, takeWhile_append_of_mem ended, ofTokens]

/-- What stands before the first end marker is read before what stands behind it. -/
theorem ofTokens_append_of_notMem (further : .endOfQuery ∉ front) (rest : List Token) :
    ofTokens (front ++ rest) =
      ((rest.takeWhile (· != .endOfQuery)).foldl Reading.step
        (front.foldl Reading.step .start)).finish.getD .empty := by
  rw [ofTokens, takeWhile_append_of_notMem further, List.foldl_append]

/-- An end marker says what the end of the tokens says. -/
theorem ofTokens_append_endOfQuery (front later : List Token) :
    ofTokens (front ++ [.endOfQuery] ++ later) = ofTokens front := by
  rw [ofTokens, takeWhile_append_endOfQuery, ofTokens]

theorem endOfQuery_notMem_append_closings (further : .endOfQuery ∉ front) (count : Nat) :
    .endOfQuery ∉ front ++ List.replicate count .closeGroup := by
  apply List.not_mem_append further
  intro mem
  exact absurd (List.eq_of_mem_replicate mem) (by decide)

/-- Before the end, closing parentheses make no difference. -/
theorem ofTokens_append_closings (further : .endOfQuery ∉ front) (count : Nat) :
    ofTokens (front ++ List.replicate count .closeGroup) = ofTokens front := by
  rw [ofTokens_of_notMem (endOfQuery_notMem_append_closings further count), List.foldl_append,
    Reading.finish_closings, ofTokens_of_notMem further]

end EndMarker

theorem ofText_closings (count : Nat) :
    ofText (List.replicate count ')') = List.replicate count .closeGroup ++ [.endOfQuery] := by
  induction count with
  | zero => exact ofText_nil
  | succ count ih =>
      rw [List.replicate_succ, ofText_closing, ih]
      rfl

theorem nothingAttached_closings (count : Nat) :
    NothingAttached (List.replicate count ')') := by
  cases count with
  | zero => simp [NothingAttached]
  | succ count => exact nothingAttached_cons.mpr (.inr rfl)

/-- A query is read from its tokens, which end with an end marker. -/
theorem ofQuery_eq_ofTokens {query : String} {body : List Token}
    (tokens : Token.ofQuery query = body ++ [.endOfQuery]) :
    ofQuery query = ofTokens body := by
  have marked := ofTokens_append_endOfQuery body []
  rw [List.append_nil] at marked
  rw [ofQuery, tokens, marked]

/-- Closing parentheses at the end of a query make no difference, unless they stand in quotes. -/
theorem ofQuery_append_closings {query : String} (closes : ClosesQuotes query.toList)
    (count : Nat) :
    ofQuery (query ++ String.ofList (List.replicate count ')')) = ofQuery query := by
  rcases wellFormed_ofText query.toList with ⟨body, whole, readable⟩
  have further : .endOfQuery ∉ body := fun mem => readable _ mem
  have closed : Token.ofQuery (query ++ String.ofList (List.replicate count ')')) =
      body ++ List.replicate count .closeGroup ++ [.endOfQuery] := by
    rw [Token.ofQuery, String.toList_append, String.toList_ofList,
      ofText_append closes (nothingAttached_closings count), whole, ofText_closings,
      List.dropLast_concat, List.append_assoc]
  rw [ofQuery_eq_ofTokens closed, ofTokens_append_closings further, ofQuery_eq_ofTokens whole]

/-- The end of a query closes all groups that are open, so closing parentheses make no difference
before it. Reading ends at the first end marker, or at the end of the tokens if there is none,
and the cursor of the recursive descent never comes further. -/
theorem endOfQuery_closes_groups :
    (∀ tokens : List Token, .endOfQuery ∉ tokens → ∀ (count : Nat) (later : List Token),
      ofTokens (tokens ++ List.replicate count .closeGroup) = ofTokens tokens ∧
        ofTokens (tokens ++ [.endOfQuery] ++ later) = ofTokens tokens) ∧
      (∀ (tokens : List Token) (room : Nat), 4 * tokens.length + 4 ≤ room →
        Descent.ofTokens room tokens =
          some (ofTokens tokens, (tokens.takeWhile (· != .endOfQuery)).length)) ∧
      ∀ query : String, ClosesQuotes query.toList → ∀ count : Nat,
        ofQuery (query ++ String.ofList (List.replicate count ')')) = ofQuery query := by
  refine ⟨?_, ?_, ?_⟩
  · intro tokens further count later
    constructor
    · exact ofTokens_append_closings further count
    · exact ofTokens_append_endOfQuery tokens later
  · intro tokens room enough
    exact Descent.ofTokens_eq enough
  · intro query closes
    exact ofQuery_append_closings closes

/-- Three parentheses close two groups behind a negation of nothing, and a term behind the end
marker is not read. -/
theorem endOfQuery_closes_groups_of_unclosed_query :
    let tokens : List Token := [.openGroup, .word "flour", .or, .openGroup, .not]
    let query := "(\"flour\" OR (-"
    (.endOfQuery ∉ tokens ∧
        ofTokens (tokens ++ List.replicate 3 .closeGroup) = ofTokens tokens ∧
          ofTokens (tokens ++ [.endOfQuery] ++ [.word "salt"]) = ofTokens tokens) ∧
      (4 * tokens.length + 4 ≤ 24 ∧
        Descent.ofTokens 24 tokens = some (ofTokens tokens, tokens.length)) ∧
      ClosesQuotes query.toList ∧
        ofQuery (query ++ String.ofList (List.replicate 3 ')')) = ofQuery query := by
  intro tokens query
  have further : .endOfQuery ∉ tokens := by decide
  have enough : 4 * tokens.length + 4 ≤ 24 := by decide
  have closes : ClosesQuotes query.toList := by decide
  rcases endOfQuery_closes_groups with ⟨ofTokensCloses, descends, ofQueryCloses⟩
  refine ⟨⟨further, ofTokensCloses tokens further 3 [.word "salt"]⟩, ⟨enough, ?_⟩, closes,
    ofQueryCloses query closes 3⟩
  exact descends tokens 24 enough

end Expression

end SearchQuery
