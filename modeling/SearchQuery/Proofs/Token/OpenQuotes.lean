import SearchQuery.Proofs.Token.Seam
import SearchQuery.Proofs.Values

/-!
# White space between two texts

Reading carries nothing over white space but the one quote that may be open there. If every quote
before the white space is closed, the texts on its two sides are read apart. Otherwise the last
token before it is a phrase or a filter whose value is not closed, and the value goes on up to the
next quote. Every quote, wherever it is met, opens or closes a value, so their number decides.
-/

namespace SearchQuery.Token

section Unclosed

variable {value source : List Char} {token : Token}

/-- A quoted text that is not closed goes on up to the next quote. -/
theorem readQuoted_append (noQuote : '"' ∉ value) (rest : List Char) :
    readQuoted (value ++ rest) = (value ++ (readQuoted rest).1, (readQuoted rest).2) := by
  have inside : ∀ c ∈ value, (c != '"') = true := by
    intro c mem
    rw [bne_iff_ne]
    rintro rfl
    exact noQuote mem
  rw [readQuoted, List.takeWhile_append_of_pos inside, List.dropWhile_append_of_pos inside]
  rfl

/-- A value that is not closed takes in what follows, up to the next quote. -/
theorem IsUnclosed.ofText_append (isUnclosed : IsUnclosed value token source) (rest : List Char) :
    ofText (source ++ rest) =
      token.mapValue (· ++ String.ofList (readQuoted rest).1) :: ofText (readQuoted rest).2 := by
  have longer (noQuote : '"' ∉ value) :=
    readQuoted_eq_iff_isQuoted.mp (readQuoted_append noQuote rest)
  cases isUnclosed with
  | phrase noQuote =>
      obtain ⟨longSource, isQuoted, whole⟩ := longer noQuote
      rw [List.cons_append, whole, (IsPiece.phrase isQuoted).takes.ofText, mapValue,
        String.ofList_append]
      rfl
  | @filter field operator name symbol noQuote spells isComparison =>
      obtain ⟨longSource, isQuoted, whole⟩ := longer noQuote
      have comparison : IsComparison operator symbol ('"' :: value ++ rest) :=
        isComparison.before fun empty => absurd empty (List.cons_ne_nil _ _)
      rw [List.cons_append, whole] at comparison
      have isPiece := IsPiece.filter (.intro spells comparison (.quoted isQuoted))
      have spelled := isPiece.takes.ofText
      simp only [List.append_assoc, List.cons_append, ← whole] at spelled ⊢
      rw [spelled, mapValue, String.ofList_append]
      rfl

end Unclosed

/-- A text that leaves a quote open ends with a token whose value is not closed. Whatever follows
the text goes on in that value up to the next quote, and is read afresh behind it. -/
theorem exists_isUnclosed {front : List Char} (opens : ¬ ClosesQuotes front) :
    ∃ before source value token tokens, front = before ++ source ∧
      IsUnclosed value token source ∧ ofText front = tokens ++ [token, .endOfQuery] ∧
      ∀ rest, ofText (front ++ rest) =
        tokens ++ token.mapValue (· ++ String.ofList (readQuoted rest).1) ::
          ofText (readQuoted rest).2 := by
  induction front using readingInduction with
  | nil => exact absurd rfl opens
  | step c rest ih =>
      obtain ⟨source, isPiece, whole⟩ := exists_isPiece c rest
      rw [whole] at opens ⊢
      rcases isPiece.closesQuotes_or_isUnclosed with closes | ⟨atEnd, value, token, isLast, isUnclosed⟩
      · -- The quote is opened later, so something follows this piece and hides what comes behind.
        rw [closesQuotes_append closes] at opens
        obtain ⟨before, lastSource, value, token, tokens, split, isUnclosed, later, longer⟩ :=
          ih opens
        have nonempty : (read c rest).2 ≠ [] := by
          intro empty
          rw [empty] at opens
          exact opens rfl
        refine ⟨source ++ before, lastSource, value, token, (read c rest).1.toList ++ tokens, ?_,
          isUnclosed, ?_, fun more => ?_⟩
        · rw [List.append_assoc, ← split]
        · rw [isPiece.takes.ofText, later, List.append_assoc]
        · have standsBefore : IsPiece _ source ((read c rest).2 ++ more) :=
            isPiece.before closes fun empty => absurd empty nonempty
          rw [List.append_assoc, standsBefore.takes.ofText, longer, List.append_assoc]
      · have last := isPiece.takes.ofText
        rw [isLast, atEnd, ofText_nil] at last
        rw [atEnd, last, List.append_nil]
        exact ⟨[], source, value, token, [], rfl, isUnclosed, rfl, isUnclosed.ofText_append⟩

/-- White space behind closed quotes separates two queries: they are read apart. Behind an open
quote nothing is separated. The last token is a phrase or a filter, whose value is not closed, and
it takes in whatever follows, white space or not, up to the next quote. -/
theorem ofQuery_append_at_space (front : String) :
    (ClosesQuotes front.toList → ∀ space rest, Text.isWhiteSpace space = true →
      ofQuery (front ++ String.singleton space ++ rest) =
        (ofQuery front).dropLast ++ ofQuery rest) ∧
    (¬ ClosesQuotes front.toList → ∃ before source value token tokens,
      front.toList = before ++ source ∧ IsUnclosed value token source ∧
        ofQuery front = tokens ++ [token, .endOfQuery] ∧
        ∀ rest : String, ofQuery (front ++ rest) =
          tokens ++
            token.mapValue (· ++ String.ofList (rest.toList.takeWhile (· != '"'))) ::
            ofText ((rest.toList.dropWhile (· != '"')).drop 1)) := by
  constructor
  · intro closes space rest isSpace
    have apart : NothingAttached (space :: rest.toList) :=
      nothingAttached_cons.mpr (.inl isSpace)
    have divided := ofText_append closes apart
    have skipped := (takes_space isSpace rest.toList).ofText
    rw [List.singleton_append, Option.toList_none, List.nil_append] at skipped
    rw [ofQuery, String.toList_append, String.toList_append, String.toList_singleton,
      List.append_assoc, List.singleton_append, divided, skipped]
    rfl
  · intro opens
    obtain ⟨before, source, value, token, tokens, split, isUnclosed, whole, longer⟩ :=
      exists_isUnclosed opens
    refine ⟨before, source, value, token, tokens, split, isUnclosed, whole, fun rest => ?_⟩
    rw [ofQuery, String.toList_append, longer]
    rfl

/-- A dash attached to a filter with a quoted value, before an em space and an open quote; and a
filter whose open quote takes in a keyword and a parenthesis. -/
theorem ofQuery_append_at_space_of_filters :
    (ClosesQuotes "-tag:\"a b\" NO".toList ∧ Text.isWhiteSpace '\u2003' = true ∧
      ofQuery ("-tag:\"a b\" NO" ++ String.singleton '\u2003' ++ "T \"c") =
        [.minus, .filter .tag .equal "a b", .word "NO", .word "T", .phrase "c", .endOfQuery]) ∧
    ¬ ClosesQuotes "(x name:<\"a".toList ∧
      ofQuery ("(x name:<\"a" ++ " NOT )\"b") =
        [.openGroup, .word "x", .filter .name (.ordering .less) "a NOT )", .word "b",
          .endOfQuery] := by
  have closes : ClosesQuotes "-tag:\"a b\" NO".toList := by decide
  have space : Text.isWhiteSpace '\u2003' = true := by decide
  have opens : ¬ ClosesQuotes "(x name:<\"a".toList := by decide
  have first : ofQuery "-tag:\"a b\" NO" =
      [.minus, .filter .tag .equal "a b", .word "NO", .endOfQuery] := by
    decide +kernel
  have second : ofQuery "T \"c" = [.word "T", .phrase "c", .endOfQuery] := by
    decide +kernel
  have unclosed : ofQuery "(x name:<\"a" =
      [.openGroup, .word "x", .filter .name (.ordering .less) "a", .endOfQuery] := by
    decide +kernel
  have behind : ofText ['b'] = [.word "b", .endOfQuery] := by
    decide +kernel
  refine ⟨⟨closes, space, ?_⟩, opens, ?_⟩
  · rw [(ofQuery_append_at_space "-tag:\"a b\" NO").1 closes '\u2003' "T \"c" space, first, second]
    rfl
  · obtain ⟨_, _, _, token, tokens, _, _, whole, longer⟩ :=
      (ofQuery_append_at_space "(x name:<\"a").2 opens
    rw [unclosed] at whole
    obtain ⟨rfl, rfl⟩ : tokens = [.openGroup, .word "x"] ∧
        token = .filter .name (.ordering .less) "a" := by
      have split : [openGroup, word "x"] ++ [filter .name (.ordering .less) "a", endOfQuery] =
        tokens ++ [token, endOfQuery] := whole
      obtain ⟨same, last⟩ := List.append_inj' split rfl
      exact ⟨same.symm, (List.cons.inj last).1.symm⟩
    rw [longer]
    exact congrArg _ (congrArg _ behind)

end SearchQuery.Token
