import SearchQuery.Proofs.Occurrence
import SearchQuery.Proofs.Token.LetterCase

/-!
# Queries in another letter case

A query in which all ASCII letters are put into one case stands for the same expression with its
values in that case (`Expression.ofQuery_recase`). Terms, filters on the name and the content, and
the value of `has:` ignore letter case, so such queries match the same documents. Names of tags and
dates are left out: an accent joins one case of a letter and not the other, and a date may be
written with letters.
-/

namespace SearchQuery

open Text

/-- A term occurs in a text in every case of its ASCII letters, or in none. -/
theorem occursFolded_recase (letterCase : LetterCase) (term text : String) :
    occursFolded (letterCase.recase term) text = occursFolded term text := by
  rw [occursFolded, letterCase.toList_recase, letterCase.lowercase_map, occursFolded]

namespace Criterion

variable (letterCase : LetterCase) (value : String)

theorem holds_contains_recase (place : TextPlace) (document : Document) :
    holds document (.contains place (letterCase.recase value)) =
      holds document (.contains place value) := by
  rw [holds, letterCase.searchTerm?_recase, holds]
  cases searchTerm? value with
  | none => rfl
  | some term => cases place <;> simp [TextPlace.holds, occursFolded_recase]

theorem asksForTags_recase : asksForTags (letterCase.recase value) = asksForTags value := by
  rw [asksForTags, letterCase.toList_recase, letterCase.trim_map,
    letterCase.sameIgnoringAsciiCase_map_left, asksForTags]

end Criterion

namespace Expression

/-- Whether a leaf is compared without regard to letter case: a term, or a filter on the name, on
the content or on what a document has. -/
def ignoresCase : Expression → Bool
  | .text _ => true
  | .filter .name _ _ => true
  | .filter .content _ _ => true
  | .filter .has _ _ => true
  | _ => false

theorem interchangeable_has_recase (letterCase : LetterCase) (value : String)
    (operator : Operator) :
    Interchangeable (.filter .has operator (letterCase.recase value))
      (.filter .has operator value) := by
  cases operator with
  | equal =>
      have resolved (value : String) : Criterion.ofFilter .has .equal value =
          if Criterion.asksForTags value then .ok .hasTags else .error (.unsupportedHasValue value) :=
        rfl
      by_cases asks : Criterion.asksForTags value = true
      · have valid := (resolved value).trans (if_pos asks)
        rw [← Criterion.asksForTags_recase letterCase] at asks
        exact .filter_of_ok ((resolved _).trans (if_pos asks)) valid fun _ => rfl
      · have invalid := (resolved value).trans (if_neg asks)
        rw [← Criterion.asksForTags_recase letterCase] at asks
        exact .filter_of_error ((resolved _).trans (if_neg asks)) invalid
  | ordering comparison =>
      have invalid (value : String) : Criterion.ofFilter .has (.ordering comparison) value =
          .error (.unsupportedOperator .has (.ordering comparison)) :=
        rfl
      exact .filter_of_error (invalid _) (invalid value)

theorem interchangeable_recase (letterCase : LetterCase) {leaf : Expression}
    (ignores : leaf.ignoresCase = true) :
    Interchangeable (leaf.mapValues letterCase.recase) leaf := by
  cases leaf with
  | empty | and operands | or operands | not operand => contradiction
  | text value =>
      rw [mapValues_text]
      exact .text (Criterion.holds_contains_recase letterCase value .nameOrContent)
  | filter field operator value =>
      rw [mapValues_filter]
      cases field with
      | tag | created => contradiction
      | name =>
          exact .filter_of_searches Field.Searches.name
            (Criterion.holds_contains_recase letterCase value .name) operator
      | content =>
          exact .filter_of_searches Field.Searches.content
            (Criterion.holds_contains_recase letterCase value .content) operator
      | has => exact interchangeable_has_recase letterCase value operator

/-- A query in another case is read as the same tokens and stands for the same expression, with all
values in that case and nothing else changed. If its leaves ignore letter case, it matches the same
documents. -/
theorem ofQuery_recase (letterCase : LetterCase) (query : String) :
    Token.ofQuery (letterCase.recase query) =
        (Token.ofQuery query).map (Token.mapValue letterCase.recase) ∧
      ofQuery (letterCase.recase query) = (ofQuery query).mapValues letterCase.recase ∧
      ((∀ leaf ∈ (ofQuery query).leaves, leaf.ignoresCase = true) → ∀ document,
        (ofQuery (letterCase.recase query)).matchesDocument document =
          (ofQuery query).matchesDocument document) := by
  have sameTokens : Token.ofQuery (letterCase.recase query) =
      (Token.ofQuery query).map (Token.mapValue letterCase.recase) := by
    rw [Token.ofQuery, letterCase.toList_recase, Token.ofText_map, Token.ofQuery]
  have sameExpression : ofQuery (letterCase.recase query) =
      (ofQuery query).mapValues letterCase.recase := by
    rw [ofQuery, sameTokens, ofTokens_map letterCase.isBlank_recase, ofQuery]
  refine ⟨sameTokens, sameExpression, fun ignoreCase document => ?_⟩
  rw [sameExpression]
  have interchangeable := interchangeable_mapValues letterCase.recase fun leaf mem =>
    interchangeable_recase letterCase (ignoreCase leaf mem)
  exact interchangeable.matchesDocument document

/-- Keywords and field names in mixed case, a sigma between ASCII letters, a dotless i that no
ASCII case touches, and the value of `has:`. -/
theorem ofQuery_recase_of_mixed_letters :
    let query := "nOt (name:\"Beurre ΣaΣ\" oR -Has:Tags) contentment:ı"
    Token.ofQuery query =
        [.not, .openGroup, .filter .name .equal "Beurre ΣaΣ", .or, .minus,
          .filter .has .equal "Tags", .closeGroup, .word "contentment:ı", .endOfQuery] ∧
      Token.ofQuery (LetterCase.upper.recase query) =
        [.not, .openGroup, .filter .name .equal "BEURRE ΣAΣ", .or, .minus,
          .filter .has .equal "TAGS", .closeGroup, .word "CONTENTMENT:ı", .endOfQuery] ∧
      (∀ leaf ∈ (ofQuery query).leaves, leaf.ignoresCase = true) ∧
      ∀ document, (ofQuery (LetterCase.upper.recase query)).matchesDocument document =
        (ofQuery query).matchesDocument document := by
  intro query
  have tokens : Token.ofQuery query =
      [.not, .openGroup, .filter .name .equal "Beurre ΣaΣ", .or, .minus,
        .filter .has .equal "Tags", .closeGroup, .word "contentment:ı", .endOfQuery] := by
    decide +kernel
  obtain ⟨sameTokens, _, sameMatches⟩ := ofQuery_recase .upper query
  have leaves : (ofQuery query).leaves = [.filter .name .equal "Beurre ΣaΣ",
      .filter .has .equal "Tags", .text "contentment:ı"] := by
    rw [ofQuery, leaves_ofTokens, tokens]
    rfl
  have ignoreCase : ∀ leaf ∈ (ofQuery query).leaves, leaf.ignoresCase = true := by
    rw [leaves]
    simp [ignoresCase]
  refine ⟨tokens, ?_, ignoreCase, sameMatches ignoreCase⟩
  rw [sameTokens, tokens]
  decide +kernel

end Expression

end SearchQuery
