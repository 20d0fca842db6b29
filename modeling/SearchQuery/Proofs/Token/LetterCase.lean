import SearchQuery.Proofs.Text.LetterCase
import SearchQuery.Proofs.Token.Division
import SearchQuery.Proofs.Values

/-!
# The letter case of queries

Keywords and the names of fields are read in any case of their ASCII letters, and nothing else that
decides about a token is a letter. So a query in another case is divided into the same pieces, and
the tokens differ in their values only (`ofText_map`).
-/

namespace SearchQuery.Token

open Text

section Pieces

variable (letterCase : LetterCase) {value source rest : List Char}

theorem isWordChar_apply (c : Char) : isWordChar (letterCase.apply c) = isWordChar c :=
  letterCase.apply_congr (by decide +kernel) c

theorem isWordStart_apply (c : Char) : isWordStart (letterCase.apply c) = isWordStart c :=
  letterCase.apply_congr (by decide +kernel) c

theorem isOperatorStart_apply (c : Char) :
    isOperatorStart (letterCase.apply c) = isOperatorStart c :=
  letterCase.apply_congr (by decide +kernel) c

theorem beq_apply {mark : Char} (noLetter : mark.isAlpha = false) (c : Char) :
    (letterCase.apply c == mark) = (c == mark) := by
  rw [Bool.eq_iff_iff, beq_iff_eq, beq_iff_eq, letterCase.apply_eq_iff noLetter]

theorem mem_map_iff {mark : Char} (noLetter : mark.isAlpha = false) {text : List Char} :
    mark ∈ text.map letterCase.apply ↔ mark ∈ text := by
  rw [List.mem_map]
  constructor
  · rintro ⟨c, mem, same⟩
    rwa [(letterCase.apply_eq_iff noLetter c).mp same] at mem
  · intro mem
    exact ⟨mark, mem, letterCase.apply_of_isAlpha_eq_false noLetter⟩

theorem stops_map {admits : Char → Bool} (kept : ∀ c, admits (letterCase.apply c) = admits c) :
    Stops admits (rest.map letterCase.apply) ↔ Stops admits rest := by
  cases rest with
  | nil => rfl
  | cons c rest => rw [List.map_cons, stops_cons, stops_cons, kept]

theorem nothingAttached_map :
    NothingAttached (rest.map letterCase.apply) ↔ NothingAttached rest := by
  cases rest with
  | nil => rfl
  | cons c rest =>
      rw [List.map_cons, nothingAttached_cons, nothingAttached_cons,
        letterCase.isWhiteSpace_apply, letterCase.apply_eq_iff (by decide)]

theorem map_symbol (operator : Operator) :
    operator.symbol.toList.map letterCase.apply = operator.symbol.toList := by
  cases operator with
  | equal => cases letterCase <;> decide
  | ordering comparison => cases comparison <;> cases letterCase <;> decide

theorem map_quote (text : List Char) :
    ('"' :: text).map letterCase.apply = '"' :: text.map letterCase.apply := by
  rw [List.map_cons, letterCase.apply_of_isAlpha_eq_false (by decide)]

theorem IsQuoted.map (isQuoted : IsQuoted value source rest) :
    IsQuoted (value.map letterCase.apply) (source.map letterCase.apply)
      (rest.map letterCase.apply) := by
  cases isQuoted with
  | closed noQuote =>
      rw [map_quote, List.map_append, map_quote]
      exact .closed (mt (mem_map_iff letterCase (by decide)).mp noQuote) _
  | unclosed noQuote =>
      rw [map_quote]
      exact .unclosed (mt (mem_map_iff letterCase (by decide)).mp noQuote)

theorem IsValue.map (isValue : IsValue value source rest) :
    IsValue (value.map letterCase.apply) (source.map letterCase.apply)
      (rest.map letterCase.apply) := by
  cases isValue with
  | quoted isQuoted => exact .quoted (isQuoted.map letterCase)
  | bare wordChars stops unquoted =>
      refine .bare ?_ ((stops_map letterCase (isWordChar_apply letterCase)).mpr stops) ?_
      · rw [List.forall_mem_map]
        exact fun c mem => (isWordChar_apply letterCase c).trans (wordChars c mem)
      · intro empty
        apply (stops_map letterCase (beq_apply letterCase (by decide))).mpr
        exact unquoted (List.map_eq_nil_iff.mp empty)

theorem IsLongest.map {operator : Operator} (longest : IsLongest operator rest) :
    IsLongest operator (rest.map letterCase.apply) :=
  fun short => (stops_map letterCase (beq_apply letterCase (by decide))).mpr (longest short)

theorem IsComparison.map {operator : Operator} {symbol : List Char}
    (isComparison : IsComparison operator symbol rest) :
    IsComparison operator (symbol.map letterCase.apply) (rest.map letterCase.apply) := by
  cases isComparison with
  | written longest =>
      rw [map_symbol]
      exact .written (longest.map letterCase)
  | omitted stops =>
      exact .omitted ((stops_map letterCase (isOperatorStart_apply letterCase)).mpr stops)

theorem IsFilter.map {token : Token} (isFilter : IsFilter token source rest) :
    IsFilter (token.mapValue letterCase.recase) (source.map letterCase.apply)
      (rest.map letterCase.apply) := by
  cases isFilter with
  | intro spells isComparison isValue =>
      have comparison := isComparison.map letterCase
      rw [List.map_append] at comparison
      rw [List.map_append, List.map_cons, List.map_append,
        letterCase.apply_of_isAlpha_eq_false (by decide : ':'.isAlpha = false), mapValue,
        letterCase.recase_ofList]
      exact .intro ((letterCase.sameIgnoringAsciiCase_map_right _ _).trans spells) comparison
        (isValue.map letterCase)

/-- A text starts with the name of a field and a colon in one case if it does in the other. -/
theorem startsFilter_of_map (starts : StartsFilter (source.map letterCase.apply)) :
    StartsFilter source := by
  obtain ⟨field, name, after, spells, split⟩ := starts
  obtain ⟨ownName, behind, rfl, rfl, behindName⟩ := List.map_eq_append_iff.mp split
  obtain ⟨colon, ownAfter, rfl, isColon, _⟩ := List.map_eq_cons_iff.mp behindName
  rw [letterCase.apply_eq_iff (by decide)] at isColon
  subst isColon
  rw [letterCase.sameIgnoringAsciiCase_map_right] at spells
  exact ⟨field, ownName, ownAfter, spells, rfl⟩

theorem IsBareWord.map (bare : IsBareWord source) : IsBareWord (source.map letterCase.apply) := by
  refine ⟨mt List.map_eq_nil_iff.mp bare.nonempty, ?_, ?_, ?_, ?_⟩
  · rw [List.forall_mem_map]
    intro c mem
    rw [← isWordChar_iff, isWordChar_apply, isWordChar_iff]
    exact bare.plain c mem
  · have run := bare.isRun
    rw [List.head?_map]
    intro c first
    obtain ⟨own, ownFirst, rfl⟩ := Option.map_eq_some_iff.mp first
    have start := run.start own ownFirst
    rw [← isWordStart_apply letterCase, isWordStart_iff] at start
    exact start.2
  · intro keyword mem
    rw [letterCase.sameIgnoringAsciiCase_map_left]
    exact bare.noKeyword keyword mem
  · exact mt (startsFilter_of_map letterCase) bare.noFilter

/-- A piece in another case is a piece of the same kind. -/
theorem IsPiece.map {token : Option Token} (isPiece : IsPiece token source rest) :
    IsPiece (token.map (mapValue letterCase.recase)) (source.map letterCase.apply)
      (rest.map letterCase.apply) := by
  have mark {c : Char} (noLetter : c.isAlpha = false) : [c].map letterCase.apply = [c] := by
    rw [List.map_singleton, letterCase.apply_of_isAlpha_eq_false noLetter]
  cases isPiece with
  | space isSpace => exact .space ((letterCase.isWhiteSpace_apply _).trans isSpace) _
  | dash alone =>
      rw [mark (by decide)]
      exact .dash ((nothingAttached_map letterCase).mpr alone)
  | minus attached =>
      rw [mark (by decide)]
      exact .minus (mt (nothingAttached_map letterCase).mp attached)
  | openGroup =>
      rw [mark (by decide)]
      exact .openGroup _
  | closeGroup =>
      rw [mark (by decide)]
      exact .closeGroup _
  | operator longest =>
      rw [map_symbol]
      exact .operator (longest.map letterCase)
  | phrase isQuoted =>
      rw [Option.map_some, mapValue, letterCase.recase_ofList]
      exact .phrase (isQuoted.map letterCase)
  | filter isFilter => exact .filter (isFilter.map letterCase)
  | keyword isKeyword spells stops =>
      have fixed : ∀ token ∈ [and, or, not], mapValue letterCase.recase token = token := by
        simp [mapValue]
      rw [Option.map_some, fixed _ isKeyword]
      exact .keyword isKeyword ((letterCase.sameIgnoringAsciiCase_map_right _ _).trans spells)
        ((stops_map letterCase (isWordChar_apply letterCase)).mpr stops)
  | word bare stops =>
      rw [Option.map_some, mapValue, letterCase.recase_ofList]
      exact .word (bare.map letterCase)
        ((stops_map letterCase (isWordChar_apply letterCase)).mpr stops)

end Pieces

/-- A text in another case is read as the same tokens with their values in that case. -/
theorem ofText_map (letterCase : LetterCase) (text : List Char) :
    ofText (text.map letterCase.apply) = (ofText text).map (mapValue letterCase.recase) := by
  induction text using readingInduction with
  | nil => simp [mapValue]
  | step c rest ih =>
      obtain ⟨source, isPiece, whole⟩ := exists_isPiece c rest
      rw [whole, List.map_append, (isPiece.map letterCase).takes.ofText, isPiece.takes.ofText,
        List.map_append, ih]
      cases (read c rest).1 <;> rfl

end SearchQuery.Token
