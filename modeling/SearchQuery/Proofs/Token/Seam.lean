import SearchQuery.Proofs.Token.Division

/-!
# Reading a text before another

White space, closing parentheses and the end of the query end every piece but a quoted text that
is not closed. So a text with an even number of quotes is read alike before each of them: its
tokens are followed by those of the rest.
-/

namespace SearchQuery.Token

/-! ## What white space and closing parentheses end -/

/-- White space and the closing parenthesis do not belong to a class of characters. -/
def Excludes (admits : Char → Bool) : Prop :=
  ∀ c, Text.isWhiteSpace c = true ∨ c = ')' → admits c = false

theorem excludes_isWordChar : Excludes isWordChar := by
  rintro c (isSpace | rfl)
  · simp [isWordChar, isSpace]
  · decide

theorem excludes_beq {wanted : Char} (other : ¬(Text.isWhiteSpace wanted = true ∨ wanted = ')')) :
    Excludes (· == wanted) := by
  intro c apart
  rw [beq_eq_false_iff_ne]
  rintro rfl
  exact other apart

theorem excludes_isOperatorStart : Excludes isOperatorStart := by
  intro c apart
  have notLess : (c == '<') = false := excludes_beq (by decide) c apart
  have notGreater : (c == '>') = false := excludes_beq (by decide) c apart
  have notEqual : (c == '=') = false := excludes_beq (by decide) c apart
  rw [isOperatorStart, notLess, notGreater, notEqual]
  rfl

section Before

variable {rest after : List Char} (apart : rest = [] → NothingAttached after)
include apart

theorem Stops.before {admits : Char → Bool} (stops : Stops admits rest)
    (excludes : Excludes admits) : Stops admits (rest ++ after) := by
  cases rest with
  | nil => exact fun c first => excludes c (apart rfl c first)
  | cons c rest => exact stops

theorem nothingAttached_before : NothingAttached (rest ++ after) ↔ NothingAttached rest := by
  cases rest with
  | nil => simpa [NothingAttached] using apart
  | cons c rest => rfl

theorem IsLongest.before {operator : Operator} (longest : IsLongest operator rest) :
    IsLongest operator (rest ++ after) :=
  fun short => (longest short).before apart (excludes_beq (by decide))

theorem IsComparison.before {operator : Operator} {symbol : List Char}
    (isComparison : IsComparison operator symbol rest) :
    IsComparison operator symbol (rest ++ after) := by
  cases isComparison with
  | written longest => exact .written (longest.before apart)
  | omitted stops => exact .omitted (stops.before apart excludes_isOperatorStart)

end Before

/-! ## Quotes in pieces -/

/-- The text that a phrase or a filter is read from if the quote before its value is not closed.
The value then runs to the end. -/
inductive IsUnclosed (value : List Char) : (token : Token) → (source : List Char) → Prop
  | phrase (noQuote : '"' ∉ value) :
      IsUnclosed value (.phrase (String.ofList value)) ('"' :: value)
  | filter {field : Field} {operator : Operator} {name symbol : List Char} (noQuote : '"' ∉ value)
      (spells : Text.sameIgnoringAsciiCase field.text.toList name = true)
      (isComparison : IsComparison operator symbol ('"' :: value)) :
      IsUnclosed value (.filter field operator (String.ofList value))
        (name ++ ':' :: (symbol ++ '"' :: value))

/-- Whether every quote that is opened in a text is closed. -/
def ClosesQuotes (text : List Char) : Prop :=
  text.count '"' % 2 = 0

instance (text : List Char) : Decidable (ClosesQuotes text) :=
  inferInstanceAs (Decidable (_ = _))

theorem closesQuotes_of_notMem {text : List Char} (noQuote : '"' ∉ text) : ClosesQuotes text := by
  rw [ClosesQuotes, List.count_eq_zero.mpr noQuote]

theorem closesQuotes_append {front text : List Char} (closes : ClosesQuotes front) :
    ClosesQuotes (front ++ text) ↔ ClosesQuotes text := by
  unfold ClosesQuotes at *
  rw [List.count_append]
  omega

theorem closesQuotes_of_wordChars {text : List Char} (wordChars : ∀ c ∈ text, isWordChar c = true) :
    ClosesQuotes text := by
  apply closesQuotes_of_notMem
  intro quote
  exact absurd (wordChars _ quote) (by decide)

theorem closesQuotes_symbol (operator : Operator) : ClosesQuotes operator.symbol.toList := by
  cases operator with
  | equal => decide
  | ordering comparison => cases comparison <;> decide

section Pieces

variable {value source rest after : List Char} {token : Option Token}

/-- A quote that is not closed takes in the rest of the query. -/
theorem IsQuoted.closesQuotes_or_unclosed (isQuoted : IsQuoted value source rest) :
    ClosesQuotes source ∨ rest = [] ∧ '"' ∉ value ∧ source = '"' :: value := by
  cases isQuoted with
  | closed noQuote =>
      left
      rw [ClosesQuotes, List.count_cons_self, List.count_append, List.count_eq_zero.mpr noQuote]
      rfl
  | unclosed noQuote => exact .inr ⟨rfl, noQuote, rfl⟩

/-- The end of a filter decides whether its quotes are closed. -/
theorem closesQuotes_filter {field : Field} {operator : Operator} {name symbol : List Char}
    (spells : Text.sameIgnoringAsciiCase field.text.toList name = true)
    (isComparison : IsComparison operator symbol rest) :
    ClosesQuotes (name ++ ':' :: (symbol ++ source)) ↔ ClosesQuotes source := by
  have nameCloses : ClosesQuotes name := closesQuotes_of_wordChars fun c mem =>
    isWordChar_of_isFieldNameChar (isFieldNameChar_of_mem spells mem)
  have colonCloses : ClosesQuotes [':'] := by decide
  have symbolCloses : ClosesQuotes symbol := by
    cases isComparison with
    | written => exact closesQuotes_symbol operator
    | omitted => rfl
  rw [closesQuotes_append nameCloses, ← List.singleton_append, closesQuotes_append colonCloses,
    closesQuotes_append symbolCloses]

/-- A piece closes its quotes, or it is the last one. -/
theorem IsPiece.closesQuotes_or_isUnclosed (isPiece : IsPiece token source rest) :
    ClosesQuotes source ∨ rest = [] ∧ ∃ value last, token = some last ∧
      IsUnclosed value last source := by
  cases isPiece with
  | @space c isSpace =>
      left
      apply closesQuotes_of_notMem
      rw [List.mem_singleton]
      rintro rfl
      exact absurd isSpace (by decide)
  | dash | minus | openGroup | closeGroup =>
      left
      decide
  | @operator operator => exact .inl (closesQuotes_symbol operator)
  | phrase isQuoted =>
      refine isQuoted.closesQuotes_or_unclosed.imp_right ?_
      rintro ⟨atEnd, noQuote, rfl⟩
      exact ⟨atEnd, _, _, rfl, .phrase noQuote⟩
  | filter isFilter =>
      cases isFilter with
      | intro spells isComparison isValue =>
          cases isValue with
          | quoted isQuoted =>
              rw [closesQuotes_filter spells isComparison]
              refine isQuoted.closesQuotes_or_unclosed.imp_right ?_
              rintro ⟨rfl, noQuote, rfl⟩
              rw [List.append_nil] at isComparison
              exact ⟨rfl, _, _, rfl, .filter noQuote spells isComparison⟩
          | bare wordChars =>
              rw [closesQuotes_filter spells isComparison]
              exact .inl (closesQuotes_of_wordChars wordChars)
  | keyword isKeyword spells =>
      exact .inl (closesQuotes_of_wordChars (isRun_of_spells isKeyword spells).wordChars)
  | word bare => exact .inl (closesQuotes_of_wordChars bare.isRun.wordChars)

variable (closes : ClosesQuotes source)
include closes

theorem IsQuoted.before (after : List Char) (isQuoted : IsQuoted value source rest) :
    IsQuoted value source (rest ++ after) := by
  cases isQuoted with
  | closed noQuote => exact .closed noQuote _
  | unclosed noQuote =>
      rw [ClosesQuotes, List.count_cons_self, List.count_eq_zero.mpr noQuote] at closes
      contradiction

variable (apart : rest = [] → NothingAttached after)
include apart

theorem IsValue.before (isValue : IsValue value source rest) :
    IsValue value source (rest ++ after) := by
  cases isValue with
  | quoted isQuoted => exact .quoted (isQuoted.before closes after)
  | bare wordChars stops unquoted =>
      refine .bare wordChars (stops.before apart excludes_isWordChar) ?_
      exact fun empty => (unquoted empty).before apart (excludes_beq (by decide))

/-- A piece whose quotes are closed may stand before white space and closing parentheses as
well as before the end. What stands behind the text that follows a piece makes no difference. -/
theorem IsPiece.before (isPiece : IsPiece token source rest) :
    IsPiece token source (rest ++ after) := by
  cases isPiece with
  | space isSpace => exact .space isSpace _
  | dash alone => exact .dash ((nothingAttached_before apart).mpr alone)
  | minus attached => exact .minus fun alone => attached ((nothingAttached_before apart).mp alone)
  | openGroup => exact .openGroup _
  | closeGroup => exact .closeGroup _
  | operator longest => exact .operator (longest.before apart)
  | phrase isQuoted => exact .phrase (isQuoted.before closes after)
  | filter isFilter =>
      cases isFilter with
      | intro spells isComparison isValue =>
          rw [closesQuotes_filter spells isComparison] at closes
          have comparison := isComparison.before fun empty =>
            apart (List.append_eq_nil_iff.mp empty).2
          rw [List.append_assoc] at comparison
          exact .filter (.intro spells comparison (isValue.before closes apart))
  | keyword isKeyword spells stops =>
      exact .keyword isKeyword spells (stops.before apart excludes_isWordChar)
  | word bare stops => exact .word bare (stops.before apart excludes_isWordChar)

end Pieces

/-! ## Pieces before a text -/

theorem Piece.Stand.append {pieces later : List Piece} (stand : Stand pieces)
    (closes : ClosesQuotes (text pieces)) (apart : NothingAttached (text later))
    (laterStand : Stand later) : Stand (pieces ++ later) := by
  induction pieces with
  | nil => exact laterStand
  | cons piece others ih =>
      have both : ClosesQuotes piece.source ∧ ClosesQuotes (text others) := by
        rw [text_cons] at closes
        rcases stand.1.closesQuotes_or_isUnclosed with front | ⟨last, _⟩
        · exact ⟨front, (closesQuotes_append front).mp closes⟩
        · rw [last, List.append_nil] at closes
          rw [last]
          exact ⟨closes, rfl⟩
      refine ⟨?_, ih stand.2 both.2⟩
      have isPiece := stand.1.before both.1 fun _ => apart
      rwa [← text_append] at isPiece

/-- A text whose quotes are closed is read alike before the end, before white space and before a
closing parenthesis. -/
theorem ofText_append {front rest : List Char} (closes : ClosesQuotes front)
    (apart : NothingAttached rest) :
    ofText (front ++ rest) = (ofText front).dropLast ++ ofText rest := by
  obtain ⟨pieces, rfl, stand⟩ := Piece.exists_stand front
  obtain ⟨later, rfl, laterStand⟩ := Piece.exists_stand rest
  rw [← Piece.text_append, Piece.ofText_text (stand.append closes apart laterStand),
    Piece.ofText_text stand, Piece.ofText_text laterStand, List.dropLast_concat,
    Piece.tokens_append, List.append_assoc]

end SearchQuery.Token
