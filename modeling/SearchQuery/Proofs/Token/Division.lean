import SearchQuery.Proofs.Token.Rendering

/-!
# Queries in pieces

A query is divided into pieces, one behind the other, so that no character is left out: white
space, dashes with nothing attached, and the source texts of tokens. `IsPiece` lists what a
piece can be by its own text and by what follows it, and says nothing about how pieces are
found. Every query has exactly one division into pieces, and it is read as the tokens that the
pieces stand for.
-/

namespace SearchQuery.Token

/-! ## Source texts -/

/-- Whether an operator starts with a character. -/
def isOperatorStart (c : Char) : Bool :=
  c == '<' || c == '>' || c == '='

/-- The source text of a value in quotes, by what follows it. The closing quote may be missing
only at the end of the query. -/
inductive IsQuoted (value : List Char) : (source rest : List Char) → Prop
  | closed (noQuote : '"' ∉ value) (rest : List Char) :
      IsQuoted value ('"' :: (value ++ ['"'])) rest
  | unclosed (noQuote : '"' ∉ value) : IsQuoted value ('"' :: value) []

/-- The source text of the value of a filter. A bare value extends as far as word characters do,
and no quote follows an empty one. -/
inductive IsValue (value : List Char) : (source rest : List Char) → Prop
  | quoted {source rest : List Char} (isQuoted : IsQuoted value source rest) :
      IsValue value source rest
  | bare {rest : List Char} (wordChars : ∀ c ∈ value, isWordChar c = true)
      (stops : Stops isWordChar rest) (unquoted : value = [] → Stops (· == '"') rest) :
      IsValue value value rest

/-- The source text of the operator of a filter. Equality may be left out. -/
inductive IsComparison : (operator : Operator) → (source rest : List Char) → Prop
  | written {operator : Operator} {rest : List Char} (longest : IsLongest operator rest) :
      IsComparison operator operator.symbol.toList rest
  | omitted {rest : List Char} (stops : Stops isOperatorStart rest) : IsComparison .equal [] rest

/-- The source text of a filter: the name of a field in any ASCII case, a colon, an operator and
a value. -/
inductive IsFilter : (token : Token) → (source rest : List Char) → Prop
  | intro {field : Field} {operator : Operator} {value name symbol source rest : List Char}
      (spells : Text.sameIgnoringAsciiCase field.text.toList name = true)
      (isComparison : IsComparison operator symbol (source ++ rest))
      (isValue : IsValue value source rest) :
      IsFilter (.filter field operator (String.ofList value)) (name ++ ':' :: (symbol ++ source)) rest

/-- The source text of a piece of a query, by the token that it stands for, if any, and by what
follows it. -/
inductive IsPiece : (token : Option Token) → (source rest : List Char) → Prop
  | space {c : Char} (isSpace : Text.isWhiteSpace c = true) (rest : List Char) :
      IsPiece none [c] rest
  | dash {rest : List Char} (alone : NothingAttached rest) : IsPiece none ['-'] rest
  | minus {rest : List Char} (attached : ¬ NothingAttached rest) : IsPiece (some .minus) ['-'] rest
  | openGroup (rest : List Char) : IsPiece (some .openGroup) ['('] rest
  | closeGroup (rest : List Char) : IsPiece (some .closeGroup) [')'] rest
  | operator {operator : Operator} {rest : List Char} (longest : IsLongest operator rest) :
      IsPiece (some (.operator operator)) operator.symbol.toList rest
  | phrase {value source rest : List Char} (isQuoted : IsQuoted value source rest) :
      IsPiece (some (.phrase (String.ofList value))) source rest
  | filter {token : Token} {source rest : List Char} (isFilter : IsFilter token source rest) :
      IsPiece (some token) source rest
  | keyword {token : Token} {source rest : List Char} (isKeyword : token ∈ [.and, .or, .not])
      (spells : Text.sameIgnoringAsciiCase token.text.toList source = true)
      (stops : Stops isWordChar rest) : IsPiece (some token) source rest
  | word {source rest : List Char} (bare : IsBareWord source) (stops : Stops isWordChar rest) :
      IsPiece (some (.word (String.ofList source))) source rest

/-! ## Readers and source texts -/

section Readers

variable {text rest : List Char}

theorem readOperator?_eq_none_iff_stops :
    readOperator? text = none ↔ Stops isOperatorStart text := by
  cases text with
  | nil => simp [readOperator?]
  | cons c others =>
      rw [readOperator?_eq_none_iff, stops_cons]
      simp [isOperatorStart, and_assoc]

theorem readQuoted_eq_iff_isQuoted {value : List Char} :
    readQuoted text = (value, rest) ↔ ∃ source, IsQuoted value source rest ∧
      '"' :: text = source ++ rest := by
  rw [readQuoted_eq_iff]
  constructor
  · rintro ⟨noQuote, rfl | ⟨rfl, rfl⟩⟩
    · exact ⟨_, .closed noQuote rest, by simp⟩
    · exact ⟨_, .unclosed noQuote, by simp⟩
  · rintro ⟨source, isQuoted, whole⟩
    cases isQuoted with
    | closed noQuote rest => exact ⟨noQuote, .inl (by simpa using whole)⟩
    | unclosed noQuote => exact ⟨noQuote, .inr ⟨by simpa using whole, rfl⟩⟩

/-- Without a quote in front, a value is a run of word characters. -/
theorem readValue_of_stops (unquoted : Stops (· == '"') text) :
    readValue text = (text.takeWhile isWordChar, text.dropWhile isWordChar) := by
  unfold readValue
  split
  · simp at unquoted
  · rfl

theorem readValue_eq_iff {value : List Char} :
    readValue text = (value, rest) ↔ ∃ source, IsValue value source rest ∧
      text = source ++ rest := by
  constructor
  · intro read
    by_cases opens : ∃ later, text = '"' :: later
    · obtain ⟨later, rfl⟩ := opens
      obtain ⟨source, isQuoted, whole⟩ := readQuoted_eq_iff_isQuoted.mp read
      exact ⟨source, .quoted isQuoted, whole⟩
    · have unquoted : Stops (· == '"') text := stops_beq_iff.mpr (not_exists.mp opens)
      rw [readValue_of_stops unquoted] at read
      obtain ⟨rfl, rfl⟩ := Prod.mk.inj read
      have whole := List.takeWhile_append_dropWhile (p := isWordChar) (l := text)
      refine ⟨_, .bare (fun _ => List.mem_takeWhile_imp) (stops_dropWhile isWordChar text) ?_,
        whole.symm⟩
      intro empty
      rw [empty, List.nil_append] at whole
      rwa [whole]
  · rintro ⟨source, isValue, rfl⟩
    cases isValue with
    | quoted isQuoted =>
        obtain ⟨later, opens⟩ : ∃ later, source ++ rest = '"' :: later := by
          cases isQuoted <;> exact ⟨_, rfl⟩
        rw [opens, readValue]
        exact readQuoted_eq_iff_isQuoted.mpr ⟨source, isQuoted, opens.symm⟩
    | bare wordChars stops unquoted =>
        have front : Stops (· == '"') (value ++ rest) := by
          cases value with
          | nil => exact unquoted rfl
          | cons c others =>
              have plain := (isWordChar_iff.mp (wordChars c List.mem_cons_self)).2.2.2
              simpa using plain
        rw [readValue_of_stops front, takeWhile_append_of_stops wordChars stops,
          dropWhile_append_of_stops wordChars stops]

theorem readComparison_eq_iff {operator : Operator} :
    (readOperator? text).getD (.equal, text) = (operator, rest) ↔
      ∃ symbol, IsComparison operator symbol rest ∧ text = symbol ++ rest := by
  constructor
  · intro read
    cases found : readOperator? text with
    | none =>
        rw [found] at read
        obtain ⟨rfl, rfl⟩ := Prod.mk.inj read
        exact ⟨[], .omitted (readOperator?_eq_none_iff_stops.mp found), rfl⟩
    | some result =>
        obtain rfl : result = (operator, rest) := by simpa [found] using read
        obtain ⟨whole, longest⟩ := readOperator?_eq_some_iff.mp found
        exact ⟨_, .written longest, whole⟩
  · rintro ⟨symbol, isComparison, rfl⟩
    cases isComparison with
    | written longest =>
        rw [readOperator?_eq_some_iff.mpr ⟨rfl, longest⟩]
        rfl
    | omitted stops =>
        rw [List.nil_append, readOperator?_eq_none_iff_stops.mpr stops]
        rfl

theorem readFilter?_eq_some_iff {token : Token} :
    readFilter? text = some (token, rest) ↔ ∃ source, IsFilter token source rest ∧
      text = source ++ rest := by
  constructor
  · intro found
    unfold readFilter? at found
    split at found
    · rename_i afterColon colonNext
      obtain ⟨field, named, read⟩ := Option.map_eq_some_iff.mp found
      obtain ⟨rfl, valueRead⟩ := Prod.mk.inj read
      obtain ⟨symbol, isComparison, afterName⟩ := readComparison_eq_iff.mp (Prod.eta _).symm
      obtain ⟨source, isValue, afterSymbol⟩ := readValue_eq_iff.mp (Prod.eta _).symm
      rw [valueRead] at isValue afterSymbol
      rw [afterSymbol] at isComparison afterName
      refine ⟨_, .intro (ofName?_eq_some_iff.mp named) isComparison isValue, ?_⟩
      rw [List.append_assoc, List.cons_append, List.append_assoc, ← afterName, ← colonNext,
        List.takeWhile_append_dropWhile]
    · contradiction
  · rintro ⟨source, isFilter, rfl⟩
    cases isFilter with
    | @intro field operator value name symbol source _ spells isComparison isValue =>
        have inside := fun c mem => isFieldNameChar_of_mem (c := c) spells mem
        have stops := stops_isFieldNameChar_colon (symbol ++ (source ++ rest))
        have comparison := readComparison_eq_iff.mpr ⟨symbol, isComparison, rfl⟩
        have valueRead := readValue_eq_iff.mpr ⟨source, isValue, rfl⟩
        rw [List.append_assoc, List.cons_append, List.append_assoc, readFilter?,
          dropWhile_append_of_stops inside stops, takeWhile_append_of_stops inside stops]
        simp only [ofName?_eq_some_iff.mpr spells, Option.map_some, comparison, valueRead]

end Readers

/-! ## One piece -/

/-- What is read as a whole is a keyword or a bare word. -/
theorem isPiece_ofWord {run rest : List Char} (isRun : IsRun run) (stops : Stops isWordChar rest) :
    IsPiece (some (ofWord run)) run rest := by
  have keyword {token : Token} (isKeyword : token ∈ [.and, .or, .not])
      (spells : run.map Char.toLower = token.text.toList.map Char.toLower) :
      IsPiece (some token) run rest :=
    .keyword isKeyword (Text.sameIgnoringAsciiCase_iff.mpr spells.symm) stops
  have readable := isReadable_ofWord isRun
  unfold ofWord at readable ⊢
  split at readable
  · rename_i isAnd
    rw [if_pos isAnd]
    exact keyword (by decide) (Text.sameIgnoringAsciiCase_iff.mp isAnd)
  rename_i notAnd
  rw [if_neg notAnd]
  split at readable
  · rename_i isOr
    rw [if_pos isOr]
    exact keyword (by decide) (Text.sameIgnoringAsciiCase_iff.mp isOr)
  rename_i notOr
  rw [if_neg notOr]
  split at readable
  · rename_i isNot
    rw [if_pos isNot]
    exact keyword (by decide) (Text.sameIgnoringAsciiCase_iff.mp isNot)
  · rename_i notNot
    rw [if_neg notNot]
    rw [IsReadable, String.toList_ofList] at readable
    exact .word readable stops

/-- A piece is read as the token that it stands for. -/
theorem IsPiece.takes {token : Option Token} {source rest : List Char}
    (isPiece : IsPiece token source rest) : Takes token source rest := by
  cases isPiece with
  | space isSpace => exact takes_space isSpace rest
  | dash alone => exact takes_dash alone
  | minus attached => exact takes_minus attached
  | openGroup => exact takes_opening rest
  | closeGroup => exact takes_closing rest
  | operator longest => exact takes_operator longest
  | phrase isQuoted =>
      obtain ⟨quoted, rfl⟩ : ∃ quoted, source = '"' :: quoted := by
        cases isQuoted <;> exact ⟨_, rfl⟩
      exact takes_phrase (readQuoted_eq_iff_isQuoted.mpr ⟨_, isQuoted, rfl⟩)
  | filter isFilter => exact takes_filter (readFilter?_eq_some_iff.mpr ⟨source, isFilter, rfl⟩)
  | keyword isKeyword spells stops =>
      have run := takes_run (isRun_of_spells isKeyword spells) stops
      rwa [ofWord_of_spells isKeyword spells] at run
  | word bare stops =>
      have run := takes_run bare.isRun stops
      rwa [ofWord_of_isBareWord bare] at run

/-- What is read at the front of a text is a piece of it. -/
theorem exists_isPiece (c : Char) (rest : List Char) :
    ∃ source, IsPiece (read c rest).1 source (read c rest).2 ∧
      c :: rest = source ++ (read c rest).2 := by
  refine readCases (motive := fun c rest result =>
      ∃ source, IsPiece result.1 source result.2 ∧ c :: rest = source ++ result.2)
    ?space ?openGroup ?closeGroup ?quoted ?dash ?minus ?operator ?filter ?word c rest
  case space => exact fun c rest isSpace => ⟨[c], .space isSpace rest, rfl⟩
  case openGroup => exact fun rest => ⟨_, .openGroup rest, rfl⟩
  case closeGroup => exact fun rest => ⟨_, .closeGroup rest, rfl⟩
  case dash => exact fun rest alone => ⟨_, .dash alone, rfl⟩
  case quoted =>
    intro rest
    obtain ⟨source, isQuoted, whole⟩ := readQuoted_eq_iff_isQuoted.mp (Prod.eta _).symm
    exact ⟨source, .phrase isQuoted, whole⟩
  case minus =>
    intro next rest notSpace notClosing
    refine ⟨_, .minus ?_, rfl⟩
    rw [nothingAttached_cons, notSpace]
    simpa using notClosing
  case operator =>
    intro c rest symbol after found
    obtain ⟨whole, longest⟩ := readOperator?_eq_some_iff.mp found
    exact ⟨_, .operator longest, whole⟩
  case filter =>
    intro c rest token after _ found
    obtain ⟨source, isFilter, whole⟩ := readFilter?_eq_some_iff.mp found
    exact ⟨source, .filter isFilter, whole⟩
  case word =>
    intro c rest start noFilter
    refine ⟨_, isPiece_ofWord (isRun_takeWhile start noFilter) (stops_dropWhile _ _), ?_⟩
    rw [List.cons_append, List.takeWhile_append_dropWhile]

/-! ## Divisions of a query -/

/-- A piece of a query and the token that it stands for, if any. -/
structure Piece where
  source : List Char
  token : Option Token

namespace Piece

/-- The text of pieces one behind the other. -/
def text (pieces : List Piece) : List Char :=
  pieces.flatMap (·.source)

/-- The tokens that pieces stand for. -/
def tokens (pieces : List Piece) : List Token :=
  pieces.filterMap (·.token)

/-- Every piece may stand before the text of the pieces behind it. -/
def Stand : List Piece → Prop
  | [] => True
  | piece :: later => IsPiece piece.token piece.source (text later) ∧ Stand later

@[simp]
theorem text_cons (piece : Piece) (later : List Piece) :
    text (piece :: later) = piece.source ++ text later :=
  rfl

theorem text_append (pieces later : List Piece) :
    text (pieces ++ later) = text pieces ++ text later :=
  List.flatMap_append

theorem tokens_append (pieces later : List Piece) :
    tokens (pieces ++ later) = tokens pieces ++ tokens later :=
  List.filterMap_append

/-- The pieces of a text are read one after the other. -/
theorem ofText_text {pieces : List Piece} (stand : Stand pieces) :
    ofText (text pieces) = tokens pieces ++ [.endOfQuery] := by
  induction pieces with
  | nil => exact ofText_nil
  | cons piece later ih =>
      obtain ⟨isPiece, others⟩ := stand
      rw [text_cons, isPiece.takes.ofText, ih others]
      cases token : piece.token with
      | none => simp [tokens, token]
      | some token => simp [tokens, token]

/-- A text is divided without leaving a character out. -/
theorem exists_stand (query : List Char) : ∃ pieces, text pieces = query ∧ Stand pieces := by
  induction query using readingInduction with
  | nil => exact ⟨[], rfl, trivial⟩
  | step c rest ih =>
      obtain ⟨later, whole, stand⟩ := ih
      obtain ⟨source, isPiece, divided⟩ := exists_isPiece c rest
      refine ⟨⟨source, (read c rest).1⟩ :: later, ?_, ?_, stand⟩
      · rw [text_cons, whole, divided]
      · rw [whole]
        exact isPiece

/-- A text is divided in one way only. -/
theorem Stand.unique {pieces others : List Piece} (stand : Stand pieces)
    (othersStand : Stand others) (same : text pieces = text others) : pieces = others := by
  induction pieces generalizing others with
  | nil =>
      cases others with
      | nil => rfl
      | cons other later =>
          exact absurd (List.append_eq_nil_iff.mp same.symm).1 othersStand.1.takes.source_ne_nil
  | cons piece later ih =>
      cases others with
      | nil => exact absurd (List.append_eq_nil_iff.mp same).1 stand.1.takes.source_ne_nil
      | cons other otherLater =>
          obtain ⟨sameToken, sameSource, sameLater⟩ := stand.1.takes.unique othersStand.1.takes same
          obtain ⟨source, token⟩ := piece
          obtain rfl : source = other.source := sameSource
          obtain rfl : token = other.token := sameToken
          rw [ih stand.2 othersStand.2 sameLater]

end Piece

/-- Every query is divided into pieces in exactly one way, which leaves out no character, and it
is read as the tokens of its pieces and the end marker. -/
theorem ofQuery_divides (query : String) :
    ∃ pieces : List Piece, Piece.text pieces = query.toList ∧ Piece.Stand pieces ∧
      ofQuery query = Piece.tokens pieces ++ [.endOfQuery] ∧
      ∀ others, Piece.text others = query.toList → Piece.Stand others → others = pieces := by
  obtain ⟨pieces, whole, stand⟩ := Piece.exists_stand query.toList
  refine ⟨pieces, whole, stand, ?_, ?_⟩
  · rw [ofQuery, ← whole, Piece.ofText_text stand]
  · intro others othersWhole othersStand
    exact othersStand.unique stand (othersWhole.trans whole.symm)

/-- A lone dash, a word that starts like a keyword, and a filter whose quote is never closed are
the pieces of a query. -/
theorem ofQuery_divides_before_unclosed_quote :
    let pieces : List Piece :=
      [⟨['-'], none⟩, ⟨[' '], none⟩, ⟨"NoT-x".toList, some (.word "NoT-x")⟩, ⟨[' '], none⟩,
        ⟨"TAG:<\"a )".toList, some (.filter .tag (.ordering .less) "a )")⟩]
    Piece.text pieces = "- NoT-x TAG:<\"a )".toList ∧ Piece.Stand pieces ∧
      ofQuery "- NoT-x TAG:<\"a )" =
        [.word "NoT-x", .filter .tag (.ordering .less) "a )", .endOfQuery] := by
  intro pieces
  have whole : Piece.text pieces = "- NoT-x TAG:<\"a )".toList := by decide
  have bare : IsBareWord "NoT-x".toList := by
    refine ⟨by decide, ?_, ?_, by decide, readFilter?_eq_none_iff.mp rfl⟩
    · exact fun c mem => isWordChar_iff.mp (List.all_eq_true.mp (by decide) c mem)
    · rintro c ⟨⟩
      decide
  have word : IsPiece (some (.word "NoT-x")) "NoT-x".toList " TAG:<\"a )".toList :=
    .word bare (stops_cons.mpr (by decide))
  have filter : IsPiece (some (.filter .tag (.ordering .less) "a )")) "TAG:<\"a )".toList [] := by
    have quoted : IsQuoted "a )".toList "\"a )".toList [] := .unclosed (by decide)
    have symbol : IsComparison (.ordering .less) ['<'] "\"a )".toList :=
      .written fun _ => stops_cons.mpr (by decide)
    exact .filter (@IsFilter.intro .tag _ _ "TAG".toList _ _ _ (by decide) symbol (.quoted quoted))
  have stand : Piece.Stand pieces :=
    ⟨.dash (nothingAttached_cons.mpr (.inl (by decide))), .space (by decide) _, word,
      .space (by decide) _, filter, trivial⟩
  obtain ⟨others, _, _, read, only⟩ := ofQuery_divides "- NoT-x TAG:<\"a )"
  refine ⟨whole, stand, ?_⟩
  rw [read, ← only pieces whole stand]
  rfl

end SearchQuery.Token
