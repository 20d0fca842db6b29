import SearchQuery.Proofs.Token.Reader

/-!
# Writing tokens as a query

`WellFormed` describes the token lists that are read from queries without saying how
they are read: what a quoted value and a bare word may hold, and that the end marker
stands at the end only. Every query is read as such a list, and every such list is read
back from the query that `render` writes, with single spaces between the tokens.
-/

namespace SearchQuery.Token

/-- The words that keywords are spelled with, in any ASCII case. -/
def keywords : List (List Char) :=
  [['a', 'n', 'd'], ['o', 'r'], ['n', 'o', 't']]

/-- What a word is made of, so that it is read neither as several tokens nor as a token
of another kind. -/
structure IsBareWord (word : List Char) : Prop where
  nonempty : word ≠ []
  plain : ∀ c ∈ word, Text.isWhiteSpace c = false ∧ c ≠ '(' ∧ c ≠ ')' ∧ c ≠ '"'
  start : ∀ c ∈ word.head?, c ≠ '-' ∧ c ≠ '<' ∧ c ≠ '>' ∧ c ≠ '='
  noKeyword : ∀ keyword ∈ keywords, Text.sameIgnoringAsciiCase word keyword = false
  noFilter : ¬ StartsFilter word

/-- The tokens that can stand before the end marker. -/
def IsReadable : Token → Prop
  | .word value => IsBareWord value.toList
  | .phrase value => '"' ∉ value.toList
  | .filter _ _ value => '"' ∉ value.toList
  | .endOfQuery => False
  | _ => True

/-- The token lists with the end marker at the end, and readable tokens before it. -/
def WellFormed (tokens : List Token) : Prop :=
  ∃ body, tokens = body ++ [.endOfQuery] ∧ ∀ token ∈ body, token.IsReadable

/-- How a token is written. The dash stands before another, to which it is attached,
and the end marker is not written. -/
def text : Token → String
  | .word value => value
  | .phrase value => "\"" ++ value ++ "\""
  | .filter field comparison value =>
      field.text ++ ":" ++ comparison.symbol ++ "\"" ++ value ++ "\""
  | .operator comparison => comparison.symbol
  | .and => "AND"
  | .or => "OR"
  | .not => "NOT"
  | .minus => "--"
  | .openGroup => "("
  | .closeGroup => ")"
  | .endOfQuery => ""

/-- The query in which the tokens before the end marker are written with single spaces
between them. -/
def render (tokens : List Token) : String :=
  " ".intercalate ((tokens.takeWhile (· != .endOfQuery)).map text)

/-! ## What is read is well formed -/

/-- A run is read as a keyword, or it is a bare word. -/
theorem isReadable_ofWord {run : List Char} (isRun : IsRun run) : (ofWord run).IsReadable := by
  unfold ofWord
  split
  · trivial
  split
  · trivial
  split
  · trivial
  · rename_i notAnd notOr notNot
    rw [IsReadable, String.toList_ofList]
    refine ⟨isRun.nonempty, ?_, ?_, ?_, isRun.noFilter⟩
    · exact fun c mem => isWordChar_iff.mp (isRun.wordChars c mem)
    · exact fun c first => (isWordStart_iff.mp (isRun.start c first)).2
    · simp [keywords, notAnd, notOr, notNot]

theorem isReadable_of_read (c : Char) (rest : List Char) :
    ∀ token ∈ (read c rest).1, token.IsReadable := by
  refine readCases (motive := fun _ _ result => ∀ token ∈ result.1, token.IsReadable)
    ?space ?openGroup ?closeGroup ?quoted ?dash ?minus ?operator ?filter ?word c rest
  case space | dash =>
    intros
    contradiction
  case openGroup | closeGroup =>
    rintro rest token ⟨⟩
    trivial
  case minus =>
    rintro next rest _ _ token ⟨⟩
    trivial
  case operator =>
    rintro c rest symbol after _ token ⟨⟩
    trivial
  case quoted =>
    rintro rest token ⟨⟩
    rw [IsReadable, String.toList_ofList]
    exact quote_notMem_readQuoted rest
  case filter =>
    rintro c rest token after _ found _ ⟨⟩
    obtain ⟨field, comparison, value, rfl, noQuote⟩ := exists_of_readFilter? found
    rwa [IsReadable, String.toList_ofList]
  case word =>
    rintro c rest start noFilter token ⟨⟩
    exact isReadable_ofWord (isRun_takeWhile start noFilter)

theorem wellFormed_ofText (text : List Char) : WellFormed (ofText text) := by
  induction text using readingInduction with
  | nil => exact ⟨[], by simp, by simp⟩
  | step c rest ih =>
      obtain ⟨body, later, readable⟩ := ih
      refine ⟨(read c rest).1.toList ++ body, ?_, ?_⟩
      · rw [ofText_cons, later, List.append_assoc]
      · intro token mem
        rcases List.mem_append.mp mem with first | mem
        · exact isReadable_of_read c rest token (Option.mem_toList.mp first)
        · exact readable token mem

/-! ## What is written is read back -/

/-- A bare word is no keyword. -/
theorem ofWord_of_isBareWord {word : List Char} (bare : IsBareWord word) :
    ofWord word = .word (String.ofList word) := by
  have noKeyword := bare.noKeyword
  simp only [keywords, List.forall_mem_cons] at noKeyword
  obtain ⟨notAnd, notOr, notNot, _⟩ := noKeyword
  simp [ofWord, notAnd, notOr, notNot]

theorem IsBareWord.isRun {word : List Char} (bare : IsBareWord word) : IsRun word := by
  refine ⟨bare.nonempty, ?_, ?_, bare.noFilter⟩
  · exact fun c mem => isWordChar_iff.mpr (bare.plain c mem)
  · intro c first
    refine isWordStart_iff.mpr ⟨?_, bare.start c first⟩
    exact isWordChar_iff.mpr (bare.plain c (List.mem_of_head? first))

/-- The keyword that a text spells in some ASCII case is read. -/
theorem ofWord_of_spells {token : Token} {source : List Char}
    (isKeyword : token ∈ [.and, .or, .not])
    (spells : Text.sameIgnoringAsciiCase token.text.toList source = true) :
    ofWord source = token := by
  rw [Text.sameIgnoringAsciiCase_iff] at spells
  simp only [List.mem_cons, List.not_mem_nil, or_false] at isKeyword
  unfold ofWord Text.sameIgnoringAsciiCase
  rw [← spells]
  rcases isKeyword with rfl | rfl | rfl <;> rfl

theorem isRun_of_spells {token : Token} {source : List Char}
    (isKeyword : token ∈ [.and, .or, .not])
    (spells : Text.sameIgnoringAsciiCase token.text.toList source = true) : IsRun source := by
  have letters : ∀ c ∈ source, isFieldNameChar c = true := by
    intro c mem
    simp only [List.mem_cons, List.not_mem_nil, or_false] at isKeyword
    rcases isKeyword with rfl | rfl | rfl
    all_goals exact isFieldNameChar_of_spells (by decide) spells mem
  refine ⟨?_, ?_, ?_, ?_⟩
  · rintro rfl
    simp only [List.mem_cons, List.not_mem_nil, or_false] at isKeyword
    rcases isKeyword with rfl | rfl | rfl
    all_goals exact absurd spells (by decide)
  · exact fun c mem => isWordChar_of_isFieldNameChar (letters c mem)
  · exact fun c first => isWordStart_of_isFieldNameChar (letters c (List.mem_of_head? first))
  · rintro ⟨field, name, rest, _, rfl⟩
    exact absurd (letters ':' (by simp)) (by decide)

/-- A keyword is read in any ASCII case where its word ends. -/
theorem ofText_of_spells {token : Token} {source rest : List Char}
    (isKeyword : token ∈ [.and, .or, .not])
    (spells : Text.sameIgnoringAsciiCase token.text.toList source = true)
    (stops : Stops isWordChar rest) : ofText (source ++ rest) = token :: ofText rest := by
  rw [ofText_run (isRun_of_spells isKeyword spells) stops, ofWord_of_spells isKeyword spells]

/-- A space ends a keyword. -/
theorem ofText_keyword {token : Token} (isKeyword : token ∈ [.and, .or, .not])
    (rest : List Char) : ofText (token.text.toList ++ ' ' :: rest) = token :: ofText rest := by
  have spells := Text.sameIgnoringAsciiCase_iff.mpr (Eq.refl (token.text.toList.map Char.toLower))
  rw [ofText_of_spells isKeyword spells (stops_cons.mpr (by decide)), ofText_space]

section Written

variable {rest : List Char} (separated : Stops (· != ' ') rest)
include separated

/-- A space ends every run that has no space in it. -/
theorem stops_of_separated {admits : Char → Bool} (noSpace : admits ' ' = false) :
    Stops admits rest := by
  intro c first
  have isSpace : c = ' ' := by simpa using separated c first
  rw [isSpace]
  exact noSpace

/-- A written token is read back where a space or the end follows. -/
theorem ofText_text {token : Token} (readable : token.IsReadable) :
    ofText (token.text.toList ++ rest) = token :: ofText rest := by
  have endsWord : Stops isWordChar rest := stops_of_separated separated (by decide)
  cases token with
  | word value =>
      rw [text, ofText_run (IsBareWord.isRun readable) endsWord, ofWord_of_isBareWord readable,
        String.ofList_toList]
  | phrase value =>
      have read := ofText_phrase rest readable
      simpa [text] using read
  | filter field comparison value =>
      have read := ofText_filter rest field comparison readable
      simpa [text] using read
  | operator comparison =>
      exact ofText_operator comparison (stops_of_separated separated (by decide))
  | and => exact ofText_of_spells (by decide) (by decide) endsWord
  | or => exact ofText_of_spells (by decide) (by decide) endsWord
  | not => exact ofText_of_spells (by decide) (by decide) endsWord
  | minus =>
      apply ofText_minus
      intro next first
      have isSpace : next = ' ' := by simpa using separated next first
      rw [isSpace]
      exact .inl (by decide)
  | openGroup => exact ofText_opening rest
  | closeGroup => exact ofText_closing rest
  | endOfQuery => contradiction

end Written

/-- Readable tokens that are written with spaces between them are read back. -/
theorem ofText_intercalate {body : List Token} (readable : ∀ token ∈ body, token.IsReadable) :
    ofText ([' '].intercalate (body.map (·.text.toList))) = body ++ [.endOfQuery] := by
  induction body with
  | nil => simp
  | cons token others ih =>
      have first := readable token List.mem_cons_self
      have later := ih fun other mem => readable other (List.mem_cons_of_mem token mem)
      cases others with
      | nil => simpa using ofText_text (stops_nil _) first
      | cons next others =>
          rw [List.map_cons, List.map_cons, List.intercalate_cons_cons, List.append_assoc,
            ofText_text (by simp) first, List.singleton_append, ofText_space]
          exact congrArg (token :: ·) later

theorem takeWhile_ne_endOfQuery {body : List Token}
    (readable : ∀ token ∈ body, token.IsReadable) :
    (body ++ [endOfQuery]).takeWhile (· != endOfQuery) = body := by
  rw [List.takeWhile_append_of_pos]
  · simp
  · intro token mem
    rw [bne_iff_ne]
    rintro rfl
    exact readable _ mem

theorem ofQuery_render {tokens : List Token} (wellFormed : WellFormed tokens) :
    ofQuery (render tokens) = tokens := by
  obtain ⟨body, rfl, readable⟩ := wellFormed
  rw [ofQuery, render, takeWhile_ne_endOfQuery readable, String.toList_intercalate, List.map_map]
  exact ofText_intercalate readable

/-- Queries are read exactly as the well-formed token lists, and each of these is read
from the query that it is written as. -/
theorem wellFormed_ofQuery_and_ofQuery_render :
    (∀ query, WellFormed (ofQuery query)) ∧
      ∀ tokens, WellFormed tokens → ofQuery (render tokens) = tokens :=
  ⟨fun query => wellFormed_ofText query.toList, fun _ => ofQuery_render⟩

/-- A word that starts like a filter, another that starts like a keyword, a filter whose
value starts like an operator and a phrase that spells a keyword are read as what they
are. -/
theorem ofQuery_render_of_words_near_other_tokens :
    let tokens : List Token :=
      [.minus, .word "named:<=x", .minus, .closeGroup, .operator (.ordering .less),
        .operator .equal, .word "android", .filter .created .equal ">= 2024 (UTC", .or,
        .phrase "NOT", .endOfQuery]
    WellFormed tokens ∧ ofQuery (render tokens) = tokens := by
  intro tokens
  have named : IsBareWord "named:<=x".toList := by
    refine ⟨by decide, ?_, ?_, by decide, readFilter?_eq_none_iff.mp rfl⟩
    · exact fun c mem => isWordChar_iff.mp (List.all_eq_true.mp (by decide) c mem)
    · rintro c ⟨⟩
      decide
  have android : IsBareWord "android".toList := by
    refine ⟨by decide, ?_, ?_, by decide, readFilter?_eq_none_iff.mp rfl⟩
    · exact fun c mem => isWordChar_iff.mp (List.all_eq_true.mp (by decide) c mem)
    · rintro c ⟨⟩
      decide
  have date : '"' ∉ ">= 2024 (UTC".toList := by decide
  have phrase : '"' ∉ "NOT".toList := by decide
  have wellFormed : WellFormed tokens := by
    refine ⟨tokens.dropLast, rfl, ?_⟩
    simp only [tokens, List.dropLast, List.forall_mem_cons, List.not_mem_nil, false_imp_iff,
      implies_true, and_true]
    exact ⟨trivial, named, trivial, trivial, trivial, trivial, android, date, trivial, phrase⟩
  exact ⟨wellFormed, wellFormed_ofQuery_and_ofQuery_render.2 tokens wellFormed⟩

end SearchQuery.Token
