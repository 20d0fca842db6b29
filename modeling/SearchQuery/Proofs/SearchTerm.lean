import SearchQuery.Proofs.Interchange
import SearchQuery.Proofs.Sql.Lowering
import SearchQuery.Proofs.Text.WhiteSpace

/-!
# The term in a value

To take the quotes out of a value may bare white space at its ends, and to trim it may bare quotes.
What is left in the end is still the value without its quotes, trimmed once
(`stripQuotes_eq_trim`), and it is its own term. So neither quotes anywhere in a value nor white
space around it make a difference to what is searched for.
-/

namespace SearchQuery

open Text

/-- The quotes that no term keeps. -/
def quotes : List Char :=
  ['"', '\u201C', '\u201D', '\u2018', '\u2019']

/-- Whether a character may stand around a term in a value. -/
def isPadding (c : Char) : Bool :=
  isQuote c || isWhiteSpace c

/-! ## Padding -/

section Padding

variable {c : Char} {text : List Char}

theorem isQuote_iff_mem : isQuote c = true ↔ c ∈ quotes := by
  simp [isQuote, quotes, or_assoc]

theorem isPadding_of_isQuote (quote : isQuote c = true) : isPadding c = true := by
  rw [isPadding, quote, Bool.true_or]

theorem isPadding_of_isWhiteSpace (space : isWhiteSpace c = true) : isPadding c = true := by
  rw [isPadding, space, Bool.or_true]

theorem isPadding_eq_false_iff : isPadding c = false ↔ isQuote c = false ∧ isWhiteSpace c = false :=
  Bool.or_eq_false_iff

theorem not_isQuote_of_isPadding_eq_false (solid : isPadding c = false) : (!isQuote c) = true := by
  rw [(isPadding_eq_false_iff.mp solid).1]
  rfl

/-- What holds of the five quotes is computed on them. -/
theorem isQuote_cases {motive : Char → Prop} [DecidablePred motive]
    (listed : quotes.all (fun c => decide (motive c)) = true) (quote : isQuote c = true) :
    motive c :=
  of_decide_eq_true (List.all_eq_true.mp listed c (isQuote_iff_mem.mp quote))

theorem isQuote_of_isWhiteSpace (space : isWhiteSpace c = true) : isQuote c = false := by
  rw [Bool.eq_false_iff]
  intro quote
  have noSpace : ¬ isWhiteSpace c = true :=
    isQuote_cases (motive := fun c => ¬ isWhiteSpace c = true) (by decide) quote
  exact noSpace space

theorem isPadding_of_isAlphanumeric (alphanumeric : isAlphanumeric c = true) :
    isPadding c = false := by
  rw [isPadding_eq_false_iff, Bool.eq_false_iff, Bool.eq_false_iff]
  constructor
  · intro quote
    have other : ¬ isAlphanumeric c = true :=
      isQuote_cases (motive := fun c => ¬ isAlphanumeric c = true) (by decide +kernel) quote
    exact other alphanumeric
  · intro space
    have none : alphanumericRanges.contains c.toNat = false :=
      isWhiteSpace_cases (motive := fun code => alphanumericRanges.contains code = false)
        (by decide +kernel) space
    exact absurd alphanumeric (Bool.eq_false_iff.mp none)

end Padding

/-! ## Without quotes -/

section Strip

variable {c : Char} {text before after : List Char}

/-- To trim before the quotes are taken out makes no difference. -/
theorem stripQuotes_eq_trim (text : List Char) :
    stripQuotes text = trim (text.filter fun c => !isQuote c) := by
  obtain ⟨before, after, trimmed, beforeSpace, afterSpace⟩ :=
    exists_eq_append_stripEnds isWhiteSpace text
  have keepsSpace {part : List Char} (space : ∀ c ∈ part, isWhiteSpace c = true) :
      part.filter (fun c => !isQuote c) = part := by
    rw [List.filter_eq_self]
    intro c mem
    rw [isQuote_of_isWhiteSpace (space c mem)]
    rfl
  conv_rhs => rw [trimmed, List.filter_append, List.filter_append, keepsSpace beforeSpace,
    keepsSpace afterSpace]
  exact (stripEnds_append beforeSpace afterSpace).symm

/-- The term in a value is what stands between the quotes and the white space at its ends,
without the quotes in it. -/
theorem stripQuotes_eq (text : List Char) :
    stripQuotes text = (stripEnds isPadding text).filter fun c => !isQuote c := by
  obtain ⟨before, after, stripped, beforePadding, afterPadding⟩ :=
    exists_eq_append_stripEnds isPadding text
  have leavesSpace {part : List Char} (padding : ∀ c ∈ part, isPadding c = true) :
      ∀ c ∈ part.filter (fun c => !isQuote c), isWhiteSpace c = true := by
    intro c mem
    rw [List.mem_filter, Bool.not_eq_true'] at mem
    have isPadded := padding c mem.1
    rwa [isPadding, mem.2, Bool.false_or] at isPadded
  have free : IsTrimmed ((stripEnds isPadding text).filter fun c => !isQuote c) :=
    ((freeAtEnds_stripEnds isPadding text).filter fun _ => not_isQuote_of_isPadding_eq_false).imp
      fun _ solid => (isPadding_eq_false_iff.mp solid).2
  calc stripQuotes text
      _ = stripEnds isWhiteSpace (text.filter fun c => !isQuote c) := stripQuotes_eq_trim text
      _ = stripEnds isWhiteSpace ((stripEnds isPadding text).filter fun c => !isQuote c) := by
        conv_lhs => rw [stripped, List.filter_append, List.filter_append,
          stripEnds_append (leavesSpace beforePadding) (leavesSpace afterPadding)]
      _ = (stripEnds isPadding text).filter fun c => !isQuote c := free.stripEnds_eq

theorem isQuote_of_mem_stripQuotes (mem : c ∈ stripQuotes text) : isQuote c = false := by
  rw [stripQuotes_eq, List.mem_filter, Bool.not_eq_true'] at mem
  exact mem.2

theorem freeAtEnds_stripQuotes (text : List Char) : FreeAtEnds isPadding (stripQuotes text) := by
  rw [stripQuotes_eq]
  exact (freeAtEnds_stripEnds isPadding text).filter
    fun _ => not_isQuote_of_isPadding_eq_false

theorem stripQuotes_stripQuotes (text : List Char) :
    stripQuotes (stripQuotes text) = stripQuotes text := by
  rw [stripQuotes_eq (stripQuotes text), (freeAtEnds_stripQuotes text).stripEnds_eq,
    List.filter_eq_self]
  intro c mem
  rw [isQuote_of_mem_stripQuotes mem]
  rfl

/-- Everything but padding is kept in the term, in its order. -/
theorem filter_isPadding_stripQuotes (text : List Char) :
    (stripQuotes text).filter (fun c => !isPadding c) = text.filter fun c => !isPadding c := by
  obtain ⟨before, after, stripped, beforePadding, afterPadding⟩ :=
    exists_eq_append_stripEnds isPadding text
  have nothing {part : List Char} (padding : ∀ c ∈ part, isPadding c = true) :
      part.filter (fun c => !isPadding c) = [] := by
    rw [List.filter_eq_nil_iff]
    intro c mem
    rw [padding c mem]
    decide
  rw [stripQuotes_eq, List.filter_filter]
  conv_rhs => rw [stripped, List.filter_append, List.filter_append, nothing beforePadding,
    nothing afterPadding, List.nil_append, List.append_nil]
  apply List.filter_congr
  intro c _
  rw [isPadding]
  cases isQuote c <;> simp

theorem mem_stripQuotes_iff (solid : isPadding c = false) : c ∈ stripQuotes text ↔ c ∈ text := by
  have kept : c ∈ (stripQuotes text).filter (fun c => !isPadding c) ↔
      c ∈ text.filter fun c => !isPadding c := by
    rw [filter_isPadding_stripQuotes]
  simpa [List.mem_filter, solid] using kept

theorem any_isAlphanumeric_stripQuotes :
    (stripQuotes text).any isAlphanumeric = true ↔ ∃ c ∈ text, isAlphanumeric c = true := by
  have kept (c : Char) : c ∈ stripQuotes text ∧ isAlphanumeric c = true ↔
      c ∈ text ∧ isAlphanumeric c = true :=
    and_congr_left fun alphanumeric =>
      mem_stripQuotes_iff (isPadding_of_isAlphanumeric alphanumeric)
  rw [List.any_eq_true]
  exact exists_congr kept

end Strip

/-! ## The term -/

section Term

variable {value term : String}

/-- There is a term in every value with a letter or digit. -/
theorem searchTerm?_of_isAlphanumeric (searchable : ∃ c ∈ value.toList, isAlphanumeric c = true) :
    searchTerm? value = some (String.ofList (stripQuotes value.toList)) := by
  rw [searchTerm?, if_pos (any_isAlphanumeric_stripQuotes.mpr searchable)]

theorem searchTerm?_eq_some_iff : searchTerm? value = some term ↔
    term.toList = stripQuotes value.toList ∧ ∃ c ∈ value.toList, isAlphanumeric c = true := by
  rw [searchTerm?, Option.ite_none_right_eq_some, any_isAlphanumeric_stripQuotes, Option.some_inj,
    ← String.toList_inj, String.toList_ofList, and_comm, eq_comm]

theorem searchTerm?_eq_none_iff :
    searchTerm? value = none ↔ ∀ c ∈ value.toList, isAlphanumeric c = false := by
  rw [searchTerm?, ite_eq_right_iff, any_isAlphanumeric_stripQuotes]
  simp

theorem searchTerm?_congr {other : String}
    (same : stripQuotes value.toList = stripQuotes other.toList) :
    searchTerm? value = searchTerm? other := by
  rw [searchTerm?, same, searchTerm?]

/-- A term is its own term. -/
theorem searchTerm?_of_searchTerm? (found : searchTerm? value = some term) :
    searchTerm? term = some term := by
  obtain ⟨isTerm, -⟩ := searchTerm?_eq_some_iff.mp found
  rw [← found]
  apply searchTerm?_congr
  rw [isTerm, stripQuotes_stripQuotes]

end Term

/-! ## Padded values -/

/-- A text with quotes put in anywhere and white space put around it, in any order and any number
of times. -/
inductive Padded (text : List Char) : List Char → Prop
  | plain : Padded text text
  | quote (front back : List Char) {c : Char} (isQuote : c ∈ quotes)
      (padded : Padded text (front ++ back)) : Padded text (front ++ c :: back)
  | space (before after : List Char) {padded : List Char}
      (beforeSpace : ∀ c ∈ before, isWhiteSpace c = true)
      (afterSpace : ∀ c ∈ after, isWhiteSpace c = true)
      (isPadded : Padded text padded) : Padded text (before ++ (padded ++ after))

section Padded

variable {text padded : List Char}

theorem stripQuotes_quote (front back : List Char) {c : Char} (quote : c ∈ quotes) :
    stripQuotes (front ++ c :: back) = stripQuotes (front ++ back) := by
  have dropped : (c :: back).filter (fun c => !isQuote c) = back.filter fun c => !isQuote c := by
    apply List.filter_cons_of_neg
    rw [isQuote_iff_mem.mpr quote]
    decide
  rw [stripQuotes_eq_trim, stripQuotes_eq_trim, List.filter_append, List.filter_append, dropped]

theorem stripQuotes_space {before after : List Char}
    (beforeSpace : ∀ c ∈ before, isWhiteSpace c = true)
    (afterSpace : ∀ c ∈ after, isWhiteSpace c = true) (text : List Char) :
    stripQuotes (before ++ (text ++ after)) = stripQuotes text := by
  have padding {part : List Char} (space : ∀ c ∈ part, isWhiteSpace c = true) :
      ∀ c ∈ part, isPadding c = true :=
    fun c mem => isPadding_of_isWhiteSpace (space c mem)
  rw [stripQuotes_eq, stripEnds_append (padding beforeSpace) (padding afterSpace), stripQuotes_eq]

theorem Padded.stripQuotes_eq (isPadded : Padded text padded) :
    stripQuotes padded = stripQuotes text := by
  induction isPadded with
  | plain => rfl
  | quote front back isQuote _ ih => rw [stripQuotes_quote front back isQuote, ih]
  | space before after beforeSpace afterSpace _ ih =>
      rw [stripQuotes_space beforeSpace afterSpace, ih]

end Padded

/-! ## Clauses that search for a term -/

/-- The clauses that search for the term in a value: a text, and a filter on the name or on the
content, with any operator. -/
def Expression.termClauses (operator : Operator) : List (String → Expression) :=
  [.text, .filter .name operator, .filter .content operator]

section Clauses

variable {value other : String} (same : searchTerm? value = searchTerm? other)
include same

theorem Criterion.holds_contains_congr (place : TextPlace) (document : Document) :
    holds document (.contains place value) = holds document (.contains place other) := by
  rw [holds, same, holds]

theorem Sql.lowerText_congr (scope : String) (place : TextPlace) :
    lowerText scope place value = lowerText scope place other := by
  rw [lowerText, same, lowerText]

namespace Expression

theorem lower_text_congr (scope : String) :
    lower scope (.text value) = lower scope (.text other) := by
  rw [lower_text, lower_text, Sql.lowerText_congr same]

theorem lower_filter_congr {field : Field} {place : TextPlace} (searches : field.Searches place)
    (operator : Operator) (scope : String) :
    lower scope (.filter field operator value) = lower scope (.filter field operator other) := by
  cases operator with
  | equal =>
      rw [lower_filter_of_ok scope (searches.accepts _),
        lower_filter_of_ok scope (searches.accepts _), Sql.lowerCriterion, Sql.lowerCriterion,
        Sql.lowerText_congr same]
  | ordering comparison =>
      rw [lower_filter_of_error scope (searches.refuses comparison _),
        lower_filter_of_error scope (searches.refuses comparison _)]

variable {operator : Operator} {clause : String → Expression}

theorem interchangeable_of_mem_termClauses (mem : clause ∈ termClauses operator) :
    Interchangeable (clause value) (clause other) := by
  simp only [termClauses, List.mem_cons, List.not_mem_nil, or_false] at mem
  rcases mem with rfl | rfl | rfl
  · exact .text (Criterion.holds_contains_congr same _)
  · exact .filter_of_searches .name (Criterion.holds_contains_congr same _) operator
  · exact .filter_of_searches .content (Criterion.holds_contains_congr same _) operator

theorem lower_of_mem_termClauses (mem : clause ∈ termClauses operator) (scope : String) :
    (clause value).lower scope = (clause other).lower scope := by
  simp only [termClauses, List.mem_cons, List.not_mem_nil, or_false] at mem
  rcases mem with rfl | rfl | rfl
  · exact lower_text_congr same scope
  · exact lower_filter_congr same .name operator scope
  · exact lower_filter_congr same .content operator scope

end Expression

end Clauses

/-- A value has a term if and only if it has a letter or digit. The term has no quote and no white
space at its ends, but a letter or digit. It is the value without its quotes, trimmed, and it is its
own term. Quotes put in anywhere and white space put around a value leave its term as it is, and so
the documents that a clause with the value matches and the SQL that the clause becomes. -/
theorem searchTerm?_is_projection (value : String) :
    (searchTerm? value = none ↔ ∀ c ∈ value.toList, isAlphanumeric c = false) ∧
    (∀ term, searchTerm? value = some term →
      (∀ c ∈ term.toList, c ∉ quotes) ∧ IsTrimmed term.toList ∧
      (∃ c ∈ term.toList, isAlphanumeric c = true) ∧
      term.toList = trim (value.toList.filter (· ∉ quotes)) ∧ searchTerm? term = some term) ∧
    ∀ padded : String, Padded value.toList padded.toList →
      searchTerm? padded = searchTerm? value ∧
      ∀ operator, ∀ clause ∈ Expression.termClauses operator,
        (∀ document, (clause padded).matchesDocument document =
          (clause value).matchesDocument document) ∧
        ∀ (compiler : Sql.Compiler) scope,
          compiler.compile (clause padded) scope = compiler.compile (clause value) scope := by
  refine ⟨searchTerm?_eq_none_iff, fun term found => ?_, fun padded isPadded => ?_⟩
  · obtain ⟨isTerm, -⟩ := searchTerm?_eq_some_iff.mp found
    have itself := searchTerm?_of_searchTerm? found
    obtain ⟨-, searchable⟩ := searchTerm?_eq_some_iff.mp itself
    refine ⟨fun c mem => ?_, ?_, searchable, ?_, itself⟩
    · rw [isTerm] at mem
      rw [← isQuote_iff_mem, isQuote_of_mem_stripQuotes mem]
      decide
    · rw [isTerm]
      exact isTrimmed_trim _
    · have isKept (c : Char) : (!isQuote c) = decide (c ∉ quotes) := by
        rw [Bool.eq_iff_iff, Bool.not_eq_true', ← Bool.not_eq_true, isQuote_iff_mem,
          decide_eq_true_iff]
      rw [isTerm, stripQuotes_eq_trim, funext isKept]
  · have same : searchTerm? padded = searchTerm? value := searchTerm?_congr isPadded.stripQuotes_eq
    refine ⟨same, fun operator clause mem => ⟨?_, fun compiler scope => ?_⟩⟩
    · exact (Expression.interchangeable_of_mem_termClauses same mem).matchesDocument
    · rw [Sql.Compiler.compile, Expression.lower_of_mem_termClauses same mem, Sql.Compiler.compile]

/-- A quote inside a value, one at its end, and one between white space before it. -/
theorem searchTerm?_is_projection_of_quoted_value :
    let value := "7 oz"
    let padded := " “\u00A07 \"oz’\t"
    Padded value.toList padded.toList ∧ searchTerm? padded = some value ∧
      searchTerm? value = some value ∧
      ∀ document, Expression.matchesDocument (.text padded) document =
        Expression.matchesDocument (.text value) document := by
  intro value padded
  have isPadded : Padded value.toList padded.toList := by
    have plain : value.toList = ['7', ' '] ++ ['o', 'z'] := by decide
    have around : padded.toList =
        [' '] ++ ('“' :: ['\u00A0'] ++ (['7', ' ', '"', 'o', 'z'] ++ ['’'] ++ ['\t']) ++ []) := by
      decide
    rw [around]
    have inside : Padded value.toList (['7', ' ', '"', 'o', 'z'] ++ '’' :: []) :=
      .quote _ [] (by decide) (.quote ['7', ' '] ['o', 'z'] (by decide) (plain ▸ .plain))
    have only {c : Char} (isSpace : isWhiteSpace c = true) : ∀ d ∈ [c], isWhiteSpace d = true :=
      List.forall_mem_singleton.mpr isSpace
    exact .space [' '] [] (only (by decide)) (List.forall_mem_nil _)
      (.quote [] _ (by decide)
        (.space ['\u00A0'] ['\t'] (only (by decide)) (only (by decide)) inside))
  have found : searchTerm? padded = some value := by decide +kernel
  obtain ⟨-, ofTerm, -⟩ := searchTerm?_is_projection padded
  obtain ⟨-, -, -, -, itself⟩ := ofTerm value found
  obtain ⟨-, -, ofPadded⟩ := searchTerm?_is_projection value
  obtain ⟨-, search⟩ := ofPadded padded isPadded
  exact ⟨isPadded, found, itself, (search .equal .text (List.mem_cons_self ..)).1⟩

end SearchQuery
