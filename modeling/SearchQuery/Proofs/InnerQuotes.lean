import SearchQuery.Proofs.Occurrence
import SearchQuery.Proofs.SearchTerm

/-!
# Quotes inside values

The term in a value is the value without its quotes, and the documents are searched as they are.
Quotes around a term make no difference: the term stands wherever the value stands. A quote
inside a value does: there are documents in which the value stands and the term does not, so a
value with an apostrophe does not find the documents that hold it
(`Expression.finds_standing_value_iff`).
-/

namespace SearchQuery

open Text

/-- Whether a quote stands between characters that are neither quotes nor white space. -/
def hasInnerQuote (value : String) : Bool :=
  (stripEnds isPadding value.toList).any isQuote

/-! ## Lower case -/

section Lowercase

variable {c d : Char} {text : List Char}

/-- Quotes have no letter case and are no lower-case forms. -/
theorem isLower_of_isQuote (quote : isQuote c = true) : IsLower c ∧ IsNoImage c.toNat :=
  isQuote_cases (motive := fun c => IsLower c ∧ IsNoImage c.toNat) (by decide +kernel) quote

theorem isLower_of_isPadding (padding : isPadding c = true) : IsLower c := by
  rw [isPadding, Bool.or_eq_true] at padding
  rcases padding with quote | space
  · exact (isLower_of_isQuote quote).1
  · exact isLower_of_isWhiteSpace space

theorem isQuote_of_mem_lowercaseChar (mem : d ∈ lowercaseChar c) : isQuote d = isQuote c :=
  kind_of_mem_lowercaseChar (fun _ quote => (isLower_of_isQuote quote).1) (by decide)
    (fun _ quote => (isLower_of_isQuote quote).2) mem

theorem isPadding_of_mem_lowercaseChar (mem : d ∈ lowercaseChar c) :
    isPadding d = isPadding c := by
  rw [isPadding, isPadding, isQuote_of_mem_lowercaseChar mem, isWhiteSpace_of_mem_lowercaseChar mem]

/-- Lower case keeps how many characters are no padding. -/
theorem filter_isPadding_flatMap (text : List Char) :
    (text.flatMap lowercaseChar).filter (fun c => !isPadding c) =
      (text.filter fun c => !isPadding c).flatMap lowercaseChar := by
  induction text with
  | nil => rfl
  | cons c rest ih =>
      have same : ∀ d ∈ lowercaseChar c, (!isPadding d) = !isPadding c :=
        fun d mem => congrArg (!·) (isPadding_of_mem_lowercaseChar mem)
      rw [List.flatMap_cons, List.filter_append, ih]
      cases padding : isPadding c with
      | true =>
          rw [List.filter_eq_nil_iff.mpr fun d mem => by rw [same d mem, padding]; decide,
            List.filter_cons_of_neg (by rw [padding]; decide)]
          rfl
      | false =>
          rw [List.filter_eq_self.mpr fun d mem => by rw [same d mem, padding]; rfl,
            List.filter_cons_of_pos (by rw [padding]; rfl), List.flatMap_cons]

theorem flatMap_lowercaseChar_of_isPadding (padding : ∀ c ∈ text, isPadding c = true) :
    text.flatMap lowercaseChar = text := by
  induction text with
  | nil => rfl
  | cons c rest ih =>
      rw [List.forall_mem_cons] at padding
      rw [List.flatMap_cons, isLower_of_isPadding padding.1, ih padding.2]
      rfl

theorem freeAtEnds_lowercase (free : FreeAtEnds isPadding text) :
    FreeAtEnds isPadding (text.flatMap lowercaseChar) :=
  free.flatMap lowercaseChar_ne_nil fun _ _ => isPadding_of_mem_lowercaseChar

theorem stripEnds_flatMap_lowercaseChar (text : List Char) :
    stripEnds isPadding (text.flatMap lowercaseChar) =
      (stripEnds isPadding text).flatMap lowercaseChar := by
  obtain ⟨before, after, stripped, beforePadding, afterPadding⟩ :=
    exists_eq_append_stripEnds isPadding text
  conv_lhs => rw [stripped, List.flatMap_append, List.flatMap_append,
    flatMap_lowercaseChar_of_isPadding beforePadding,
    flatMap_lowercaseChar_of_isPadding afterPadding, stripEnds_append beforePadding afterPadding]
  exact (freeAtEnds_lowercase (freeAtEnds_stripEnds isPadding text)).stripEnds_eq

/-- The term has all characters that are no padding, so what stands around it is padding. -/
theorem isPadding_of_append {front back : List Char}
    (split : front ++ ((stripQuotes text).flatMap lowercaseChar ++ back) =
      text.flatMap lowercaseChar) :
    (∀ c ∈ front, isPadding c = true) ∧ ∀ c ∈ back, isPadding c = true := by
  have solid := congrArg (List.filter fun c => !isPadding c) split
  rw [List.filter_append, List.filter_append, filter_isPadding_flatMap, filter_isPadding_flatMap,
    filter_isPadding_stripQuotes] at solid
  have lengths := congrArg List.length solid
  rw [List.length_append, List.length_append] at lengths
  have padding {part : List Char} (none : (part.filter fun c => !isPadding c).length = 0) :
      ∀ c ∈ part, isPadding c = true := by
    intro c mem
    have outside := List.filter_eq_nil_iff.mp (List.eq_nil_of_length_eq_zero none) c mem
    simpa using outside
  constructor
  · exact padding (by omega)
  · exact padding (by omega)

/-- If the lower-case form of a term stands in that of the value, no quote stands inside the
value. -/
theorem hasInnerQuote_of_infix {value : String}
    (stands : (stripQuotes value.toList).flatMap lowercaseChar <:+:
      value.toList.flatMap lowercaseChar) : hasInnerQuote value = false := by
  obtain ⟨front, back, split⟩ := stands
  rw [List.append_assoc] at split
  obtain ⟨frontPadding, backPadding⟩ := isPadding_of_append split
  have same : (stripEnds isPadding value.toList).flatMap lowercaseChar =
      (stripQuotes value.toList).flatMap lowercaseChar := by
    calc (stripEnds isPadding value.toList).flatMap lowercaseChar
        _ = stripEnds isPadding (value.toList.flatMap lowercaseChar) :=
          (stripEnds_flatMap_lowercaseChar _).symm
        _ = stripEnds isPadding ((stripQuotes value.toList).flatMap lowercaseChar) := by
          rw [← split, stripEnds_append frontPadding backPadding]
        _ = (stripQuotes value.toList).flatMap lowercaseChar :=
          (freeAtEnds_lowercase (freeAtEnds_stripQuotes _)).stripEnds_eq
  -- A quote that stands inside would be in the lower-case form of the term, which has none.
  rw [hasInnerQuote, Bool.eq_false_iff]
  intro inner
  obtain ⟨quote, mem, isQuote⟩ := List.any_eq_true.mp inner
  have inImage : quote ∈ (stripQuotes value.toList).flatMap lowercaseChar := by
    rw [← same, List.mem_flatMap]
    refine ⟨quote, mem, ?_⟩
    rw [isLower_of_isPadding (isPadding_of_isQuote isQuote)]
    exact List.mem_singleton_self quote
  obtain ⟨c, inTerm, origin⟩ := List.mem_flatMap.mp inImage
  rw [isQuote_of_mem_lowercaseChar origin] at isQuote
  rw [stripQuotes_eq, List.mem_filter, isQuote] at inTerm
  exact absurd inTerm.2 (by decide)

/-- The term stands in a value without inner quotes. -/
theorem stripQuotes_infix_of_hasInnerQuote {value : String}
    (outside : hasInnerQuote value = false) : stripQuotes value.toList <:+: value.toList := by
  obtain ⟨before, after, stripped, -, -⟩ := exists_eq_append_stripEnds isPadding value.toList
  have whole : stripQuotes value.toList = stripEnds isPadding value.toList := by
    rw [stripQuotes_eq, List.filter_eq_self]
    intro c mem
    rw [Bool.eq_false_iff.mpr (List.any_eq_false.mp outside c mem)]
    rfl
  rw [whole]
  exact ⟨before, after, by rw [List.append_assoc, ← stripped]⟩

end Lowercase

/-! ## Search -/

namespace Expression

variable {value : String}

/-- A value with a letter or digit has a term, and finds the documents in whose name or content
the term stands with letter case ignored. It finds all documents in which the value itself stands
if and only if no quote stands inside the value. -/
theorem finds_standing_value_iff (noSigma : 'Σ' ∉ value.toList)
    (searchable : ∃ c ∈ value.toList, isAlphanumeric c = true) :
    ∃ term, searchTerm? value = some term ∧
      (∀ document, matchesDocument (.text value) document = true ↔
        lowercase term.toList <:+: lowercase document.name.toList ∨
          lowercase term.toList <:+: lowercase document.content.toList) ∧
      ((∀ document : Document,
          value.toList <:+: document.name.toList ∨ value.toList <:+: document.content.toList →
            matchesDocument (.text value) document = true) ↔
        hasInnerQuote value = false) := by
  have isTerm := searchTerm?_of_isAlphanumeric searchable
  have termNoSigma : 'Σ' ∉ (String.ofList (stripQuotes value.toList)).toList := by
    rw [String.toList_ofList, stripQuotes]
    intro mem
    have kept := (trim_sublist _).subset mem
    exact noSigma ((trim_sublist _).subset (List.mem_of_mem_filter kept))
  refine ⟨_, isTerm, ?_, ?_⟩
  · intro document
    rw [matchesDocument_text isTerm, Bool.or_eq_true, occursFolded, occursFolded, occursIn_iff,
      occursIn_iff]
  constructor
  · intro found
    have itself := found ⟨"", value, value, [], ⟨0, 0, by decide⟩⟩ (.inl (List.infix_refl _))
    rw [matchesDocument_text isTerm, Bool.or_self, occursFolded, occursIn_iff,
      lowercase_of_notMem termNoSigma, lowercase_of_notMem noSigma, String.toList_ofList] at itself
    exact hasInnerQuote_of_infix itself
  · intro outside document stands
    have termStands := stripQuotes_infix_of_hasInnerQuote outside
    have occurs {text : String} (stands : value.toList <:+: text.toList) :
        occursFolded (String.ofList (stripQuotes value.toList)) text = true := by
      apply forall_occursFolded_iff.mpr (keepsSigmas_of_notMem termNoSigma)
      rw [String.toList_ofList]
      exact termStands.trans stands
    rw [matchesDocument_text isTerm, Bool.or_eq_true]
    exact stands.imp occurs occurs

/-- A value with quotes and white space around its term finds a document in which it stands. -/
theorem finds_standing_value_in_quotes :
    let value := "‘ “Flour,”’"
    let document : Document :=
      ⟨"doc", "Plan", "7 cups ‘ “Flour,”’ twice", [], ⟨1704067200, 0, by decide⟩⟩
    ('Σ' ∉ value.toList ∧ ∃ c ∈ value.toList, isAlphanumeric c = true) ∧
      value.toList <:+: document.content.toList ∧
      matchesDocument (.text value) document = true := by
  intro value document
  have noSigma : 'Σ' ∉ value.toList := by decide
  have searchable : ∃ c ∈ value.toList, isAlphanumeric c = true :=
    ⟨'F', by decide, by decide +kernel⟩
  have stands : value.toList <:+: document.content.toList :=
    ⟨"7 cups ".toList, " twice".toList, by decide⟩
  obtain ⟨term, -, -, found⟩ := finds_standing_value_iff noSigma searchable
  exact ⟨⟨noSigma, searchable⟩, stands, found.mpr (by decide +kernel) document (.inr stands)⟩

/-- A value with an apostrophe does not find a document that has it as its name. -/
theorem value_with_apostrophe_is_missed :
    let document : Document := ⟨"doc", "don’t", "", [], ⟨1704067200, 0, by decide⟩⟩
    searchTerm? "don’t" = some "dont" ∧ "don’t".toList <:+: document.name.toList ∧
      matchesDocument (.text "don’t") document = false := by
  intro document
  have isTerm : searchTerm? "don’t" = some "dont" := by decide +kernel
  refine ⟨isTerm, List.infix_refl _, ?_⟩
  rw [matchesDocument_text isTerm]
  decide +kernel

end Expression

end SearchQuery
