import SearchQuery.Token.Reader
import Mathlib.Data.List.TakeWhile

/-!
# Laws of the token reader

`Token.readCases` says once what reading one token can do, from the character it starts
with. The laws of `Token.ofText` go the other way: what stands at the front of a text is
read as one token, and reading goes on behind it. A word needs a follower that ends it;
parentheses and whatever is quoted are read alike before any rest.
-/

namespace SearchQuery.Token

/-! ## Runs of characters -/

/-- No character of a class stands at the front of the text. -/
def Stops (admits : Char → Bool) (rest : List Char) : Prop :=
  ∀ c ∈ rest.head?, admits c = false

@[simp]
theorem stops_nil (admits : Char → Bool) : Stops admits [] := by
  simp [Stops]

@[simp]
theorem stops_cons {admits : Char → Bool} {c : Char} {rest : List Char} :
    Stops admits (c :: rest) ↔ admits c = false := by
  simp [Stops]

theorem stops_beq_iff {wanted : Char} {rest : List Char} :
    Stops (· == wanted) rest ↔ ∀ later, rest ≠ wanted :: later := by
  cases rest with
  | nil => simp
  | cons c later => simp

/-- A run that is dropped ends before a character of another class. -/
theorem stops_dropWhile (admits : Char → Bool) (text : List Char) :
    Stops admits (text.dropWhile admits) := by
  intro c first
  have stopped := List.head?_dropWhile_not admits text
  rw [first] at stopped
  simpa using stopped

section Runs

variable {admits : Char → Bool} {run rest : List Char}

theorem takeWhile_eq_nil_of_stops (stops : Stops admits rest) : rest.takeWhile admits = [] := by
  cases rest with
  | nil => rfl
  | cons c rest => rw [List.takeWhile_cons, if_neg (by simpa using stops)]

theorem dropWhile_eq_self_of_stops (stops : Stops admits rest) : rest.dropWhile admits = rest := by
  cases rest with
  | nil => rfl
  | cons c rest => rw [List.dropWhile_cons, if_neg (by simpa using stops)]

variable (inside : ∀ c ∈ run, admits c = true) (stops : Stops admits rest)
include inside stops

theorem takeWhile_append_of_stops : (run ++ rest).takeWhile admits = run := by
  rw [List.takeWhile_append_of_pos inside, takeWhile_eq_nil_of_stops stops, List.append_nil]

theorem dropWhile_append_of_stops : (run ++ rest).dropWhile admits = rest := by
  rw [List.dropWhile_append_of_pos inside, dropWhile_eq_self_of_stops stops]

end Runs

/-! ## Quoted texts and values -/

theorem readQuoted_append_quote {value : List Char} (noQuote : '"' ∉ value) (rest : List Char) :
    readQuoted (value ++ '"' :: rest) = (value, rest) := by
  have inside : ∀ c ∈ value, (c != '"') = true := by
    intro c mem
    rw [bne_iff_ne]
    rintro rfl
    exact noQuote mem
  have stops : Stops (· != '"') ('"' :: rest) := by simp
  rw [readQuoted, takeWhile_append_of_stops inside stops, dropWhile_append_of_stops inside stops]
  rfl

theorem quote_notMem_readQuoted (text : List Char) : '"' ∉ (readQuoted text).1 := by
  intro mem
  have taken := List.mem_takeWhile_imp mem
  simp at taken

/-- A quoted text ends at the next quote, or with the text if there is none. -/
theorem readQuoted_eq_iff {text value rest : List Char} :
    readQuoted text = (value, rest) ↔
      '"' ∉ value ∧ (text = value ++ '"' :: rest ∨ text = value ∧ rest = []) := by
  constructor
  · intro read
    have noQuote := quote_notMem_readQuoted text
    have whole := List.takeWhile_append_dropWhile (p := (· != '"')) (l := text)
    have stopped := stops_dropWhile (· != '"') text
    rw [read] at noQuote
    refine ⟨noQuote, ?_⟩
    obtain ⟨rfl, rfl⟩ := Prod.mk.inj read
    cases later : text.dropWhile (· != '"') with
    | nil =>
        rw [later] at whole
        simpa using Or.inr whole.symm
    | cons c others =>
        rw [later] at whole stopped
        have isQuote : c = '"' := by simpa using stopped
        rw [isQuote] at whole
        exact .inl whole.symm
  · rintro ⟨noQuote, rfl | ⟨rfl, rfl⟩⟩
    · exact readQuoted_append_quote noQuote rest
    · have inside : ∀ c ∈ text, (c != '"') = true := by
        intro c mem
        rw [bne_iff_ne]
        rintro rfl
        exact noQuote mem
      rw [readQuoted, List.takeWhile_eq_self_iff.mpr inside, List.dropWhile_eq_nil_iff.mpr inside]
      rfl

theorem quote_notMem_readValue (text : List Char) : '"' ∉ (readValue text).1 := by
  unfold readValue
  split
  · exact quote_notMem_readQuoted _
  · intro mem
    have taken := List.mem_takeWhile_imp mem
    simp [isWordChar] at taken

/-! ## Operators -/

/-- The symbol of an operator is not taken for the front of a longer one. -/
def IsLongest (operator : Operator) (rest : List Char) : Prop :=
  operator = .ordering .less ∨ operator = .ordering .greater → Stops (· == '=') rest

/-- An operator is read exactly where its symbol stands and no longer symbol does. -/
theorem readOperator?_eq_some_iff {text rest : List Char} {operator : Operator} :
    readOperator? text = some (operator, rest) ↔
      text = operator.symbol.toList ++ rest ∧ IsLongest operator rest := by
  constructor
  · intro found
    unfold readOperator? at found
    split at found
    · cases found
      exact ⟨rfl, by simp [IsLongest]⟩
    · cases found
      exact ⟨rfl, by simp [IsLongest]⟩
    · rename_i shorter
      cases found
      refine ⟨rfl, fun _ => stops_beq_iff.mpr ?_⟩
      rintro later rfl
      exact shorter later rfl
    · rename_i shorter
      cases found
      refine ⟨rfl, fun _ => stops_beq_iff.mpr ?_⟩
      rintro later rfl
      exact shorter later rfl
    · cases found
      exact ⟨rfl, by simp [IsLongest]⟩
    · contradiction
  · rintro ⟨rfl, longest⟩
    cases operator with
    | equal => rfl
    | ordering comparison =>
        cases comparison with
        | lessOrEqual | greaterOrEqual => rfl
        | less | greater =>
            have stops := longest (by simp)
            cases rest with
            | nil => rfl
            | cons next rest =>
                have next_ne : next ≠ '=' := by simpa using stops
                simp [Operator.symbol, Comparison.symbol, readOperator?, next_ne]

/-- The longest operator is read: a symbol is not taken for the start of another. -/
theorem readOperator?_symbol (operator : Operator) {rest : List Char}
    (stops : Stops (· == '=') rest) :
    readOperator? (operator.symbol.toList ++ rest) = some (operator, rest) :=
  readOperator?_eq_some_iff.mpr ⟨rfl, fun _ => stops⟩

theorem readOperator?_eq_none_iff {c : Char} {rest : List Char} :
    readOperator? (c :: rest) = none ↔ c ≠ '<' ∧ c ≠ '>' ∧ c ≠ '=' := by
  constructor
  · intro noOperator
    refine ⟨?_, ?_, ?_⟩
    · rintro rfl
      unfold readOperator? at noOperator
      split at noOperator <;> simp_all
    · rintro rfl
      unfold readOperator? at noOperator
      split at noOperator <;> simp_all
    · rintro rfl
      simp [readOperator?] at noOperator
  · rintro ⟨notLess, notGreater, notEqual⟩
    unfold readOperator?
    split <;> simp_all

/-! ## Filters -/

/-- Whether a text starts with the name of a field, in any ASCII case, and a colon. -/
def StartsFilter (text : List Char) : Prop :=
  ∃ field name rest,
    Text.sameIgnoringAsciiCase (Field.text field).toList name = true ∧ text = name ++ ':' :: rest

/-- A text of letters consists of letters in every other case. -/
theorem isFieldNameChar_of_spells {letters text : List Char}
    (alpha : (letters.map Char.toLower).all Char.isAlpha = true)
    (spells : Text.sameIgnoringAsciiCase letters text = true) {c : Char} (mem : c ∈ text) :
    isFieldNameChar c = true := by
  rw [Text.sameIgnoringAsciiCase_iff.mp spells, List.all_eq_true] at alpha
  have lower := alpha c.toLower (List.mem_map_of_mem mem)
  have letter : c.isAlpha = true := by
    by_contra notLetter
    rw [Bool.not_eq_true] at notLetter
    -- Only capital letters change in lower case.
    have notUpper : c.isUpper = false := (Bool.or_eq_false_iff.mp notLetter).1
    have unchanged : c.toLower = c := dif_neg (of_decide_eq_false notUpper)
    rw [unchanged, notLetter] at lower
    contradiction
  rw [isFieldNameChar, letter, Bool.true_or]

theorem isFieldNameChar_of_mem {field : Field} {name : List Char}
    (spells : Text.sameIgnoringAsciiCase field.text.toList name = true) {c : Char}
    (mem : c ∈ name) : isFieldNameChar c = true :=
  isFieldNameChar_of_spells (by cases field <;> decide) spells mem

theorem stops_isFieldNameChar_colon (rest : List Char) : Stops isFieldNameChar (':' :: rest) := by
  rw [stops_cons]
  decide

theorem isSome_ofName? {field : Field} {name : List Char}
    (spells : Text.sameIgnoringAsciiCase field.text.toList name = true) :
    (Field.ofName? name).isSome = true := by
  rw [Field.ofName?, List.find?_isSome]
  exact ⟨field, by cases field <;> decide, spells⟩

/-- Different fields have different names in every ASCII case. -/
theorem sameIgnoringAsciiCase_text_iff {left right : Field} :
    Text.sameIgnoringAsciiCase left.text.toList right.text.toList = true ↔ left = right := by
  cases left <;> cases right <;> decide

theorem ofName?_eq_some_iff {name : List Char} {field : Field} :
    Field.ofName? name = some field ↔
      Text.sameIgnoringAsciiCase field.text.toList name = true := by
  constructor
  · intro found
    have spells := List.find?_some found
    exact spells
  · intro spells
    obtain ⟨other, found⟩ := Option.isSome_iff_exists.mp (isSome_ofName? spells)
    have otherSpells := List.find?_some found
    rw [Text.sameIgnoringAsciiCase_iff] at spells otherSpells
    have same := Text.sameIgnoringAsciiCase_iff.mpr (otherSpells.trans spells.symm)
    rw [found, sameIgnoringAsciiCase_text_iff.mp same]

theorem ofName?_text (field : Field) : Field.ofName? field.text.toList = some field :=
  ofName?_eq_some_iff.mpr (Text.sameIgnoringAsciiCase_iff.mpr rfl)

/-- A filter is read exactly where the name of a field and a colon stand. -/
theorem readFilter?_eq_none_iff {text : List Char} :
    readFilter? text = none ↔ ¬ StartsFilter text := by
  constructor
  · rintro noFilter ⟨field, name, rest, spells, rfl⟩
    have inside := fun c mem => isFieldNameChar_of_mem (c := c) spells mem
    have stops := stops_isFieldNameChar_colon rest
    rw [readFilter?, dropWhile_append_of_stops inside stops,
      takeWhile_append_of_stops inside stops] at noFilter
    have unknown := Option.map_eq_none_iff.mp noFilter
    have found := isSome_ofName? spells
    rw [unknown] at found
    contradiction
  · intro noFilter
    unfold readFilter?
    split
    · rename_i afterColon colonNext
      rw [Option.map_eq_none_iff, Option.eq_none_iff_forall_ne_some]
      intro field found
      apply noFilter
      have spells := List.find?_some found
      refine ⟨field, text.takeWhile isFieldNameChar, afterColon, spells, ?_⟩
      rw [← colonNext, List.takeWhile_append_dropWhile]
    · rfl

/-- No filter that is read has a quote in its value. -/
theorem exists_of_readFilter? {text after : List Char} {token : Token}
    (found : readFilter? text = some (token, after)) :
    ∃ field comparison value, token = .filter field comparison (String.ofList value) ∧
      '"' ∉ value := by
  unfold readFilter? at found
  split at found
  · rename_i afterColon _
    obtain ⟨field, _, whole⟩ := Option.map_eq_some_iff.mp found
    simp only [Prod.mk.injEq] at whole
    exact ⟨field, _, _, whole.1.symm, quote_notMem_readValue _⟩
  · contradiction

theorem readFilter?_quoted (field : Field) (operator : Operator) {value : List Char}
    (noQuote : '"' ∉ value) (rest : List Char) :
    readFilter? (field.text.toList ++
        ':' :: (operator.symbol.toList ++ '"' :: (value ++ '"' :: rest))) =
      some (.filter field operator (String.ofList value), rest) := by
  have spells : Text.sameIgnoringAsciiCase field.text.toList field.text.toList = true :=
    Text.sameIgnoringAsciiCase_iff.mpr rfl
  have inside := fun c mem => isFieldNameChar_of_mem (c := c) spells mem
  have stops := stops_isFieldNameChar_colon
    (operator.symbol.toList ++ '"' :: (value ++ '"' :: rest))
  have comparison : readOperator? (operator.symbol.toList ++ '"' :: (value ++ '"' :: rest)) =
      some (operator, '"' :: (value ++ '"' :: rest)) :=
    readOperator?_symbol operator (by simp)
  have valueRead : readValue ('"' :: (value ++ '"' :: rest)) = (value, rest) :=
    readQuoted_append_quote noQuote rest
  rw [readFilter?, dropWhile_append_of_stops inside stops, takeWhile_append_of_stops inside stops,
    ofName?_text]
  simp only [Option.map_some, comparison, Option.getD_some, valueRead]

theorem isWordChar_iff {c : Char} :
    isWordChar c = true ↔ Text.isWhiteSpace c = false ∧ c ≠ '(' ∧ c ≠ ')' ∧ c ≠ '"' := by
  simp [isWordChar, and_assoc]

theorem isWordChar_of_isFieldNameChar {c : Char} (nameChar : isFieldNameChar c = true) :
    isWordChar c = true := by
  have bounds : 65 ≤ c.toNat ∧ c.toNat ≤ 122 := by
    change (decide ('A'.val ≤ c.val ∧ c.val ≤ 'Z'.val) ||
      (decide ('a'.val ≤ c.val) && decide (c.val ≤ 'z'.val)) || c == '_') = true at nameChar
    simp only [Bool.or_eq_true, Bool.and_eq_true, decide_eq_true_eq, beq_iff_eq,
      UInt32.le_iff_toNat_le] at nameChar
    rcases nameChar with (upper | lower) | rfl
    · exact ⟨upper.1, Nat.le_trans upper.2 (by decide)⟩
    · exact ⟨Nat.le_trans (by decide) lower.1, lower.2⟩
    · decide
  rw [isWordChar_iff]
  refine ⟨?_, ?_, ?_, ?_⟩
  · rw [Bool.eq_false_iff]
    intro space
    obtain ⟨run, mem, least, greatest⟩ := Text.CodePointRanges.exists_mem_of_contains space
    have outside : ∀ run ∈ Text.whiteSpaceRanges, run.2 < 65 ∨ 122 < run.1 := by decide
    have apart := outside run mem
    omega
  all_goals
    rintro rfl
    simp at bounds

/-- Whether a filter starts, the run of word characters in front decides. -/
theorem startsFilter_takeWhile_iff {text : List Char} :
    StartsFilter (text.takeWhile isWordChar) ↔ StartsFilter text := by
  constructor
  · rintro ⟨field, name, rest, spells, front⟩
    refine ⟨field, name, rest ++ text.dropWhile isWordChar, spells, ?_⟩
    rw [← List.cons_append, ← List.append_assoc, ← front, List.takeWhile_append_dropWhile]
  · rintro ⟨field, name, rest, spells, rfl⟩
    refine ⟨field, name, rest.takeWhile isWordChar, spells, ?_⟩
    have inside : ∀ c ∈ name ++ [':'], isWordChar c = true := by
      intro c mem
      rcases List.mem_append.mp mem with inName | colon
      · exact isWordChar_of_isFieldNameChar (isFieldNameChar_of_mem spells inName)
      · rw [List.mem_singleton.mp colon]
        decide
    have spelled : name ++ ':' :: rest = (name ++ [':']) ++ rest := by simp
    rw [spelled, List.takeWhile_append_of_pos inside, List.append_assoc]
    rfl

/-! ## One token -/

/-- Whether a character starts a word, a keyword or a filter. -/
def isWordStart (c : Char) : Bool :=
  isWordChar c && c != '-' && c != '<' && c != '>' && c != '='

theorem isWordStart_iff {c : Char} :
    isWordStart c = true ↔ isWordChar c = true ∧ c ≠ '-' ∧ c ≠ '<' ∧ c ≠ '>' ∧ c ≠ '=' := by
  simp [isWordStart, and_assoc]

/-- A text that starts like a word holds a filter or a run of word characters. -/
theorem read_of_isWordStart {c : Char} (start : isWordStart c = true) (rest : List Char) :
    read c rest =
      match readFilter? (c :: rest) with
      | some (token, after) => (some token, after)
      | none => (some (ofWord (c :: rest.takeWhile isWordChar)), rest.dropWhile isWordChar) := by
  obtain ⟨wordChar, notDash, noOperator⟩ := isWordStart_iff.mp start
  obtain ⟨notSpace, notOpening, notClosing, notQuote⟩ := isWordChar_iff.mp wordChar
  have noSymbol : readOperator? (c :: rest) = none := readOperator?_eq_none_iff.mpr noOperator
  cases filterRead : readFilter? (c :: rest) with
  | none =>
      simp [read, notSpace, notOpening, notClosing, notQuote, notDash, noSymbol, filterRead]
  | some found =>
      simp [read, notSpace, notOpening, notClosing, notQuote, notDash, noSymbol, filterRead]

/-- What reading one token can do, by the character that it starts with. -/
@[elab_as_elim]
theorem readCases {motive : Char → List Char → Option Token × List Char → Prop}
    (space : ∀ c rest, Text.isWhiteSpace c = true → motive c rest (none, rest))
    (openGroup : ∀ rest, motive '(' rest (some .openGroup, rest))
    (closeGroup : ∀ rest, motive ')' rest (some .closeGroup, rest))
    (quoted : ∀ rest, motive '"' rest
      (some (.phrase (String.ofList (readQuoted rest).1)), (readQuoted rest).2))
    (dash : ∀ rest, (∀ next ∈ rest.head?, Text.isWhiteSpace next = true ∨ next = ')') →
      motive '-' rest (none, rest))
    (minus : ∀ next rest, Text.isWhiteSpace next = false → next ≠ ')' →
      motive '-' (next :: rest) (some .minus, next :: rest))
    (operator : ∀ c rest symbol after, readOperator? (c :: rest) = some (symbol, after) →
      motive c rest (some (.operator symbol), after))
    (filter : ∀ c rest token after, isWordStart c = true →
      readFilter? (c :: rest) = some (token, after) → motive c rest (some token, after))
    (word : ∀ c rest, isWordStart c = true → readFilter? (c :: rest) = none →
      motive c rest
        (some (ofWord (c :: rest.takeWhile isWordChar)), rest.dropWhile isWordChar))
    (c : Char) (rest : List Char) : motive c rest (read c rest) := by
  by_cases start : isWordStart c = true
  · rw [read_of_isWordStart start]
    split
    · rename_i token after found
      exact filter c rest token after start found
    · rename_i noFilter
      exact word c rest start noFilter
  · unfold read
    split
    · rename_i isSpace
      exact space c rest isSpace
    split
    · rename_i same
      rw [same]
      exact openGroup rest
    split
    · rename_i same
      rw [same]
      exact closeGroup rest
    split
    · rename_i same
      rw [same]
      exact quoted rest
    split
    · rename_i same
      rw [same]
      split
      · exact dash [] (by simp)
      · rename_i next others
        by_cases ends : Text.isWhiteSpace next = true ∨ next = ')'
        · rw [if_pos (by simpa using ends)]
          exact dash (next :: others) (by simpa using ends)
        · rw [if_neg (by simpa using ends)]
          rw [not_or, Bool.not_eq_true] at ends
          exact minus next others ends.1 ends.2
    split
    · rename_i symbol after found
      exact operator c rest symbol after found
    · -- No operator stands here, so the character would start a word.
      rename_i notSpace notOpening notClosing notQuote notDash _ noOperator
      refine absurd (isWordStart_iff.mpr ⟨?_, notDash, readOperator?_eq_none_iff.mp noOperator⟩) start
      exact isWordChar_iff.mpr ⟨by simpa using notSpace, notOpening, notClosing, notQuote⟩

/-! ## What one token takes -/

/-- Reading one token, or skipping one character, takes exactly the given source text. -/
def Takes (token : Option Token) (source rest : List Char) : Prop :=
  ∃ c others, source = c :: others ∧ read c (others ++ rest) = (token, rest)

section Takes

variable {token other : Option Token} {source rest otherSource otherRest : List Char}
  (takes : Takes token source rest)
include takes

theorem Takes.source_ne_nil : source ≠ [] := by
  obtain ⟨c, others, rfl, _⟩ := takes
  exact List.cons_ne_nil c others

/-- What is taken from a text is determined by the text. -/
theorem Takes.unique (otherTakes : Takes other otherSource otherRest)
    (same : source ++ rest = otherSource ++ otherRest) :
    token = other ∧ source = otherSource ∧ rest = otherRest := by
  obtain ⟨c, later, rfl, read⟩ := takes
  obtain ⟨d, otherLater, rfl, otherRead⟩ := otherTakes
  rw [List.cons_append, List.cons_append] at same
  obtain ⟨rfl, sameLater⟩ := List.cons.inj same
  rw [sameLater, otherRead] at read
  obtain ⟨rfl, rfl⟩ := Prod.mk.inj read
  exact ⟨rfl, by rw [List.append_cancel_right sameLater], rfl⟩

end Takes

/-- A run of characters that is read as a whole, as a word or as a keyword. -/
structure IsRun (run : List Char) : Prop where
  nonempty : run ≠ []
  wordChars : ∀ c ∈ run, isWordChar c = true
  start : ∀ c ∈ run.head?, isWordStart c = true
  noFilter : ¬ StartsFilter run

/-- What is read as a word or a keyword is a run. -/
theorem isRun_takeWhile {c : Char} {rest : List Char} (start : isWordStart c = true)
    (noFilter : readFilter? (c :: rest) = none) : IsRun (c :: rest.takeWhile isWordChar) := by
  have wordChar := (isWordStart_iff.mp start).1
  have front : (c :: rest).takeWhile isWordChar = c :: rest.takeWhile isWordChar :=
    List.takeWhile_cons_of_pos wordChar
  refine ⟨List.cons_ne_nil _ _, ?_, ?_, ?_⟩
  · rw [← front]
    exact fun other mem => List.mem_takeWhile_imp mem
  · rintro other ⟨⟩
    exact start
  · rw [← front, startsFilter_takeWhile_iff]
    exact readFilter?_eq_none_iff.mp noFilter

/-- Whether nothing is attached to a dash: white space, a closing parenthesis or the end of the
query follows. -/
def NothingAttached (rest : List Char) : Prop :=
  ∀ next ∈ rest.head?, Text.isWhiteSpace next = true ∨ next = ')'

theorem nothingAttached_cons {next : Char} {rest : List Char} :
    NothingAttached (next :: rest) ↔ Text.isWhiteSpace next = true ∨ next = ')' := by
  simp [NothingAttached]

theorem isWordStart_of_isFieldNameChar {c : Char} (nameChar : isFieldNameChar c = true) :
    isWordStart c = true := by
  rw [isWordStart_iff]
  refine ⟨isWordChar_of_isFieldNameChar nameChar, ?_, ?_, ?_, ?_⟩
  all_goals
    rintro rfl
    exact absurd nameChar (by decide)

/-- A filter starts with a letter of its field. -/
theorem isWordStart_of_startsFilter {c : Char} {rest : List Char}
    (starts : StartsFilter (c :: rest)) : isWordStart c = true := by
  obtain ⟨field, name, later, spells, whole⟩ := starts
  cases name with
  | nil => exact absurd spells (by cases field <;> decide)
  | cons first others =>
      obtain ⟨rfl, _⟩ := List.cons.inj whole
      exact isWordStart_of_isFieldNameChar (isFieldNameChar_of_mem spells List.mem_cons_self)

section Fronts

variable {source rest : List Char}

theorem takes_space {c : Char} (isSpace : Text.isWhiteSpace c = true) (rest : List Char) :
    Takes none [c] rest :=
  ⟨c, [], rfl, if_pos isSpace⟩

theorem takes_opening (rest : List Char) : Takes (some .openGroup) ['('] rest :=
  ⟨_, _, rfl, rfl⟩

theorem takes_closing (rest : List Char) : Takes (some .closeGroup) [')'] rest :=
  ⟨_, _, rfl, rfl⟩

theorem takes_phrase {value : List Char} (quoted : readQuoted (source ++ rest) = (value, rest)) :
    Takes (some (.phrase (String.ofList value))) ('"' :: source) rest := by
  refine ⟨_, _, rfl, ?_⟩
  have phrase : read '"' (source ++ rest) =
      (some (.phrase (String.ofList (readQuoted (source ++ rest)).1)),
        (readQuoted (source ++ rest)).2) := rfl
  rw [phrase, quoted]

theorem takes_filter {token : Token} (found : readFilter? (source ++ rest) = some (token, rest)) :
    Takes (some token) source rest := by
  cases source with
  | nil => exact absurd (readFilter?_length_lt found) (Nat.lt_irrefl _)
  | cons c others =>
      refine ⟨c, others, rfl, ?_⟩
      have starts : StartsFilter (c :: (others ++ rest)) := by
        by_contra noFilter
        rw [List.cons_append, readFilter?_eq_none_iff.mpr noFilter] at found
        contradiction
      rw [List.cons_append] at found
      rw [read_of_isWordStart (isWordStart_of_startsFilter starts), found]

theorem takes_dash (alone : NothingAttached rest) : Takes none ['-'] rest := by
  refine ⟨_, _, rfl, ?_⟩
  cases rest with
  | nil => rfl
  | cons next rest =>
      have skipped : (Text.isWhiteSpace next || next == ')') = true := by
        simpa using nothingAttached_cons.mp alone
      have read : read '-' (next :: rest) =
          (if Text.isWhiteSpace next || next == ')' then none else some .minus, next :: rest) :=
        rfl
      rw [List.nil_append, read, if_pos skipped]

theorem takes_minus (attached : ¬ NothingAttached rest) : Takes (some .minus) ['-'] rest := by
  refine ⟨_, _, rfl, ?_⟩
  cases rest with
  | nil => exact absurd (by simp [NothingAttached]) attached
  | cons next rest =>
      have kept : ¬(Text.isWhiteSpace next || next == ')') = true := by
        simpa [nothingAttached_cons] using attached
      have read : read '-' (next :: rest) =
          (if Text.isWhiteSpace next || next == ')' then none else some .minus, next :: rest) :=
        rfl
      rw [List.nil_append, read, if_neg kept]

theorem takes_operator {operator : Operator} (longest : IsLongest operator rest) :
    Takes (some (.operator operator)) operator.symbol.toList rest := by
  have found := readOperator?_eq_some_iff.mpr ⟨rfl, longest⟩
  obtain ⟨c, symbol, spelled, sign⟩ : ∃ c symbol, operator.symbol.toList = c :: symbol ∧
      (c = '<' ∨ c = '>' ∨ c = '=') := by
    cases operator with
    | equal => exact ⟨_, _, rfl, by decide⟩
    | ordering comparison => cases comparison <;> exact ⟨_, _, rfl, by decide⟩
  refine ⟨c, symbol, spelled, ?_⟩
  rw [spelled, List.cons_append] at found
  rcases sign with rfl | rfl | rfl
  all_goals
    unfold read
    rw [found]
    rfl

/-- A run ends where no further word character stands. -/
theorem takes_run {run : List Char} (isRun : IsRun run) (stops : Stops isWordChar rest) :
    Takes (some (ofWord run)) run rest := by
  obtain ⟨c, others, rfl⟩ := List.exists_cons_of_ne_nil isRun.nonempty
  have start : isWordStart c = true := isRun.start c rfl
  have whole := takeWhile_append_of_stops isRun.wordChars stops
  have noFilter : readFilter? (c :: (others ++ rest)) = none := by
    rw [readFilter?_eq_none_iff, ← startsFilter_takeWhile_iff, ← List.cons_append, whole]
    exact isRun.noFilter
  have inside : ∀ other ∈ others, isWordChar other = true := by
    intro other mem
    exact isRun.wordChars other (List.mem_cons_of_mem c mem)
  refine ⟨c, others, rfl, ?_⟩
  rw [read_of_isWordStart start, noFilter]
  simp only [takeWhile_append_of_stops inside stops, dropWhile_append_of_stops inside stops]

end Fronts

/-! ## The tokens of a text -/

/-- Induction along the places where tokens and skipped characters start. -/
@[elab_as_elim]
theorem readingInduction {motive : List Char → Prop} (nil : motive [])
    (step : ∀ c rest, motive (read c rest).2 → motive (c :: rest)) (text : List Char) :
    motive text := by
  match text with
  | [] => exact nil
  | c :: rest => exact step c rest (readingInduction nil step (read c rest).2)
termination_by text.length
decreasing_by exact Nat.lt_succ_of_le (read_length_le c rest)

theorem Takes.ofText {token : Option Token} {source rest : List Char}
    (takes : Takes token source rest) :
    ofText (source ++ rest) = token.toList ++ ofText rest := by
  obtain ⟨c, others, rfl, taken⟩ := takes
  rw [List.cons_append, ofText_cons, taken]

section Fronts

variable (rest : List Char)

@[simp]
theorem ofText_space : ofText (' ' :: rest) = ofText rest :=
  (takes_space (by decide) rest).ofText

@[simp]
theorem ofText_opening : ofText ('(' :: rest) = .openGroup :: ofText rest :=
  (takes_opening rest).ofText

@[simp]
theorem ofText_closing : ofText (')' :: rest) = .closeGroup :: ofText rest :=
  (takes_closing rest).ofText

/-- A quoted text ends at the next quote, whatever follows. -/
theorem ofText_phrase {value : List Char} (noQuote : '"' ∉ value) :
    ofText ('"' :: (value ++ '"' :: rest)) = .phrase (String.ofList value) :: ofText rest := by
  have quoted : readQuoted ((value ++ ['"']) ++ rest) = (value, rest) := by
    rw [List.append_assoc]
    exact readQuoted_append_quote noQuote rest
  simpa using (takes_phrase quoted).ofText

/-- A filter with a quoted value ends with that value, whatever follows. -/
theorem ofText_filter (field : Field) (operator : Operator) {value : List Char}
    (noQuote : '"' ∉ value) :
    ofText (field.text.toList ++ ':' :: (operator.symbol.toList ++ '"' :: (value ++ '"' :: rest))) =
      .filter field operator (String.ofList value) :: ofText rest := by
  have found : readFilter? ((field.text.toList ++
      ':' :: (operator.symbol.toList ++ '"' :: (value ++ ['"']))) ++ rest) =
        some (.filter field operator (String.ofList value), rest) := by
    simpa using readFilter?_quoted field operator noQuote rest
  simpa using (takes_filter found).ofText

/-- A dash before another negates, and the other one is skipped if nothing is attached
to it. -/
theorem ofText_minus (alone : NothingAttached rest) :
    ofText ('-' :: '-' :: rest) = .minus :: ofText rest := by
  have attached : ¬ NothingAttached ('-' :: rest) := by
    rw [nothingAttached_cons]
    decide
  have first := (takes_minus attached).ofText
  have second := (takes_dash alone).ofText
  simp only [List.singleton_append, Option.toList_some, Option.toList_none, List.nil_append]
    at first second
  rw [first, second]

/-- An operator is read where its symbol stands and no longer one does. -/
theorem ofText_operator (operator : Operator) {rest : List Char} (stops : Stops (· == '=') rest) :
    ofText (operator.symbol.toList ++ rest) = .operator operator :: ofText rest :=
  (takes_operator fun _ => stops).ofText

end Fronts

/-- A run ends where no further word character stands. -/
theorem ofText_run {run rest : List Char} (isRun : IsRun run) (stops : Stops isWordChar rest) :
    ofText (run ++ rest) = ofWord run :: ofText rest :=
  (takes_run isRun stops).ofText

end SearchQuery.Token
