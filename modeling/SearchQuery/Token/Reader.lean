import SearchQuery.Text.WhiteSpace
import SearchQuery.Token

/-!
# Reading a query as tokens

`Token.ofQuery` never fails: what is neither a filter, a keyword nor punctuation
is a word. One token, or one skipped character, is read at a time by `Token.read`,
which never leaves more than the characters after the one it was given.
-/

namespace SearchQuery.Token

/-- Whether a character may stand inside a bare word. -/
def isWordChar (c : Char) : Bool :=
  !Text.isWhiteSpace c && c != '(' && c != ')' && c != '"'

/-- Whether a character may stand in the name of a field. -/
def isFieldNameChar (c : Char) : Bool :=
  c.isAlpha || c == '_'

/-- The keyword that a word spells, in any ASCII case, or the word itself. -/
def ofWord (word : List Char) : Token :=
  if Text.sameIgnoringAsciiCase word ['a', 'n', 'd'] then .and
  else if Text.sameIgnoringAsciiCase word ['o', 'r'] then .or
  else if Text.sameIgnoringAsciiCase word ['n', 'o', 't'] then .not
  else .word (String.ofList word)

/-- The text up to the next quote, and what follows that quote. Without a quote
the text runs to the end. -/
def readQuoted (text : List Char) : List Char × List Char :=
  (text.takeWhile (· != '"'), (text.dropWhile (· != '"')).drop 1)

/-- The longest operator at the start of the text, and what follows it. -/
def readOperator? : List Char → Option (Operator × List Char)
  | '<' :: '=' :: rest => some (.ordering .lessOrEqual, rest)
  | '>' :: '=' :: rest => some (.ordering .greaterOrEqual, rest)
  | '<' :: rest => some (.ordering .less, rest)
  | '>' :: rest => some (.ordering .greater, rest)
  | '=' :: rest => some (.equal, rest)
  | _ => none

/-- The value of a filter: a quoted text or a run of word characters, which may
be empty. -/
def readValue : List Char → List Char × List Char
  | '"' :: rest => readQuoted rest
  | text => (text.takeWhile isWordChar, text.dropWhile isWordChar)

/-- The filter at the start of the text: a known field name, a colon, possibly an
operator, and a value. -/
def readFilter? (text : List Char) : Option (Token × List Char) :=
  match text.dropWhile isFieldNameChar with
  | ':' :: afterColon =>
      (Field.ofName? (text.takeWhile isFieldNameChar)).map fun field =>
        let comparison := (readOperator? afterColon).getD (.equal, afterColon)
        let value := readValue comparison.2
        (.filter field comparison.1 (String.ofList value.1), value.2)
  | _ => none

/-- The token that starts with the character `c`, and the text after it; no token
for a character that is skipped. A dash negates what it is attached to, and is
skipped where nothing is attached. -/
def read (c : Char) (rest : List Char) : Option Token × List Char :=
  if Text.isWhiteSpace c then (none, rest)
  else if c = '(' then (some .openGroup, rest)
  else if c = ')' then (some .closeGroup, rest)
  else if c = '"' then
    (some (.phrase (String.ofList (readQuoted rest).1)), (readQuoted rest).2)
  else if c = '-' then
    match rest with
    | [] => (none, rest)
    | next :: _ => (if Text.isWhiteSpace next || next == ')' then none else some .minus, rest)
  else
    match readOperator? (c :: rest) with
    | some (symbol, after) => (some (.operator symbol), after)
    | none =>
        match readFilter? (c :: rest) with
        | some (token, after) => (some token, after)
        | none => (some (ofWord (c :: rest.takeWhile isWordChar)), rest.dropWhile isWordChar)

theorem length_dropWhile_le {α : Type} (p : α → Bool) (text : List α) :
    (text.dropWhile p).length ≤ text.length :=
  (List.dropWhile_sublist p).length_le

theorem readQuoted_length_le (text : List Char) :
    (readQuoted text).2.length ≤ text.length := by
  have bound := length_dropWhile_le (· != '"') text
  simp only [readQuoted, List.length_drop]
  omega

theorem readOperator?_length_lt {text rest : List Char} {operator : Operator}
    (found : readOperator? text = some (operator, rest)) : rest.length < text.length := by
  unfold readOperator? at found
  split at found <;> cases found <;> simp only [List.length_cons] <;> omega

theorem readValue_length_le (text : List Char) : (readValue text).2.length ≤ text.length := by
  unfold readValue
  split
  · exact Nat.le_succ_of_le (readQuoted_length_le _)
  · exact length_dropWhile_le _ _

theorem readFilter?_length_lt {text rest : List Char} {token : Token}
    (found : readFilter? text = some (token, rest)) : rest.length < text.length := by
  unfold readFilter? at found
  split at found
  · rename_i afterColon colonSplit
    have bound := length_dropWhile_le isFieldNameChar text
    rw [colonSplit, List.length_cons] at bound
    obtain ⟨field, _, readRest⟩ := Option.map_eq_some_iff.mp found
    simp only [Prod.mk.injEq] at readRest
    obtain ⟨_, rfl⟩ := readRest
    have valueBound := readValue_length_le ((readOperator? afterColon).getD (.equal, afterColon)).2
    cases operatorFound : readOperator? afterColon with
    | none =>
        simp only [operatorFound, Option.getD_none] at valueBound ⊢
        omega
    | some step =>
        obtain ⟨symbol, afterSymbol⟩ := step
        have operatorBound := readOperator?_length_lt operatorFound
        simp only [operatorFound, Option.getD_some] at valueBound ⊢
        omega
  · simp at found

/-- Reading consumes at least the character it is given. -/
theorem read_length_le (c : Char) (rest : List Char) : (read c rest).2.length ≤ rest.length := by
  unfold read
  split
  · simp
  split
  · simp
  split
  · simp
  split
  · exact readQuoted_length_le rest
  split
  · split <;> simp
  split
  · rename_i found
    have bound := readOperator?_length_lt found
    simp only [List.length_cons] at bound ⊢
    omega
  split
  · rename_i found
    have bound := readFilter?_length_lt found
    simp only [List.length_cons] at bound ⊢
    omega
  · exact length_dropWhile_le _ _

/-- Read `text` to its end. The tokens read before it stand, in reverse, in
`done`. -/
def readOnto (done : List Token) : List Char → List Token
  | [] => (.endOfQuery :: done).reverse
  | c :: rest => readOnto ((read c rest).1.toList ++ done) (read c rest).2
termination_by text => text.length
decreasing_by exact Nat.lt_succ_of_le (read_length_le c rest)

/-- What was read before the rest is reached stands in front of it. -/
theorem readOnto_eq_append (done : List Token) (text : List Char) :
    readOnto done text = done.reverse ++ readOnto [] text := by
  match text with
  | [] => simp [readOnto]
  | c :: rest =>
      rw [readOnto, readOnto_eq_append ((read c rest).1.toList ++ done), readOnto,
        readOnto_eq_append ((read c rest).1.toList ++ [])]
      cases (read c rest).1 <;> simp
termination_by text.length
decreasing_by
  · exact Nat.lt_succ_of_le (read_length_le c rest)
  · exact Nat.lt_succ_of_le (read_length_le c rest)

/-- The tokens of a text, the end marker last. -/
def ofText (text : List Char) : List Token :=
  readOnto [] text

@[simp]
theorem ofText_nil : ofText [] = [.endOfQuery] := by
  simp [ofText, readOnto]

/-- The tokens of a text are what is read at its front and the tokens of the rest. -/
theorem ofText_cons (c : Char) (rest : List Char) :
    ofText (c :: rest) = (read c rest).1.toList ++ ofText (read c rest).2 := by
  rw [ofText, readOnto, readOnto_eq_append, ofText]
  cases (read c rest).1 <;> simp

/-- The tokens of a query, the end marker last. -/
def ofQuery (query : String) : List Token :=
  ofText query.toList

end SearchQuery.Token
