import SearchQuery.Text.CodePointRanges

/-!
# White space

White space is the Unicode property `White_Space`. Queries are split at it,
values are trimmed of it, and a value made of nothing else is blank.
-/

namespace SearchQuery.Text

/-- Runs of white-space code points, in increasing order. -/
def whiteSpaceRanges : CodePointRanges := [
  (0x0009, 0x000D), (0x0020, 0x0020), (0x0085, 0x0085), (0x00A0, 0x00A0), (0x1680, 0x1680),
  (0x2000, 0x200A), (0x2028, 0x2029), (0x202F, 0x202F), (0x205F, 0x205F), (0x3000, 0x3000)]

/-- Whether a character has the property `White_Space`. -/
def isWhiteSpace (c : Char) : Bool :=
  whiteSpaceRanges.contains c.toNat

/-- The text from its first character that is not white space. -/
def trimStart (text : List Char) : List Char :=
  text.dropWhile isWhiteSpace

/-- The text up to its last character that is not white space. -/
def trimEnd (text : List Char) : List Char :=
  (text.reverse.dropWhile isWhiteSpace).reverse

/-- The text without white space at its two ends. -/
def trim (text : List Char) : List Char :=
  trimEnd (trimStart text)

/-- Whether a string holds nothing but white space. -/
def isBlank (value : String) : Bool :=
  value.toList.all isWhiteSpace

theorem isBlank_iff {value : String} :
    isBlank value = true ↔ ∀ c ∈ value.toList, isWhiteSpace c = true :=
  List.all_eq_true

/-- Trimming at the front leaves no white space there. -/
theorem head_trimStart {c : Char} {text : List Char} (first : (trimStart text).head? = some c) :
    isWhiteSpace c = false := by
  have stopped := List.head?_dropWhile_not isWhiteSpace text
  unfold trimStart at first
  rw [first] at stopped
  simpa using stopped

/-- Trimming only takes characters away. -/
theorem trim_sublist (text : List Char) : (trim text).Sublist text := by
  have atEnd : (trimEnd (trimStart text)).Sublist (trimStart text) := by
    have dropped := (List.dropWhile_sublist isWhiteSpace (l := (trimStart text).reverse)).reverse
    simpa [trimEnd] using dropped
  exact atEnd.trans (List.dropWhile_sublist isWhiteSpace)

end SearchQuery.Text
