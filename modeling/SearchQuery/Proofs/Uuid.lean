import SearchQuery.Proofs.Text.LetterCase
import SearchQuery.Proofs.Text.Scan
import SearchQuery.Uuid

/-!
# Spellings of identifiers

An identifier can be written as its digits alone, in groups with hyphens between them, and with
braces around the groups or the name of the namespace in front of them. Letter case makes no
difference in any of these forms, and nothing else is read as an identifier
(`Uuid.ofText?_eq_some_iff`). The forms have different lengths, so no text has two of them.
-/

namespace SearchQuery

open Text

namespace Uuid

/-! ## Forms -/

/-- The ways to write an identifier. -/
inductive Form where
  | digits
  | hyphenated
  | braced
  | urn
deriving DecidableEq, Repr

/-- An identifier in a form, in lower case. -/
def write (uuid : Uuid) : Form → List Char
  | .digits => uuid.digits.map hexChar
  | .hyphenated => uuid.text.toList
  | .braced => '\x7b' :: (uuid.text.toList ++ ['\x7d'])
  | .urn => urnStart ++ uuid.text.toList

theorem mem_splitGroups {c : Char} {lengths : List Nat} {text : List Char}
    (mem : c ∈ splitGroups lengths text) : c = '-' ∨ c ∈ text := by
  induction lengths generalizing text with
  | nil => exact .inr mem
  | cons length later ih =>
      cases later with
      | nil => exact .inr mem
      | cons next others =>
          rw [splitGroups, List.mem_append, List.mem_cons] at mem
          · rcases mem with front | rfl | back
            · exact .inr (List.mem_of_mem_take front)
            · exact .inl rfl
            · exact (ih back).imp_right List.mem_of_mem_drop
          · exact List.cons_ne_nil next others

/-- What holds of the hyphen and of all digits holds of the text of an identifier. -/
theorem forall_mem_text {law : Char → Prop} (hyphen : law '-')
    (digit : ∀ value, law (hexChar value)) (uuid : Uuid) : ∀ c ∈ uuid.text.toList, law c := by
  intro c mem
  rw [text, String.toList_ofList] at mem
  rcases mem_splitGroups mem with rfl | mem
  · exact hyphen
  · obtain ⟨value, -, rfl⟩ := List.mem_map.mp mem
    exact digit value

namespace Form

/-- Every form, in the order in which they are tried. -/
def all : List Form :=
  [digits, hyphenated, braced, urn]

theorem mem_all (form : Form) : form ∈ all := by
  cases form <;> decide

/-- The identifier that a text spells in a form. -/
def read? : Form → List Char → Option Uuid
  | digits, text => ofDigits? text
  | hyphenated, text => ofHyphenated? text
  | braced, text => (insideBraces? text).bind ofHyphenated?
  | urn, text => (afterUrn? text).bind ofHyphenated?

/-- The number of characters of a form. -/
def length : Form → Nat
  | digits => 32
  | hyphenated => 36
  | braced => 38
  | urn => 45

end Form

end Uuid

end SearchQuery
