import SearchQuery.SearchTerm
import SearchQuery.Text.AsciiCase
import SearchQuery.Text.Lowercase

/-!
# Texts in one case of ASCII letters

When all ASCII letters of a text are put into one case, every other character stays as it is, and a
letter stays a letter. So whatever does not tell ASCII letters from each other is kept:
`LetterCase.apply_congr` reduces such a law to a check of the ASCII characters. Lower case by the
full mapping, with its rule for sigmas, does not see a difference at all (`lowercase_recase`).
-/

namespace SearchQuery.Text

/-- The two cases of letters. -/
inductive LetterCase where
  | upper
  | lower
deriving DecidableEq, Repr

namespace LetterCase

/-- A character in the given case if it is an ASCII letter; otherwise the character itself. -/
def apply : LetterCase → Char → Char
  | upper, c => c.toUpper
  | lower, c => c.toLower

/-- A value with all ASCII letters in the given case. -/
def recase (letterCase : LetterCase) (value : String) : String :=
  String.ofList (value.toList.map letterCase.apply)

@[simp]
theorem toList_recase (letterCase : LetterCase) (value : String) :
    (letterCase.recase value).toList = value.toList.map letterCase.apply :=
  String.toList_ofList

@[simp]
theorem recase_ofList (letterCase : LetterCase) (text : List Char) :
    letterCase.recase (String.ofList text) = String.ofList (text.map letterCase.apply) := by
  rw [recase, String.toList_ofList]

/-! ## Characters -/

section Characters

variable (letterCase : LetterCase)

/-- Beyond ASCII nothing changes. -/
theorem apply_of_le {c : Char} (beyond : 128 ≤ c.toNat) : letterCase.apply c = c := by
  have own : c.val.toNat = c.toNat := rfl
  have outside {first last : Char} (ascii : last.toNat < 128) :
      ¬(first.val ≤ c.val ∧ c.val ≤ last.val) := by
    rintro ⟨_, within⟩
    have code : last.val.toNat = last.toNat := rfl
    rw [UInt32.le_iff_toNat_le] at within
    omega
  cases letterCase with
  | upper => exact dif_neg (outside (by decide))
  | lower => exact dif_neg (outside (by decide))

/-- What does not tell the ASCII letters of one case from those of the other is kept. -/
theorem apply_congr {β : Type} {law : Char → β}
    (ascii : ∀ code < 128, law (Char.ofNat code).toUpper = law (Char.ofNat code) ∧
      law (Char.ofNat code).toLower = law (Char.ofNat code)) (c : Char) :
    law (letterCase.apply c) = law c := by
  by_cases beyond : 128 ≤ c.toNat
  · rw [letterCase.apply_of_le beyond]
  · have each := ascii c.toNat (Nat.lt_of_not_le beyond)
    rw [Char.ofNat_toNat] at each
    cases letterCase with
    | upper => exact each.1
    | lower => exact each.2

/-- What is asked of characters without regard to the case of ASCII letters. -/
structure Traits where
  whiteSpace : Bool
  alphanumeric : Bool
  quote : Bool
  cased : Bool
  caseIgnorable : Bool
  letter : Bool
  /-- The character itself, if it is no ASCII letter. -/
  mark : Option Char
  lower : Char
  lowercase : List Char
deriving DecidableEq

/-- The traits of a character. -/
def traits (c : Char) : Traits where
  whiteSpace := isWhiteSpace c
  alphanumeric := isAlphanumeric c
  quote := isQuote c
  cased := isCased c
  caseIgnorable := isCaseIgnorable c
  letter := c.isAlpha
  mark := if c.isAlpha then none else some c
  lower := c.toLower
  lowercase := lowercaseChar c

theorem traits_apply (c : Char) : traits (letterCase.apply c) = traits c :=
  letterCase.apply_congr (by decide +kernel) c

theorem isWhiteSpace_apply (c : Char) : isWhiteSpace (letterCase.apply c) = isWhiteSpace c :=
  congrArg Traits.whiteSpace (letterCase.traits_apply c)

theorem isAlphanumeric_apply (c : Char) :
    isAlphanumeric (letterCase.apply c) = isAlphanumeric c :=
  congrArg Traits.alphanumeric (letterCase.traits_apply c)

theorem isQuote_apply (c : Char) : isQuote (letterCase.apply c) = isQuote c :=
  congrArg Traits.quote (letterCase.traits_apply c)

theorem isCased_apply (c : Char) : isCased (letterCase.apply c) = isCased c :=
  congrArg Traits.cased (letterCase.traits_apply c)

theorem isCaseIgnorable_apply (c : Char) :
    isCaseIgnorable (letterCase.apply c) = isCaseIgnorable c :=
  congrArg Traits.caseIgnorable (letterCase.traits_apply c)

theorem toLower_apply (c : Char) : (letterCase.apply c).toLower = c.toLower :=
  congrArg Traits.lower (letterCase.traits_apply c)

theorem lowercaseChar_apply (c : Char) : lowercaseChar (letterCase.apply c) = lowercaseChar c :=
  congrArg Traits.lowercase (letterCase.traits_apply c)

theorem isAlpha_apply (c : Char) : (letterCase.apply c).isAlpha = c.isAlpha :=
  congrArg Traits.letter (letterCase.traits_apply c)

theorem apply_of_isAlpha_eq_false {c : Char} (other : c.isAlpha = false) :
    letterCase.apply c = c := by
  have same : (if (letterCase.apply c).isAlpha then none else some (letterCase.apply c)) =
      if c.isAlpha then none else some c :=
    congrArg Traits.mark (letterCase.traits_apply c)
  rwa [letterCase.isAlpha_apply, other, if_neg Bool.false_ne_true, if_neg Bool.false_ne_true,
    Option.some_inj] at same

/-- No letter becomes another character, and no other character changes. -/
theorem apply_eq_iff {mark : Char} (noLetter : mark.isAlpha = false) (c : Char) :
    letterCase.apply c = mark ↔ c = mark := by
  constructor
  · intro same
    have other : c.isAlpha = false := by
      rw [← letterCase.isAlpha_apply, same, noLetter]
    rwa [letterCase.apply_of_isAlpha_eq_false other] at same
  · rintro rfl
    exact letterCase.apply_of_isAlpha_eq_false noLetter

end Characters

/-! ## Texts -/

section Texts

variable (letterCase : LetterCase) (text : List Char)

theorem map_toLower_map :
    (text.map letterCase.apply).map Char.toLower = text.map Char.toLower := by
  rw [List.map_map]
  exact List.map_congr_left fun c _ => letterCase.toLower_apply c

theorem sameIgnoringAsciiCase_map_left (other : List Char) :
    sameIgnoringAsciiCase (text.map letterCase.apply) other = sameIgnoringAsciiCase text other := by
  rw [sameIgnoringAsciiCase, map_toLower_map]
  rfl

theorem sameIgnoringAsciiCase_map_right (other : List Char) :
    sameIgnoringAsciiCase other (text.map letterCase.apply) = sameIgnoringAsciiCase other text := by
  rw [sameIgnoringAsciiCase, map_toLower_map]
  rfl

theorem trim_map : trim (text.map letterCase.apply) = (trim text).map letterCase.apply := by
  have same : isWhiteSpace ∘ letterCase.apply = isWhiteSpace :=
    funext letterCase.isWhiteSpace_apply
  rw [trim, trimStart, trimEnd, List.dropWhile_map, same, ← List.map_reverse, List.dropWhile_map,
    same, ← List.map_reverse]
  rfl

theorem stripQuotes_map :
    stripQuotes (text.map letterCase.apply) = (stripQuotes text).map letterCase.apply := by
  have same : (fun c => !isQuote c) ∘ letterCase.apply = fun c => !isQuote c :=
    funext fun c => congrArg (!·) (letterCase.isQuote_apply c)
  rw [stripQuotes, trim_map, List.filter_map, same, trim_map, stripQuotes]

theorem startsCased_map : startsCased (text.map letterCase.apply) = startsCased text := by
  have same : isCaseIgnorable ∘ letterCase.apply = isCaseIgnorable :=
    funext letterCase.isCaseIgnorable_apply
  rw [startsCased, List.dropWhile_map, same, startsCased]
  cases text.dropWhile isCaseIgnorable with
  | nil => rfl
  | cons c rest => exact letterCase.isCased_apply c

/-- Lower case makes the same of a text in every case of its ASCII letters: neither the letters nor
the words around a sigma differ. -/
theorem lowercase_map : lowercase (text.map letterCase.apply) = lowercase text := by
  have isSigma : ∀ c, letterCase.apply c = 'Σ' ↔ c = 'Σ' := letterCase.apply_eq_iff (by decide)
  suffices onto : ∀ done afterCased,
      lowercaseOnto done afterCased (text.map letterCase.apply) =
        lowercaseOnto done afterCased text from
    onto [] false
  induction text with
  | nil => exact fun _ _ => rfl
  | cons c rest ih =>
      intro done afterCased
      rw [List.map_cons, lowercaseOnto, lowercaseOnto, startsCased_map, lowercaseChar_apply,
        isCaseIgnorable_apply, isCased_apply, ih]
      simp only [isSigma]

end Texts

/-! ## Values -/

section Values

variable (letterCase : LetterCase) (value : String)

theorem isBlank_recase : isBlank (letterCase.recase value) = isBlank value := by
  have same : isWhiteSpace ∘ letterCase.apply = isWhiteSpace :=
    funext letterCase.isWhiteSpace_apply
  rw [isBlank, toList_recase, List.all_map, same, isBlank]

/-- The term in a value changes with the value. -/
theorem searchTerm?_recase :
    searchTerm? (letterCase.recase value) = (searchTerm? value).map letterCase.recase := by
  have same : isAlphanumeric ∘ letterCase.apply = isAlphanumeric :=
    funext letterCase.isAlphanumeric_apply
  rw [searchTerm?, toList_recase, stripQuotes_map, List.any_map, same, searchTerm?]
  split
  · rw [Option.map_some, recase_ofList]
  · rfl

end Values

end LetterCase

end SearchQuery.Text
