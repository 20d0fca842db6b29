/-!
# Hangul syllables

The syllables U+AC00 to U+D7A3 are arranged so that arithmetic gives their
jamo: 588 syllables for each leading consonant, 28 for each vowel, and within
those one without and 27 with a trailing consonant.
-/

namespace SearchQuery.Text.Hangul

/-- The first syllable. -/
def syllableBase : Nat := 0xAC00
/-- The first leading consonant. -/
def leadingBase : Nat := 0x1100
/-- The first vowel. -/
def vowelBase : Nat := 0x1161
/-- One below the first trailing consonant. -/
def trailingBase : Nat := 0x11A7
/-- The number of leading consonants. -/
def leadingCount : Nat := 19
/-- The number of vowels. -/
def vowelCount : Nat := 21
/-- The number of trailing consonants, the absent one included. -/
def trailingCount : Nat := 28
/-- The number of syllables. -/
def syllableCount : Nat := leadingCount * vowelCount * trailingCount

/-- The jamo of a syllable; nothing for any other code point. -/
def decompose? (code : Nat) : Option (List Nat) :=
  if syllableBase ≤ code ∧ code < syllableBase + syllableCount then
    let index := code - syllableBase
    let leading := leadingBase + index / (vowelCount * trailingCount)
    let vowel := vowelBase + index % (vowelCount * trailingCount) / trailingCount
    let trailing := index % trailingCount
    some (if trailing = 0 then [leading, vowel] else [leading, vowel, trailingBase + trailing])
  else none

/-- The syllable of a leading consonant and a vowel, or of a syllable without a
trailing consonant and a trailing consonant; nothing for any other pair. -/
def compose? (first second : Nat) : Option Nat :=
  if leadingBase ≤ first ∧ first < leadingBase + leadingCount ∧
      vowelBase ≤ second ∧ second < vowelBase + vowelCount then
    some (syllableBase +
      ((first - leadingBase) * vowelCount + (second - vowelBase)) * trailingCount)
  else if syllableBase ≤ first ∧ first < syllableBase + syllableCount ∧
      (first - syllableBase) % trailingCount = 0 ∧
      trailingBase < second ∧ second < trailingBase + trailingCount then
    some (first + (second - trailingBase))
  else none

end SearchQuery.Text.Hangul
