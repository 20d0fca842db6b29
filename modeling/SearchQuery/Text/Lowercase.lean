import SearchQuery.Text.CaseRanges
import SearchQuery.Text.LowercaseRuns

/-!
# Lower case

`lowercase` maps a text to lower case by the full Unicode mapping. Two rules go
beyond a table of single code points: capital I with a dot above (U+0130)
becomes two code points, and a capital sigma becomes the final form when it ends
a word. A sigma ends a word when a cased character stands before it and none
after it, where case-ignorable characters in between are skipped.
-/

namespace SearchQuery.Text

/-- Whether a character is a letter that takes part in letter case. -/
def isCased (c : Char) : Bool :=
  casedRanges.contains c.toNat

/-- Whether a character is skipped when the context of a letter is examined. -/
def isCaseIgnorable (c : Char) : Bool :=
  caseIgnorableRanges.contains c.toNat

/-- The image of a code point under the first run that holds it. -/
def lowercaseIn : List LowercaseRun → Nat → Nat
  | [], code => code
  | run :: later, code =>
      if code < run.first then code
      else if code ≤ run.last then
        if (code - run.first) % run.step = 0 then code - run.first + run.image else code
      else lowercaseIn later code

/-- The lower-case form of one character outside any word. -/
def lowercaseChar (c : Char) : List Char :=
  if c.toNat = 0x0130 then ['i', '\u0307']
  else [Char.ofNat (lowercaseIn lowercaseRuns c.toNat)]

/-- Whether the first character that case context does not skip is cased. -/
def startsCased (text : List Char) : Bool :=
  match text.dropWhile isCaseIgnorable with
  | [] => false
  | c :: _ => isCased c

/-- Lower-case `text`, prepending the result, in reverse, to `done`. The flag
`afterCased` says whether the last character before `text` that case context
does not skip is cased. -/
def lowercaseOnto (done : List Char) (afterCased : Bool) : List Char → List Char
  | [] => done.reverse
  | c :: rest =>
      let image :=
        if c = 'Σ' then [if afterCased && !startsCased rest then 'ς' else 'σ']
        else lowercaseChar c
      let nextAfterCased := if isCaseIgnorable c then afterCased else isCased c
      lowercaseOnto (image.reverse ++ done) nextAfterCased rest

/-- What was done before the rest is reached stands in front of it. -/
theorem lowercaseOnto_eq_append (done : List Char) (afterCased : Bool) (text : List Char) :
    lowercaseOnto done afterCased text = done.reverse ++ lowercaseOnto [] afterCased text := by
  induction text generalizing done afterCased with
  | nil => simp [lowercaseOnto]
  | cons c rest ih =>
      simp only [lowercaseOnto]
      rw [ih, ih (List.reverse _ ++ [])]
      simp

/-- The lower-case form of a text. -/
def lowercase (text : List Char) : List Char :=
  lowercaseOnto [] false text

end SearchQuery.Text
