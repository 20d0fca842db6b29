import SearchQuery.Text.Lowercase
import Mathlib.Data.List.Infix

/-!
# Lower case of a part of a text

All characters but the capital sigma have the same lower-case form in every text. The form of a
sigma depends on the letters around it, so a text may not have the lower-case form of one of its
parts in its own: that is the case exactly if a sigma of the part ends a word in one of the two
and not in the other (`lowercaseBetween_eq_iff`).
-/

namespace SearchQuery.Text

/-! ## Where words end -/

/-- Whether the last character that case context does not skip is cased. -/
def endsCased (text : List Char) : Bool :=
  startsCased text.reverse

/-- Whether a sigma between two texts ends a word. -/
def endsWord (before after : List Char) : Bool :=
  endsCased before && !startsCased after

theorem startsCased_cons (c : Char) (text : List Char) :
    startsCased (c :: text) = if isCaseIgnorable c then startsCased text else isCased c := by
  unfold startsCased
  rw [List.dropWhile_cons]
  cases isCaseIgnorable c <;> rfl

theorem startsCased_append (text after : List Char) :
    startsCased (text ++ after) =
      if text.all isCaseIgnorable then startsCased after else startsCased text := by
  induction text with
  | nil => rfl
  | cons c rest ih =>
      rw [List.cons_append, startsCased_cons, startsCased_cons, List.all_cons, ih]
      cases isCaseIgnorable c <;> simp

theorem endsCased_append (before text : List Char) :
    endsCased (before ++ text) =
      if text.all isCaseIgnorable then endsCased before else endsCased text := by
  rw [endsCased, List.reverse_append, startsCased_append, List.all_reverse]
  rfl

theorem endsCased_concat (before : List Char) (c : Char) :
    endsCased (before ++ [c]) = if isCaseIgnorable c then endsCased before else isCased c := by
  rw [endsCased, List.reverse_concat, startsCased_cons]
  rfl

/-! ## Parts of a text -/

/-- The lower-case form of a character between two texts. -/
def lowercaseLetter (before after : List Char) (c : Char) : List Char :=
  if c = 'Σ' then [if endsWord before after then 'ς' else 'σ'] else lowercaseChar c

/-- The lower-case form that a part has between the other parts of a text. -/
def lowercaseBetween (before after : List Char) : List Char → List Char
  | [] => []
  | c :: rest =>
      lowercaseLetter before (rest ++ after) c ++ lowercaseBetween (before ++ [c]) after rest

theorem lowercaseOnto_append (before text after : List Char) :
    lowercaseOnto [] (endsCased before) (text ++ after) =
      lowercaseBetween before after text ++
        lowercaseOnto [] (endsCased (before ++ text)) after := by
  induction text generalizing before with
  | nil => simp [lowercaseBetween]
  | cons c rest ih =>
      have later := ih (before ++ [c])
      rw [endsCased_concat, List.append_assoc, List.singleton_append] at later
      rw [List.cons_append, lowercaseOnto, lowercaseOnto_eq_append, later, lowercaseBetween,
        lowercaseLetter]
      simp [endsWord]

theorem lowercaseOnto_eq_lowercaseBetween (before text : List Char) :
    lowercaseOnto [] (endsCased before) text = lowercaseBetween before [] text := by
  have whole := lowercaseOnto_append before text []
  simpa [lowercaseOnto] using whole

theorem lowercase_eq_lowercaseBetween (text : List Char) :
    lowercase text = lowercaseBetween [] [] text :=
  lowercaseOnto_eq_lowercaseBetween [] text

/-- The lower-case form of a text consists of those that its parts have in it. -/
theorem lowercase_append_append (before text after : List Char) :
    lowercase (before ++ (text ++ after)) =
      lowercaseBetween [] (text ++ after) before ++
        (lowercaseBetween before after text ++ lowercaseBetween (before ++ text) [] after) := by
  have first : lowercase (before ++ (text ++ after)) =
      lowercaseBetween [] (text ++ after) before ++
        lowercaseOnto [] (endsCased before) (text ++ after) :=
    lowercaseOnto_append [] before (text ++ after)
  rw [first, lowercaseOnto_append, lowercaseOnto_eq_lowercaseBetween]

/-! ## Sigmas in parts of a text -/

/-- Every capital sigma of a part ends a word in the whole text exactly if it ends one in the
part. -/
def KeepsSigmas (before text after : List Char) : Prop :=
  ∀ front back, text = front ++ 'Σ' :: back →
    endsWord (before ++ front) (back ++ after) = endsWord front back

theorem keepsSigmas_of_notMem {text : List Char} (noSigma : 'Σ' ∉ text)
    (before after : List Char) : KeepsSigmas before text after := by
  rintro front back rfl
  simp at noSigma

theorem lowercaseLetter_of_ne {c : Char} (notSigma : c ≠ 'Σ') (before after : List Char) :
    lowercaseLetter before after c = lowercaseChar c :=
  if_neg notSigma

/-- Without a capital sigma, lower case goes by single characters. -/
theorem lowercaseBetween_of_notMem {text : List Char} (noSigma : 'Σ' ∉ text)
    (before after : List Char) :
    lowercaseBetween before after text = text.flatMap lowercaseChar := by
  induction text generalizing before with
  | nil => rfl
  | cons c rest ih =>
      rw [List.mem_cons, not_or] at noSigma
      rw [lowercaseBetween, lowercaseLetter_of_ne (Ne.symm noSigma.1), ih noSigma.2,
        List.flatMap_cons]

theorem lowercase_of_notMem {text : List Char} (noSigma : 'Σ' ∉ text) :
    lowercase text = text.flatMap lowercaseChar := by
  rw [lowercase_eq_lowercaseBetween, lowercaseBetween_of_notMem noSigma]

theorem lowercaseLetter_sigma (before after : List Char) :
    lowercaseLetter before after 'Σ' = [if endsWord before after then 'ς' else 'σ'] :=
  if_pos rfl

theorem lowercaseLetter_sigma_inj {before after otherBefore otherAfter : List Char} :
    lowercaseLetter before after 'Σ' = lowercaseLetter otherBefore otherAfter 'Σ' ↔
      endsWord before after = endsWord otherBefore otherAfter := by
  rw [lowercaseLetter_sigma, lowercaseLetter_sigma]
  cases endsWord before after <;> cases endsWord otherBefore otherAfter <;> decide

theorem length_lowercaseLetter (before after otherBefore otherAfter : List Char) (c : Char) :
    (lowercaseLetter before after c).length =
      (lowercaseLetter otherBefore otherAfter c).length := by
  by_cases sigma : c = 'Σ'
  · rw [sigma, lowercaseLetter_sigma, lowercaseLetter_sigma]
    rfl
  · rw [lowercaseLetter_of_ne sigma, lowercaseLetter_of_ne sigma]

theorem length_lowercaseBetween (before after otherBefore otherAfter text : List Char) :
    (lowercaseBetween before after text).length =
      (lowercaseBetween otherBefore otherAfter text).length := by
  induction text generalizing before otherBefore with
  | nil => rfl
  | cons c rest ih =>
      rw [lowercaseBetween, lowercaseBetween, List.length_append, List.length_append,
        ih (before ++ [c]) (otherBefore ++ [c]),
        length_lowercaseLetter before _ otherBefore (rest ++ otherAfter)]

/-- Two places give a text the same lower-case form if and only if they agree on the words that
its sigmas end. -/
theorem lowercaseBetween_inj {before after otherBefore otherAfter text : List Char} :
    lowercaseBetween before after text = lowercaseBetween otherBefore otherAfter text ↔
      ∀ front back, text = front ++ 'Σ' :: back →
        endsWord (before ++ front) (back ++ after) =
          endsWord (otherBefore ++ front) (back ++ otherAfter) := by
  induction text generalizing before otherBefore with
  | nil => simp [lowercaseBetween]
  | cons c rest ih =>
      have lengths := length_lowercaseLetter before (rest ++ after) otherBefore
        (rest ++ otherAfter) c
      rw [lowercaseBetween, lowercaseBetween]
      constructor
      · intro same front back split
        obtain ⟨first, others⟩ := List.append_inj same lengths
        have later := ih.mp others
        cases front with
        | nil =>
            obtain ⟨rfl, rfl⟩ : c = 'Σ' ∧ rest = back := by simpa using split
            simpa using lowercaseLetter_sigma_inj.mp first
        | cons d front =>
            obtain ⟨rfl, rfl⟩ : c = d ∧ rest = front ++ 'Σ' :: back := by simpa using split
            simpa using later front back rfl
      · intro agree
        have first : lowercaseLetter before (rest ++ after) c =
            lowercaseLetter otherBefore (rest ++ otherAfter) c := by
          by_cases sigma : c = 'Σ'
          · rw [sigma, lowercaseLetter_sigma_inj]
            simpa using agree [] rest (by rw [sigma]; rfl)
          · rw [lowercaseLetter_of_ne sigma, lowercaseLetter_of_ne sigma]
        have later : lowercaseBetween (before ++ [c]) after rest =
            lowercaseBetween (otherBefore ++ [c]) otherAfter rest := by
          apply ih.mpr
          intro front back split
          simpa using agree (c :: front) back (by rw [split]; rfl)
        rw [first, later]

/-- A part has its own lower-case form in a text if and only if the text keeps its sigmas. -/
theorem lowercaseBetween_eq_iff {before text after : List Char} :
    lowercaseBetween before after text = lowercase text ↔ KeepsSigmas before text after := by
  rw [lowercase_eq_lowercaseBetween, lowercaseBetween_inj]
  simp [KeepsSigmas]

instance (before text after : List Char) : Decidable (KeepsSigmas before text after) :=
  decidable_of_iff _ lowercaseBetween_eq_iff

/-- The lower-case form of a part whose sigmas are kept stands in that of the text. -/
theorem lowercase_infix_of_keepsSigmas {before text after : List Char}
    (keeps : KeepsSigmas before text after) :
    lowercase text <:+: lowercase (before ++ (text ++ after)) := by
  rw [lowercase_append_append, lowercaseBetween_eq_iff.mpr keeps]
  exact ⟨_, _, List.append_assoc _ _ _⟩

/-! ## Parts that are found in every text -/

theorem startsCased_eq_false_of_all {text : List Char} (skipped : text.all isCaseIgnorable = true) :
    startsCased text = false := by
  have alone := startsCased_append text []
  rw [List.append_nil, if_pos skipped] at alone
  exact alone

theorem endsCased_eq_false_of_all {text : List Char} (skipped : text.all isCaseIgnorable = true) :
    endsCased text = false := by
  apply startsCased_eq_false_of_all
  rwa [List.all_reverse]

/-- If the sigmas are kept behind one letter and before one letter, they are kept everywhere. -/
theorem keepsSigmas_of_letters {text : List Char} {first last : Char}
    (firstCased : startsCased [first] = true) (lastCased : startsCased [last] = true)
    (behind : KeepsSigmas [first] text []) (ahead : KeepsSigmas [] text [last])
    (before after : List Char) : KeepsSigmas before text after := by
  intro front back split
  have behindFirst := behind front back split
  have aheadLast := ahead front back split
  have firstEnds : endsCased [first] = true := firstCased
  unfold endsWord at *
  rw [endsCased_append, startsCased_append]
  rw [endsCased_append, List.append_nil, firstEnds] at behindFirst
  rw [List.nil_append, startsCased_append, lastCased] at aheadLast
  by_cases frontSkipped : front.all isCaseIgnorable = true
  · -- Behind the first letter the sigma would end a word, unless a cased letter follows it.
    have notEnded := endsCased_eq_false_of_all frontSkipped
    rw [if_pos frontSkipped, notEnded] at behindFirst
    have started : startsCased back = true := by simpa using behindFirst
    have backKept : ¬ back.all isCaseIgnorable = true := by
      intro backSkipped
      rw [startsCased_eq_false_of_all backSkipped] at started
      contradiction
    rw [if_neg backKept, started, notEnded]
    simp
  · rw [if_neg frontSkipped]
    by_cases backSkipped : back.all isCaseIgnorable = true
    · -- Before the last letter the sigma ends no word, so no cased letter stands before it.
      have notStarted := startsCased_eq_false_of_all backSkipped
      rw [if_pos backSkipped, notStarted] at aheadLast
      have notEnded : endsCased front = false := by simpa using aheadLast
      rw [notEnded]
      rfl
    · rw [if_neg backSkipped]

/-- A list is no infix of another one of its length and one more element, if it does not end in
this element. -/
theorem not_infix_concat {α : Type} {part other : List α} {last : α}
    (lengths : other.length = part.length) (differ : other ≠ part)
    (notLast : part.getLast? ≠ some last) : ¬ part <:+: other ++ [last] := by
  rintro ⟨front, back, same⟩
  -- At the end of the longer list the part ends in the last element, elsewhere it is the rest.
  rcases List.eq_nil_or_concat back with rfl | ⟨init, final, rfl⟩
  · have ends : (front ++ part).getLast? = some last := by
      rw [← List.append_nil (front ++ part), same, List.getLast?_concat]
    cases part with
    | nil => exact differ (List.eq_nil_of_length_eq_zero lengths)
    | cons first rest =>
        rw [List.getLast?_append_of_ne_nil _ (List.cons_ne_nil first rest)] at ends
        exact notLast ends
  · rw [List.concat_eq_append, ← List.append_assoc] at same
    have shorter := (List.append_inj' same rfl).1
    have total := congrArg List.length shorter
    simp only [List.length_append] at total
    obtain rfl : front = [] := List.eq_nil_of_length_eq_zero (by omega)
    obtain rfl : init = [] := List.eq_nil_of_length_eq_zero (by omega)
    exact differ (by simpa using shorter.symm)

theorem not_infix_cons {α : Type} {part other : List α} {first : α}
    (lengths : other.length = part.length) (differ : other ≠ part)
    (notFirst : part.head? ≠ some first) : ¬ part <:+: first :: other := by
  rw [← List.reverse_infix, List.reverse_cons]
  apply not_infix_concat
  · simpa using lengths
  · simpa using differ
  · simpa using notFirst

/-- There is a letter other than a given character that is its own lower-case form. -/
theorem exists_letter (taken : Option Char) :
    ∃ letter, taken ≠ some letter ∧ startsCased [letter] = true ∧
      ∀ before after, lowercaseBetween before after [letter] = [letter] := by
  have own (letter : Char) (notSigma : letter ≠ 'Σ') (lower : lowercaseChar letter = [letter])
      (before after : List Char) : lowercaseBetween before after [letter] = [letter] := by
    rw [lowercaseBetween, lowercaseBetween, lowercaseLetter_of_ne notSigma, lower]
    rfl
  by_cases isA : taken = some 'a'
  · refine ⟨'b', ?_, by decide +kernel, own 'b' (by decide) (by decide +kernel)⟩
    rw [isA]
    decide
  · exact ⟨'a', isA, by decide +kernel, own 'a' (by decide) (by decide +kernel)⟩

/-- The lower-case form of a text stands in those of all texts around it if and only if none of
them changes the words that its sigmas end. -/
theorem forall_lowercase_infix_iff {text : List Char} :
    (∀ before after, lowercase text <:+: lowercase (before ++ (text ++ after))) ↔
      ∀ before after, KeepsSigmas before text after := by
  constructor
  · intro found
    obtain ⟨last, notLast, lastCased, lastLower⟩ := exists_letter (lowercase text).getLast?
    obtain ⟨first, notFirst, firstCased, firstLower⟩ := exists_letter (lowercase text).head?
    have lengths (before after : List Char) :
        (lowercaseBetween before after text).length = (lowercase text).length := by
      rw [lowercase_eq_lowercaseBetween]
      exact length_lowercaseBetween before after [] [] text
    have ahead : KeepsSigmas [] text [last] := by
      rw [← lowercaseBetween_eq_iff]
      by_contra differ
      have inWhole := found [] [last]
      rw [lowercase_append_append, lastLower] at inWhole
      exact not_infix_concat (lengths [] [last]) differ notLast inWhole
    have behind : KeepsSigmas [first] text [] := by
      rw [← lowercaseBetween_eq_iff]
      by_contra differ
      have inWhole := found [first] []
      rw [lowercase_append_append, firstLower, lowercaseBetween, List.append_nil] at inWhole
      exact not_infix_cons (lengths [first] []) differ notFirst inWhole
    exact keepsSigmas_of_letters firstCased lastCased behind ahead
  · intro keeps before after
    exact lowercase_infix_of_keepsSigmas (keeps before after)

end SearchQuery.Text
