import SearchQuery.Text.Lowercase

/-!
# Lower case within and beyond ASCII

On ASCII text the full mapping to lower case is the mapping of ASCII letters. Beyond ASCII
there are characters whose lower-case forms have ASCII characters in them: the Kelvin sign
becomes `k`, and capital I with a dot above becomes `i` and a mark. None of them stands as
early in the code as the hexadecimal digits do. So a text of hexadecimal digits and hyphens
is the image of the same texts under both mappings (`lowercase_eq_iff`).
-/

namespace SearchQuery.Text

/-! ## Characters up to the last hexadecimal digit -/

/-- A character other than the null character that stands no later in the code than the
last hexadecimal digit. -/
def IsLow (c : Char) : Prop :=
  0 < c.toNat ∧ c.toNat ≤ 'f'.toNat

instance (c : Char) : Decidable (IsLow c) :=
  inferInstanceAs (Decidable (_ ∧ _))

theorem IsLow.ascii {c : Char} (low : IsLow c) : c.toNat < 128 :=
  Nat.lt_of_le_of_lt low.2 (by decide)

/-- A low character has the code point that it was made from. -/
theorem le_of_isLow_ofNat {code : Nat} (low : IsLow (Char.ofNat code)) : code ≤ 'f'.toNat := by
  by_cases valid : code.isValidChar
  · rw [Char.ofNat, dif_pos valid] at low
    exact low.2
  · rw [Char.ofNat, dif_neg valid] at low
    exact absurd low (by decide)

/-- What is above a bound stays above it if the images of all runs that reach above the
bound do. -/
theorem lt_lowercaseIn {bound code : Nat} {runs : List LowercaseRun}
    (images : ∀ run ∈ runs, bound < run.last → bound < run.image) (above : bound < code) :
    bound < lowercaseIn runs code := by
  induction runs with
  | nil => exact above
  | cons run later ih =>
      rw [List.forall_mem_cons] at images
      unfold lowercaseIn
      split
      · exact above
      split
      · rename_i within
        have image := images.1 (Nat.lt_of_lt_of_le above within)
        split
        · exact Nat.lt_of_lt_of_le image (Nat.le_add_left _ _)
        · exact above
      · exact ih images.2

theorem lt_image_of_mem_lowercaseRuns :
    ∀ run ∈ lowercaseRuns, 'f'.toNat < run.last → 'f'.toNat < run.image := by
  decide +kernel

/-- Only low characters have a lower-case form of low characters. -/
theorem isLow_of_lowercaseChar {c : Char} (low : ∀ d ∈ lowercaseChar c, IsLow d) : IsLow c := by
  unfold lowercaseChar at low
  split at low
  · exact absurd (low '\u0307' (by simp)) (by decide)
  · rw [List.forall_mem_singleton] at low
    constructor
    · apply Nat.pos_of_ne_zero
      intro null
      rw [null] at low
      exact absurd low (by decide)
    · refine Nat.le_of_not_lt fun above => ?_
      have image := lt_lowercaseIn lt_image_of_mem_lowercaseRuns above
      exact absurd (le_of_isLow_ofNat low) (Nat.not_le_of_lt image)

/-- Among ASCII characters the full mapping changes letters only. -/
theorem lowercaseChar_of_ascii {c : Char} (ascii : c.toNat < 128) :
    lowercaseChar c = [c.toLower] := by
  have each : ∀ code < 128, lowercaseChar (Char.ofNat code) = [(Char.ofNat code).toLower] := by
    decide +kernel
  simpa using each c.toNat ascii

theorem isLow_of_isUpper {c : Char} (upper : c.isUpper = true) : IsLow c := by
  have between : 'A'.val ≤ c.val ∧ c.val ≤ 'Z'.val := of_decide_eq_true upper
  rw [UInt32.le_iff_toNat_le, UInt32.le_iff_toNat_le] at between
  have first : 'A'.val.toNat = 65 := rfl
  have last : 'Z'.val.toNat = 90 := rfl
  have own : c.val.toNat = c.toNat := rfl
  have digit : 'f'.toNat = 102 := rfl
  unfold IsLow
  omega

theorem isLow_of_toLower {c : Char} (low : IsLow c.toLower) : IsLow c := by
  by_cases upper : c.isUpper = true
  · exact isLow_of_isUpper upper
  · have outside : ¬('A'.val ≤ c.val ∧ c.val ≤ 'Z'.val) :=
      of_decide_eq_false (Bool.eq_false_iff.mpr upper)
    have same : c.toLower = c := dif_neg outside
    rwa [same] at low

/-! ## Texts -/

/-- On ASCII text the full mapping is the mapping of ASCII letters. -/
theorem lowercase_of_ascii {text : List Char} (ascii : ∀ c ∈ text, c.toNat < 128) :
    lowercase text = text.map Char.toLower := by
  suffices onto : ∀ done afterCased,
      lowercaseOnto done afterCased text = done.reverse ++ text.map Char.toLower from
    onto [] false
  induction text with
  | nil => simp [lowercaseOnto]
  | cons c rest ih =>
      intro done afterCased
      rw [List.forall_mem_cons] at ascii
      have notSigma : c ≠ 'Σ' := by
        rintro rfl
        exact absurd ascii.1 (by decide)
      rw [lowercaseOnto, if_neg notSigma, lowercaseChar_of_ascii ascii.1, ih ascii.2]
      simp

/-- A lower-case form of low characters comes from low characters. The context of a sigma
makes no difference, since neither of its forms is low. -/
theorem isLow_of_mem_of_lowercase {text : List Char} (low : ∀ d ∈ lowercase text, IsLow d) :
    ∀ c ∈ text, IsLow c := by
  suffices onto : ∀ done afterCased, (∀ d ∈ lowercaseOnto done afterCased text, IsLow d) →
      ∀ c ∈ text, IsLow c from
    onto [] false low
  clear low
  induction text with
  | nil => simp
  | cons c rest ih =>
      intro done afterCased low
      rw [List.forall_mem_cons]
      rw [lowercaseOnto] at low
      refine ⟨?_, ih _ _ low⟩
      rw [lowercaseOnto_eq_append, List.reverse_append, List.reverse_reverse,
        List.forall_mem_append, List.forall_mem_append] at low
      by_cases sigma : c = 'Σ'
      · rw [if_pos sigma, List.forall_mem_singleton] at low
        refine absurd low.1.2 ?_
        split <;> decide
      · rw [if_neg sigma] at low
        exact isLow_of_lowercaseChar low.1.2

/-- A text of low characters is the image of the same texts under the full mapping and
under the mapping of ASCII letters. -/
theorem lowercase_eq_iff {text target : List Char} (low : ∀ c ∈ target, IsLow c) :
    lowercase text = target ↔ text.map Char.toLower = target := by
  constructor
  · rintro rfl
    have source := isLow_of_mem_of_lowercase low
    exact (lowercase_of_ascii fun c mem => (source c mem).ascii).symm
  · rintro rfl
    rw [List.forall_mem_map] at low
    exact lowercase_of_ascii fun c mem => (isLow_of_toLower (low c mem)).ascii

end SearchQuery.Text
