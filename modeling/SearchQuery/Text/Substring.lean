/-!
# Contiguous parts of a text

`occursIn part text` decides whether `part` stands somewhere in `text` without a
gap. The empty part stands in every text.
-/

namespace SearchQuery.Text

/-- Whether `part` occurs in the text as a contiguous run. -/
def occursIn (part : List Char) : List Char → Bool
  | [] => part.isEmpty
  | c :: rest => part.isPrefixOf (c :: rest) || occursIn part rest

/-- `occursIn` decides the relation "is an infix of". -/
theorem occursIn_iff {part text : List Char} :
    occursIn part text = true ↔ part <:+: text := by
  induction text with
  | nil => simp [occursIn]
  | cons c rest ih =>
      rw [occursIn, Bool.or_eq_true, List.isPrefixOf_iff_prefix, ih, List.infix_cons_iff]

end SearchQuery.Text
