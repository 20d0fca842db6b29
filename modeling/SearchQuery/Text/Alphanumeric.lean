import SearchQuery.Text.AlphanumericRanges

/-!
# Letters and numbers

A character is alphanumeric when it is alphabetic or numeric in the sense of
Unicode. A search term needs at least one such character, because a full-text
index holds nothing else.
-/

namespace SearchQuery.Text

/-- Whether a character is alphabetic or numeric. -/
def isAlphanumeric (c : Char) : Bool :=
  alphanumericRanges.contains c.toNat

end SearchQuery.Text
