import SearchQuery.Text.Normalization.CombiningClassRanges

/-!
# Canonical combining class

The class orders the marks on one base character. Class zero belongs to base
characters and to marks that never move.
-/

namespace SearchQuery.Text

/-- The class that sorted runs give to a code point; zero outside all runs. -/
def classIn : List (Nat × Nat × Nat) → Nat → Nat
  | [], _ => 0
  | (first, last, value) :: later, code =>
      if code < first then 0
      else if code ≤ last then value
      else classIn later code

/-- The canonical combining class of a character. -/
def combiningClass (c : Char) : Nat :=
  classIn combiningClassRanges c.toNat

end SearchQuery.Text
