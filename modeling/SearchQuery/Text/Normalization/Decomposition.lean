import SearchQuery.Text.Normalization.CombiningClass
import SearchQuery.Text.Normalization.DecompositionTable
import SearchQuery.Text.Normalization.Hangul

/-!
# Canonical decomposition

`decompose` replaces every character by its full canonical decomposition and
sorts each run of marks by combining class. The sort is stable, so marks of one
class keep their order.
-/

namespace SearchQuery.Text

/-- The decomposition that a sorted table gives to a code point. -/
def decompositionIn : List (Nat × List Nat) → Nat → Option (List Nat)
  | [], _ => none
  | (code, parts) :: later, wanted =>
      if wanted < code then none
      else if wanted = code then some parts
      else decompositionIn later wanted

/-- The full canonical decomposition of one character. -/
def decomposeChar (c : Char) : List Char :=
  match Hangul.decompose? c.toNat with
  | some jamo => jamo.map Char.ofNat
  | none =>
      match decompositionIn canonicalDecompositions c.toNat with
      | some parts => parts.map Char.ofNat
      | none => [c]

/-- Sort one run of marks by combining class, keeping the order within a class. -/
def sortMarks (marks : List Char) : List Char :=
  marks.mergeSort fun left right => combiningClass left ≤ combiningClass right

/-- Sort every run of marks of a text. `marks` holds the marks read since the
last base character and `done` all that precedes them, both in reverse. -/
def orderMarksOnto (done marks : List Char) : List Char → List Char
  | [] => ((sortMarks marks.reverse).reverse ++ done).reverse
  | c :: rest =>
      if combiningClass c = 0 then
        orderMarksOnto (c :: ((sortMarks marks.reverse).reverse ++ done)) [] rest
      else orderMarksOnto done (c :: marks) rest

/-- The canonical decomposition of a text, with marks in canonical order. -/
def decompose (text : List Char) : List Char :=
  orderMarksOnto [] [] (text.flatMap decomposeChar)

end SearchQuery.Text
