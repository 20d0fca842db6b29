import SearchQuery.Text.Normalization.CompositionTable
import SearchQuery.Text.Normalization.Decomposition

/-!
# Canonical composition

`compose` joins each base character of a decomposed text with the marks after
it, from left to right, wherever a primary composite exists and no character in
between blocks the pair. `normalize` is decomposition followed by composition,
the normalization form C.
-/

namespace SearchQuery.Text

/-- The composite of a first code point in one group of the table. -/
def compositeOf : List (Nat × Nat) → Nat → Option Nat
  | [], _ => none
  | (first, composite) :: later, wanted =>
      if wanted < first then none
      else if wanted = first then some composite
      else compositeOf later wanted

/-- The group of a second code point in the sorted table. -/
def compositesWith : List (Nat × List (Nat × Nat)) → Nat → List (Nat × Nat)
  | [], _ => []
  | (second, group) :: later, wanted =>
      if wanted < second then []
      else if wanted = second then group
      else compositesWith later wanted

/-- The primary composite of two characters. -/
def composePair? (first second : Char) : Option Char :=
  match Hangul.compose? first.toNat second.toNat with
  | some syllable => some (Char.ofNat syllable)
  | none =>
      (compositeOf (compositesWith primaryComposites second.toNat) first.toNat).map Char.ofNat

/-- Compose `text` after the base character `base`. `marks` holds, in reverse,
the characters that stayed apart since the base, and `done`, in reverse, all
that precedes it. The next character is blocked from the base when a character
in between has combining class zero or a class not below its own. -/
def composeOnto (done : List Char) (base : Char) (marks : List Char) : List Char → List Char
  | [] => (marks ++ base :: done).reverse
  | c :: rest =>
      let blocked :=
        match marks with
        | [] => false
        | nearest :: _ => combiningClass c ≤ combiningClass nearest
      match if blocked then none else composePair? base c with
      | some composite => composeOnto done composite marks rest
      | none =>
          if combiningClass c = 0 then composeOnto (marks ++ base :: done) c [] rest
          else composeOnto done base (c :: marks) rest

/-- The canonical composition of a decomposed text. Characters before the first
base character are left as they are. -/
def compose (text : List Char) : List Char :=
  match text.span fun c => combiningClass c ≠ 0 with
  | (leading, []) => leading
  | (leading, base :: rest) => composeOnto leading.reverse base [] rest

/-- The normalization form C of a text. -/
def normalize (text : List Char) : List Char :=
  compose (decompose text)

end SearchQuery.Text
