/-!
# Scanning a text from its front

A `Scan` reads a value from the front of a text and leaves the rest, or fails.
Alternatives start over from the same place, because a failure leaves no rest.
-/

namespace SearchQuery.Text

/-- A reader that takes a value from the front of a text, or fails. -/
abbrev Scan (α : Type) := StateT (List Char) Option α

namespace Scan

/-- Read the given character. -/
def char (wanted : Char) : Scan Unit
  | c :: rest => if c = wanted then some ((), rest) else none
  | [] => none

/-- Read the given characters in order. -/
def chars : List Char → Scan Unit
  | [], text => some ((), text)
  | wanted :: later, text =>
      match char wanted text with
      | some ((), rest) => chars later rest
      | none => none

/-- Read one character of a class. -/
def oneOf (admits : Char → Bool) : Scan Char
  | c :: rest => if admits c then some (c, rest) else none
  | [] => none

/-- Read the given character if it comes next, and say whether it did. -/
def skip (wanted : Char) : Scan Bool
  | c :: rest => if c = wanted then some (true, rest) else some (false, c :: rest)
  | [] => some (false, [])

/-- Read the longest run of characters of a class. -/
def run (admits : Char → Bool) : Scan (List Char) := fun text =>
  some (text.takeWhile admits, text.dropWhile admits)

/-- The next character, which stays unread. -/
def peek : Scan (Option Char) := fun text =>
  some (text.head?, text)

/-- Apply a reader to a whole text; a rest is a failure. -/
def complete {α : Type} (scan : Scan α) (text : List Char) : Option α :=
  match StateT.run scan text with
  | some (value, []) => some value
  | _ => none

end Scan

/-- The number that ASCII digits spell in base ten. -/
def decimalValue (digits : List Char) : Nat :=
  digits.foldl (fun value digit => 10 * value + (digit.toNat - '0'.toNat)) 0

/-- Read at least `least` and at most `most` ASCII digits, as many as there are. -/
def Scan.digits (least most : Nat) : Scan (List Char) := fun text =>
  let found := (text.take most).takeWhile Char.isDigit
  if found.length < least then none else some (found, text.drop found.length)

/-- Read all ASCII digits that come next, at least one. -/
def Scan.allDigits : Scan (List Char) := fun text =>
  let found := text.takeWhile Char.isDigit
  if found.isEmpty then none else some (found, text.dropWhile Char.isDigit)

end SearchQuery.Text
