import SearchQuery.Text.AsciiCase
import SearchQuery.Text.Hexadecimal

/-!
# Universally unique identifiers

A UUID is 32 hexadecimal digits. It is read from four spellings: the digits
alone, the hyphenated groups, the groups in braces, and the groups after
`urn:uuid:`. Its own text is the hyphenated form in lower case.
-/

namespace SearchQuery

/-- An identifier of 128 bits, as its hexadecimal digits. -/
structure Uuid where
  digits : List (Fin 16)
  length_eq : digits.length = 32
deriving DecidableEq, Repr

namespace Uuid

/-- The identifier that 32 hexadecimal digits spell. -/
def ofDigits? (text : List Char) : Option Uuid :=
  match text.mapM Text.hexDigit? with
  | some digits => if length_eq : digits.length = 32 then some ⟨digits, length_eq⟩ else none
  | none => none

/-- The lengths of the groups of the hyphenated form. -/
def groupLengths : List Nat :=
  [8, 4, 4, 4, 12]

/-- Take out the hyphens between groups of the given lengths; nothing where a
hyphen is missing or the last group has another length. -/
def joinGroups? : List Nat → List Char → Option (List Char)
  | [], _ => none
  | [length], text => if text.length = length then some text else none
  | length :: later, text =>
      match text.drop length with
      | '-' :: rest => (joinGroups? later rest).map (text.take length ++ ·)
      | _ => none

/-- Put hyphens between groups of the given lengths. -/
def splitGroups : List Nat → List Char → List Char
  | [], text => text
  | [_], text => text
  | length :: later, text => text.take length ++ '-' :: splitGroups later (text.drop length)

/-- The identifier that a hyphenated form spells. -/
def ofHyphenated? (text : List Char) : Option Uuid :=
  (joinGroups? groupLengths text).bind ofDigits?

/-- The hyphenated form that stands between braces. -/
def insideBraces? : List Char → Option (List Char)
  | '\x7b' :: rest => if rest.getLast? = some '\x7d' then some rest.dropLast else none
  | _ => none

/-- The scheme and the namespace before a hyphenated form. -/
def urnStart : List Char :=
  ['u', 'r', 'n', ':', 'u', 'u', 'i', 'd', ':']

/-- The hyphenated form that stands after `urn:uuid:` in any ASCII case. -/
def afterUrn? (text : List Char) : Option (List Char) :=
  if Text.sameIgnoringAsciiCase (text.take urnStart.length) urnStart then
    some (text.drop urnStart.length)
  else none

/-- The identifier that a text spells. -/
def ofText? (text : List Char) : Option Uuid :=
  ofDigits? text <|> ofHyphenated? text <|> (insideBraces? text).bind ofHyphenated? <|>
    (afterUrn? text).bind ofHyphenated?

/-- The hyphenated form of an identifier in lower case. -/
def text (uuid : Uuid) : String :=
  String.ofList (splitGroups groupLengths (uuid.digits.map Text.hexChar))

end Uuid

end SearchQuery
