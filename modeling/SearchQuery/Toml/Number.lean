import SearchQuery.Integer64
import SearchQuery.Toml.Quoted
import SearchQuery.Toml.Value

/-!
# Numbers

Integers have 64 bits and a sign, and may be written in base ten, sixteen, eight
or two; floats are those of double precision. Underscores may stand between
digits. A positive float too large for double precision is refused.
-/

namespace SearchQuery.Toml

open SearchQuery.Text

/-- Read digits of a class, with single underscores between them. `done` holds the
digits read, in reverse. -/
def readDigits (admits : Char → Bool) (done : List Char) :
    List Char → Option (List Char × List Char)
  | '_' :: c :: rest =>
      if admits c && !done.isEmpty then readDigits admits (c :: done) rest else none
  | c :: rest =>
      if admits c then readDigits admits (c :: done) rest
      else if done.isEmpty then none
      else some (done.reverse, c :: rest)
  | [] => if done.isEmpty then none else some (done.reverse, [])

/-- Read digits of a class, with single underscores between them. -/
def digitRun (admits : Char → Bool) : Scan (List Char) :=
  readDigits admits []

/-- Read a sign if one comes next: true for a minus. -/
def readSign : Scan Bool
  | '-' :: rest => some (true, rest)
  | '+' :: rest => some (false, rest)
  | text => some (false, text)

/-- Read the digits of a decimal integer: a single zero, or digits that do not
start with one. -/
def decimalDigits : Scan (List Char)
  | '0' :: rest => some (['0'], rest)
  | text => digitRun Char.isDigit text

/-- Read an integer in base ten. -/
def decimalInteger : Scan Value := do
  let negative ← readSign
  let digits ← decimalDigits
  let size : Int := (decimalValue digits : Nat)
  let number := if negative then -size else size
  if isInteger64 number then return Value.integer number else failure

/-- Whether a character is a digit in a base of at most sixteen. -/
def isDigitIn (base : Nat) (c : Char) : Bool :=
  match hexDigit? c with
  | some value => value.val < base
  | none => false

/-- Read an integer after the letter that names its base. -/
def basedInteger (letter : Char) (base : Nat) : Scan Value := do
  Scan.chars ['0', letter]
  let digits ← digitRun (isDigitIn base)
  let number : Int :=
    (digits.foldl (fun value digit => base * value + (hexDigit? digit).elim 0 Fin.val) 0 : Nat)
  if isInteger64 number then return Value.integer number else failure

/-- Read an integer. -/
def integer : Scan Value :=
  basedInteger 'x' 16 <|> basedInteger 'o' 8 <|> basedInteger 'b' 2 <|> decimalInteger

/-- The least number that rounds beyond the largest double: the largest double is
`2 ^ 1024 - 2 ^ 971`, and half a unit in its last place lies above it. -/
def firstInfinite : Nat :=
  Nat.pow 2 1024 - Nat.pow 2 970

/-- Whether `mantissa * 10 ^ scale` rounds beyond the largest double. The number of
digits decides all but the close cases. -/
def roundsToInfinity (mantissa : Nat) (scale : Int) : Bool :=
  let size : Int := (Nat.toDigits 10 mantissa).length + scale
  if mantissa = 0 then false
  else if 400 < size then true
  else if size < 300 then false
  else if 0 ≤ scale then firstInfinite ≤ mantissa * Nat.pow 10 scale.toNat
  else firstInfinite * Nat.pow 10 (-scale).toNat ≤ mantissa

/-- Read the exponent of a float. -/
def exponent : Scan Int := do
  let _ ← Scan.oneOf fun c => c == 'e' || c == 'E'
  let negative ← readSign
  let size : Int := (decimalValue (← digitRun Char.isDigit) : Nat)
  return if negative then -size else size

/-- Read the fraction of a float. -/
def fraction : Scan (List Char) := do
  Scan.char '.'
  digitRun Char.isDigit

/-- Read a float in digits: an integer with a fraction, an exponent, or both. -/
def decimalFloat : Scan Value := do
  let negative ← readSign
  let whole ← decimalDigits
  let (parts, scale) ←
    (do
      let parts ← fraction
      return (parts, ← exponent <|> pure 0)) <|>
    (do return ([], ← exponent))
  if !negative && roundsToInfinity (decimalValue (whole ++ parts)) (scale - parts.length) then
    failure
  else return Value.float

/-- Read an infinity or a value that is no number, with or without a sign. -/
def namedFloat : Scan Value := do
  let _ ← readSign
  Scan.chars ['i', 'n', 'f'] <|> Scan.chars ['n', 'a', 'n']
  return Value.float

/-- Read a float. -/
def float : Scan Value :=
  decimalFloat <|> namedFloat

end SearchQuery.Toml
