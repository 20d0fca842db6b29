import SearchQuery.Calendar.Layout
import SearchQuery.Text.AsciiCase

/-!
# Timestamps with an offset

The Internet date and time format: a date, a time and an offset from UTC.
`read?` admits the exact format only; `readLenient?` admits the format with
spaces between its parts and further spellings of the offset, and serves for
stored documents. `write` gives the form in UTC with `Z` and the fewest of 0, 3,
6 or 9 fraction digits that are exact.
-/

namespace SearchQuery.Calendar.Timestamp

open SearchQuery.Text

/-- Date and time in the exact format. -/
def exactLayout : Layout :=
  [.fixed .year, .mark '-', .fixed .month, .mark '-', .fixed .day, .separator,
    .fixed .hour, .mark ':', .fixed .minute, .mark ':', .fixed .second, .fraction]

/-- Date and time where white space may stand before the marks and the numbers. -/
def lenientLayout : Layout :=
  [.loose .year, .space, .mark '-', .loose .month, .space, .mark '-', .loose .day, .separator,
    .loose .hour, .space, .mark ':', .loose .minute, .space, .mark ':', .loose .second,
    .fraction, .space]

/-- Read the sign of an offset: true for a minus. The minus is a hyphen or the
minus sign U+2212. -/
def readSign : Scan Bool := do
  let sign ← Scan.oneOf fun c => c == '+' || c == '-' || c == '\u2212'
  return sign != '+'

/-- Read an offset in seconds: `Z` or `z`, or a sign, two digits of hours, what
`between` reads, and two digits of minutes below sixty. -/
def readOffset (between : Scan Unit) : Scan Int := do
  if (← Scan.skip 'Z') then return 0
  else if (← Scan.skip 'z') then return 0
  else do
    let negative ← readSign
    let hours := decimalValue (← Scan.digits 2 2)
    between
    let minutes := decimalValue (← Scan.digits 2 2)
    if 60 ≤ minutes then failure
    else
      let seconds : Int := (3600 * hours + 60 * minutes : Nat)
      return if negative then -seconds else seconds

/-- The instant of a date, a time and an offset of less than a day. -/
def instantAt? (fields : DateFields) (offset : Int) : Option Instant :=
  if offset.natAbs < 86400 then Instant.ofLocal? fields.date fields.clock offset else none

/-- The instant of a timestamp in the exact format. -/
def read? (text : List Char) : Option Instant :=
  let timestamp : Scan (DateFields × Int) := do
    let fields ← exactLayout.read .none
    return (fields, ← readOffset (Scan.char ':'))
  match timestamp.complete text with
  | some (fields, offset) => instantAt? fields offset
  | none => none

/-- Read an offset, which may also be spelled `UTC` and may have any colons and
white space between hours and minutes. -/
def readLenientOffset : Scan Int := fun text =>
  if sameIgnoringAsciiCase (text.take 3) ['u', 't', 'c'] then some (0, text.drop 3)
  else readOffset (do let _ ← Scan.run fun c => c == ':' || isWhiteSpace c) text

/-- The instant of a timestamp in the lenient format; white space may follow it. -/
def readLenient? (text : List Char) : Option Instant :=
  let timestamp : Scan (DateFields × Int) := do
    let fields ← lenientLayout.read .none
    let offset ← readLenientOffset
    let _ ← Scan.run isWhiteSpace
    return (fields, offset)
  match timestamp.complete text with
  | some (fields, offset) => instantAt? fields offset
  | none => none

/-- A number in base ten, with zeros in front up to the given width. -/
def padded (width number : Nat) : String :=
  let digits := toString number
  String.ofList (List.replicate (width - digits.length) '0') ++ digits

/-- A year has four digits, and outside 0 to 9999 a sign and at least four digits. -/
def writeYear (year : Int) : String :=
  if 0 ≤ year ∧ year ≤ 9999 then padded 4 year.toNat
  else (if year < 0 then "-" else "+") ++ padded 4 year.natAbs

/-- The fraction of a second, in groups of three digits as many as are needed. -/
def writeFraction (nanos : Nat) : String :=
  if nanos = 0 then ""
  else if nanos % 1000000 = 0 then "." ++ padded 3 (nanos / 1000000)
  else if nanos % 1000 = 0 then "." ++ padded 6 (nanos / 1000)
  else "." ++ padded 9 nanos

/-- The timestamp of an instant in UTC. -/
def write (instant : Instant) : String :=
  let date := instant.day.date
  let clock := instant.clock
  writeYear date.year ++ "-" ++ padded 2 date.month ++ "-" ++ padded 2 date.day ++ "T" ++
    padded 2 clock.hour ++ ":" ++ padded 2 clock.minute ++ ":" ++ padded 2 clock.second ++
    writeFraction clock.nanos ++ "Z"

end SearchQuery.Calendar.Timestamp
