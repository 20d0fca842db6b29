import SearchQuery.Calendar.Instant
import SearchQuery.Text.Scan
import SearchQuery.Text.WhiteSpace

/-!
# Layouts of written dates

A layout lists what a written date consists of, in order. `Layout.read` reads
the fields of a date and time from a text that has the layout. Whether the
fields name a calendar day and a time of day is decided afterwards, by
`Instant.ofLocal?`.
-/

namespace SearchQuery.Calendar

open SearchQuery.Text

/-- The numbers of a written date and time. -/
inductive DateField where
  | year
  | month
  | day
  | hour
  | minute
  | second
deriving DecidableEq, Repr

/-- One part of a layout. -/
inductive LayoutPart where
  /-- A number of exactly four digits for the year and two for the rest. -/
  | fixed (field : DateField)
  /-- A number after any white space. A year has up to four digits, or any number
  of digits after a sign; the rest have one or two digits. -/
  | loose (field : DateField)
  /-- Any white space. -/
  | space
  /-- This character. -/
  | mark (c : Char)
  /-- The character between date and time: `T`, `t` or a space. -/
  | separator
  /-- Possibly a point and digits, of which the first nine count. -/
  | fraction
deriving DecidableEq, Repr

/-- The parts of a written date in order. -/
abbrev Layout := List LayoutPart

/-- The numbers read so far. -/
structure DateFields where
  date : Date
  clock : Clock
deriving DecidableEq, Repr

namespace DateFields

/-- The fields before anything is read: midnight of no date. -/
def none : DateFields :=
  ⟨⟨0, 0, 0⟩, .midnight⟩

/-- Set one number. -/
def set (fields : DateFields) : DateField → Int → DateFields
  | .year, value => { fields with date.year := value }
  | .month, value => { fields with date.month := value.toNat }
  | .day, value => { fields with date.day := value.toNat }
  | .hour, value => { fields with clock.hour := value.toNat }
  | .minute, value => { fields with clock.minute := value.toNat }
  | .second, value => { fields with clock.second := value.toNat }

end DateFields

/-- Read a number of exactly the width of its field. -/
def DateField.readFixed : DateField → Scan Int
  | .year => do return decimalValue (← Scan.digits 4 4)
  | _ => do return decimalValue (← Scan.digits 2 2)

/-- Read a number as a person might write it. -/
def DateField.readLoose (field : DateField) : Scan Int := do
  let _ ← Scan.run isWhiteSpace
  match field with
  | .year =>
      if ← Scan.skip '-' then return -decimalValue (← Scan.allDigits)
      else if ← Scan.skip '+' then return decimalValue (← Scan.allDigits)
      else return decimalValue (← Scan.digits 1 4)
  | _ => return decimalValue (← Scan.digits 1 2)

/-- Read the digits of a fraction of a second as nanoseconds. -/
def readNanos : Scan Nat := do
  let digits ← Scan.allDigits
  let kept := digits.take 9
  return decimalValue kept * Nat.pow 10 (9 - kept.length)

/-- Read one part of a layout and add what it says to the fields. -/
def LayoutPart.read (fields : DateFields) : LayoutPart → Scan DateFields
  | fixed field => do return fields.set field (← field.readFixed)
  | loose field => do return fields.set field (← field.readLoose)
  | space => do
      let _ ← Scan.run isWhiteSpace
      return fields
  | mark c => do
      Scan.char c
      return fields
  | separator => do
      let _ ← Scan.oneOf fun c => c == 'T' || c == 't' || c == ' '
      return fields
  | fraction => do
      if ← Scan.skip '.' then return { fields with clock.nanos := ← readNanos }
      else return fields

namespace Layout

/-- Read the parts of a layout in order. -/
def read (fields : DateFields) : Layout → Scan DateFields
  | [] => pure fields
  | part :: later => do read (← part.read fields) later

/-- The instant that a whole text names in UTC under a layout. -/
def instant? (layout : Layout) (text : List Char) : Option Instant :=
  match (layout.read .none).complete text with
  | some fields => Instant.ofLocal? fields.date fields.clock 0
  | none => none

/-- Year, month and day, joined by dashes. -/
def looseDate : Layout :=
  [.loose .year, .mark '-', .loose .month, .mark '-', .loose .day]

/-- Hour, minute and second, joined by colons. -/
def looseTime : Layout :=
  [.loose .hour, .mark ':', .loose .minute, .mark ':', .loose .second]

/-- A date and a time with a `T` between them. -/
def dateTTime : Layout :=
  looseDate ++ .mark 'T' :: looseTime

/-- A date and a time with nothing but white space between them. -/
def dateSpaceTime : Layout :=
  looseDate ++ .space :: looseTime

end Layout

end SearchQuery.Calendar
