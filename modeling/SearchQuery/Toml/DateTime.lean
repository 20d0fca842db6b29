import SearchQuery.Calendar.Day
import SearchQuery.Toml.Value
import SearchQuery.Text.Scan

/-!
# Dates and times

A date, a time, or both with or without an offset from UTC. All numbers have fixed
widths, days must exist in their month, and second 60 is admitted.
-/

namespace SearchQuery.Toml

open SearchQuery.Text

/-- Read a number of two digits between two bounds. -/
def twoDigits (least most : Nat) : Scan Nat := do
  let number := decimalValue (← Scan.digits 2 2)
  if least ≤ number ∧ number ≤ most then return number else failure

/-- Read a date. -/
def fullDate : Scan Unit := do
  let year := decimalValue (← Scan.digits 4 4)
  Scan.char '-'
  let month ← twoDigits 1 12
  Scan.char '-'
  let day ← twoDigits 1 31
  if (⟨year, month, day⟩ : Calendar.Date).isCalendarDay then return () else failure

/-- Read the digits after the point of a fraction of a second, if there is one. -/
def optionalFraction : Scan Unit := do
  if ← Scan.skip '.' then
    let _ ← Scan.allDigits

/-- Read a time of day. -/
def partialTime : Scan Unit := do
  let _ ← twoDigits 0 23
  Scan.char ':'
  let _ ← twoDigits 0 59
  Scan.char ':'
  let _ ← twoDigits 0 60
  optionalFraction

/-- Read an offset from UTC. -/
def timeOffset : Scan Unit := do
  let sign ← Scan.oneOf fun c => c == 'Z' || c == 'z' || c == '+' || c == '-'
  if sign == 'Z' || sign == 'z' then return ()
  else
    let _ ← twoDigits 0 23
    Scan.char ':'
    let _ ← twoDigits 0 59

/-- Read a time after a date, with its offset if there is one. -/
def timeAfterDate : Scan Unit := do
  let _ ← Scan.oneOf fun c => c == 'T' || c == 't' || c == ' '
  partialTime
  timeOffset <|> pure ()

/-- Read a date, a date and a time, or a time. -/
def dateTime : Scan Value := do
  (do
    fullDate
    timeAfterDate <|> pure ()) <|> partialTime
  return Value.dateTime

end SearchQuery.Toml
