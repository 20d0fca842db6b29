/-!
# Days of the calendar

Days follow the Gregorian calendar, extended without limit in both directions.
A `Day` is counted from 1970-01-01 and lies in the supported range of years; its
year, month and day of the month are computed from the count.
-/

namespace SearchQuery.Calendar

/-- A year, a month and a day of the month; not every triple is a calendar day. -/
structure Date where
  year : Int
  month : Nat
  day : Nat
deriving DecidableEq, Repr

/-- Every fourth year is a leap year, except centuries not divisible by 400. -/
def isLeapYear (year : Int) : Bool :=
  year % 4 = 0 && (year % 100 ≠ 0 || year % 400 = 0)

/-- The lengths of the twelve months of a year. -/
def monthLengths (year : Int) : List Nat :=
  [31, if isLeapYear year then 29 else 28, 31, 30, 31, 30, 31, 31, 30, 31, 30, 31]

/-- The number of days from 0001-01-01 to the first day of a year, negative for
earlier years. -/
def daysBeforeYear (year : Int) : Int :=
  365 * (year - 1) + (year - 1) / 4 - (year - 1) / 100 + (year - 1) / 400

/-- The number of days between the first day of a year and the first day of one
of its months. -/
def daysBeforeMonth (year : Int) (month : Nat) : Nat :=
  ((monthLengths year).take (month - 1)).foldl Nat.add 0

/-- The number of days from 0001-01-01 to 1970-01-01. -/
def daysBeforeEpoch : Int := 719162

namespace Date

/-- Whether the month exists and has the day. -/
def isCalendarDay (date : Date) : Bool :=
  1 ≤ date.month && 1 ≤ date.day &&
    date.day ≤ ((monthLengths date.year)[date.month - 1]?).getD 0

/-- The number of days from 1970-01-01 to a date. -/
def dayNumber (date : Date) : Int :=
  daysBeforeYear date.year + daysBeforeMonth date.year date.month + (date.day - 1) -
    daysBeforeEpoch

/-- Walk through month lengths: the number of the month, counted from `month`,
and the day of the month that lies `days` days after the first. -/
def locate (month : Nat) : List Nat → Nat → Nat × Nat
  | [], days => (month, days + 1)
  | length :: later, days =>
      if days < length then (month, days + 1) else locate (month + 1) later (days - length)

/-- The date of a day number. Four centuries have 146097 days, a century 36524
or one more, four years 1460 or one more; the extra day ends its period, so the
count of the shorter periods is cut at three. -/
def ofDayNumber (number : Int) : Date :=
  let days := number + daysBeforeEpoch
  let fourCenturies := days / 146097
  let inFourCenturies := (days % 146097).toNat
  let centuries := min (inFourCenturies / 36524) 3
  let inCentury := inFourCenturies - 36524 * centuries
  let fourYears := inCentury / 1461
  let inFourYears := inCentury % 1461
  let years := min (inFourYears / 365) 3
  let inYear := inFourYears - 365 * years
  let year := 400 * fourCenturies + 100 * centuries + 4 * fourYears + years + 1
  let (month, day) := locate 1 (monthLengths year) inYear
  ⟨year, month, day⟩

theorem dayNumber_epoch : dayNumber ⟨1970, 1, 1⟩ = 0 := by
  decide

/-- The first supported day. -/
theorem dayNumber_first : dayNumber ⟨-262143, 1, 1⟩ = -96465292 := by
  decide

/-- The last supported day. -/
theorem dayNumber_last : dayNumber ⟨262142, 12, 31⟩ = 95026236 := by
  decide

end Date

/-- A calendar day, counted from 1970-01-01, in the years -262143 to +262142. -/
structure Day where
  number : Int
  first_le : -96465292 ≤ number
  le_last : number ≤ 95026236
deriving DecidableEq, Repr

namespace Day

/-- The day with the given number, if it is in the supported range. -/
def ofNumber? (number : Int) : Option Day :=
  if bounds : -96465292 ≤ number ∧ number ≤ 95026236 then some ⟨number, bounds.1, bounds.2⟩
  else none

/-- The day of a date, if the calendar has it and the range includes it. -/
def ofDate? (date : Date) : Option Day :=
  if date.isCalendarDay then ofNumber? date.dayNumber else none

/-- The date of a day. -/
def date (day : Day) : Date :=
  .ofDayNumber day.number

/-- The day after, unless it is out of range. -/
def next? (day : Day) : Option Day :=
  ofNumber? (day.number + 1)

end Day

end SearchQuery.Calendar
