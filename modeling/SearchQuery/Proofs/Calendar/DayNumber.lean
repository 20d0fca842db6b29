import SearchQuery.Calendar.Instant
import Mathlib.Algebra.BigOperators.Group.List.Basic
import Mathlib.Algebra.Ring.Nat

/-!
# The calendar and the count of days

The day number of a date and the date of a day number undo each other: the days of the
calendar are those of the count (`Date.ofDayNumber_dayNumber`, `Date.dayNumber_ofDayNumber`).
So no two instants show one date and one time of day in UTC (`Instant.shows_iff`).
-/

namespace SearchQuery.Calendar

/-! ## Months -/

theorem sum_monthLengths (year : Int) :
    (monthLengths year).sum = if isLeapYear year then 366 else 365 := by
  unfold monthLengths
  split <;> rfl

theorem daysBeforeMonth_succ (year : Int) (index : Nat) :
    daysBeforeMonth year (index + 1) = ((monthLengths year).take index).sum :=
  List.sum_eq_foldl.symm

/-- A day of a period of months lies in one of them. -/
theorem exists_month {lengths : List Nat} {days : Nat} (inPeriod : days < lengths.sum) :
    ∃ index, ∃ bound : index < lengths.length, ∃ inMonth < lengths[index],
      days = (lengths.take index).sum + inMonth := by
  induction lengths generalizing days with
  | nil => contradiction
  | cons length later ih =>
      by_cases first : days < length
      · exact ⟨0, Nat.succ_pos _, days, first, (Nat.zero_add days).symm⟩
      · rw [List.sum_cons] at inPeriod
        have inLater : days - length < later.sum := by omega
        obtain ⟨index, bound, inMonth, lt, split⟩ := ih inLater
        refine ⟨index + 1, Nat.succ_lt_succ bound, inMonth, lt, ?_⟩
        rw [List.take_succ_cons, List.sum_cons]
        omega

/-- The days up to a month are days of the period. -/
theorem sum_take_add_lt {lengths : List Nat} {index inMonth : Nat}
    (bound : index < lengths.length) (lt : inMonth < lengths[index]) :
    (lengths.take index).sum + inMonth < lengths.sum := by
  have split := lengths.sum_take_add_sum_drop index
  rw [List.drop_eq_getElem_cons bound, List.sum_cons] at split
  omega

namespace Date

theorem locate_sum_take {lengths : List Nat} {index inMonth : Nat}
    (bound : index < lengths.length) (lt : inMonth < lengths[index]) (month : Nat) :
    locate month lengths ((lengths.take index).sum + inMonth) = (month + index, inMonth + 1) := by
  induction lengths generalizing index month with
  | nil => contradiction
  | cons length later ih =>
      cases index with
      | zero =>
          rw [List.take_zero, List.sum_nil, Nat.zero_add, locate]
          exact if_pos lt
      | succ index =>
          have rest := ih (Nat.lt_of_succ_lt_succ bound) lt (month + 1)
          rw [List.take_succ_cons, List.sum_cons, Nat.add_assoc, locate,
            if_neg (Nat.not_lt.mpr (Nat.le_add_right _ _)), Nat.add_sub_cancel_left, rest,
            Nat.add_right_comm, Nat.add_assoc]

theorem isCalendarDay_iff {date : Date} :
    date.isCalendarDay = true ↔
      ∃ index, ∃ bound : index < (monthLengths date.year).length,
        ∃ inMonth < (monthLengths date.year)[index],
          date = ⟨date.year, index + 1, inMonth + 1⟩ := by
  obtain ⟨year, month, day⟩ := date
  simp only [isCalendarDay, Bool.and_eq_true, decide_eq_true_eq, mk.injEq, true_and]
  constructor
  · rintro ⟨⟨monthPos, dayPos⟩, dayLe⟩
    have bound : month - 1 < (monthLengths year).length := by
      by_contra beyond
      rw [List.getElem?_eq_none (Nat.not_lt.mp beyond), Option.getD_none] at dayLe
      omega
    rw [List.getElem?_eq_getElem bound, Option.getD_some] at dayLe
    exact ⟨month - 1, bound, day - 1, by omega, by omega, by omega⟩
  · rintro ⟨index, bound, inMonth, lt, rfl, rfl⟩
    rw [Nat.add_sub_cancel, List.getElem?_eq_getElem bound, Option.getD_some]
    exact ⟨⟨Nat.succ_pos _, Nat.succ_pos _⟩, lt⟩

theorem month_le_and_day_le {date : Date} (isDay : date.isCalendarDay = true) :
    date.month ≤ 12 ∧ date.day ≤ 31 := by
  obtain ⟨index, bound, inMonth, lt, eq⟩ := isCalendarDay_iff.mp isDay
  have lengths : ∀ length ∈ monthLengths date.year, length ≤ 31 := by
    unfold monthLengths
    split <;> decide
  rw [eq]
  exact ⟨bound, Nat.le_trans lt (lengths _ (List.getElem_mem bound))⟩

/-! ## Years -/

/-- A year and a day of the year, counted from zero, behind a day number. -/
structure Places (number year : Int) (inYear : Nat) : Prop where
  number_eq : number = daysBeforeYear year + inYear - daysBeforeEpoch
  inYear_lt : inYear < (monthLengths year).sum

/-- Years fall into cycles of four hundred, a hundred and four. The extra day is at the end
of the last year of four, unless the hundred ends there and the four hundred does not. -/
theorem exists_cycles (year : Int) : ∃ fourCenturies : Int, ∃ centuries fourYears years : Nat,
    centuries ≤ 3 ∧ fourYears ≤ 24 ∧ years ≤ 3 ∧
      year = 400 * fourCenturies + 100 * centuries + 4 * fourYears + years + 1 := by
  refine ⟨(year - 1) / 400, ((year - 1) % 400 / 100).toNat, ((year - 1) % 100 / 4).toNat,
    ((year - 1) % 4).toNat, ?_⟩
  omega

section Cycles

variable {fourCenturies : Int} {centuries fourYears years : Nat}

theorem daysBeforeYear_cycles (centuriesLe : centuries ≤ 3) (fourYearsLe : fourYears ≤ 24)
    (yearsLe : years ≤ 3) :
    daysBeforeYear (400 * fourCenturies + 100 * centuries + 4 * fourYears + years + 1) =
      146097 * fourCenturies + 36524 * centuries + 1461 * fourYears + 365 * years := by
  unfold daysBeforeYear
  omega

theorem lt_sum_monthLengths_cycles {inYear : Nat} (centuriesLe : centuries ≤ 3)
    (fourYearsLe : fourYears ≤ 24) (yearsLe : years ≤ 3) :
    inYear < (monthLengths (400 * fourCenturies + 100 * centuries + 4 * fourYears + years +
        1)).sum ↔
      inYear < 365 ∨ inYear = 365 ∧ years = 3 ∧ (fourYears = 24 → centuries = 3) := by
  have leap :
      isLeapYear (400 * fourCenturies + 100 * centuries + 4 * fourYears + years + 1) = true ↔
        years = 3 ∧ (fourYears = 24 → centuries = 3) := by
    simp only [isLeapYear, Bool.and_eq_true, Bool.or_eq_true, decide_eq_true_eq]
    omega
  rw [sum_monthLengths, ← leap]
  split
  · rename_i isLeap
    simp only [isLeap, and_true]
    omega
  · rename_i common
    simp only [common, and_false, or_false, Bool.false_eq_true]

end Cycles

/-- The date of a day number is in the year and on the day of the year behind it. -/
theorem Places.ofDayNumber_eq {number year : Int} {inYear : Nat}
    (places : Places number year inYear) :
    ofDayNumber number = ⟨year, (locate 1 (monthLengths year) inYear).1,
      (locate 1 (monthLengths year) inYear).2⟩ := by
  obtain ⟨rfl, inYearLt⟩ := places
  obtain ⟨fourCenturies, centuries, fourYears, years, centuriesLe, fourYearsLe, yearsLe, rfl⟩ :=
    exists_cycles year
  rw [lt_sum_monthLengths_cycles centuriesLe fourYearsLe yearsLe] at inYearLt
  rw [daysBeforeYear_cycles centuriesLe fourYearsLe yearsLe]
  -- the periods are divided off from the longest to the shortest
  generalize number : 146097 * fourCenturies + 36524 * centuries + 1461 * fourYears +
    365 * years + inYear - daysBeforeEpoch = count
  have quotient : (count + daysBeforeEpoch) / 146097 = fourCenturies := by omega
  have inFourCenturies : ((count + daysBeforeEpoch) % 146097).toNat =
      36524 * centuries + (1461 * fourYears + (365 * years + inYear)) := by
    omega
  have century : min ((36524 * centuries + (1461 * fourYears + (365 * years + inYear))) / 36524) 3 =
      centuries := by
    omega
  have fourYear : (1461 * fourYears + (365 * years + inYear)) / 1461 = fourYears := by omega
  have inFourYears : (1461 * fourYears + (365 * years + inYear)) % 1461 = 365 * years + inYear := by
    omega
  have lastYear : min ((365 * years + inYear) / 365) 3 = years := by omega
  simp only [ofDayNumber, quotient, inFourCenturies, century, Nat.add_sub_cancel_left, fourYear,
    inFourYears, lastYear]

/-- Every number has a year and a day of the year behind it. -/
theorem exists_places (number : Int) : ∃ year inYear, Places number year inYear := by
  let days := number + daysBeforeEpoch
  let inFourCenturies := (days % 146097).toNat
  let centuries := min (inFourCenturies / 36524) 3
  let inCentury := inFourCenturies - 36524 * centuries
  let fourYears := inCentury / 1461
  let inFourYears := inCentury % 1461
  let years := min (inFourYears / 365) 3
  have centuriesLe : centuries ≤ 3 := Nat.min_le_right _ _
  have yearsLe : years ≤ 3 := Nat.min_le_right _ _
  have inCenturyLt : inCentury < 36524 ∨ inCentury = 36524 ∧ centuries = 3 := by omega
  have fourYearsLe : fourYears ≤ 24 := by omega
  refine ⟨400 * (days / 146097) + 100 * centuries + 4 * fourYears + years + 1,
    inFourYears - 365 * years, ?_, ?_⟩
  · rw [daysBeforeYear_cycles centuriesLe fourYearsLe yearsLe]
    omega
  · rw [lt_sum_monthLengths_cycles centuriesLe fourYearsLe yearsLe]
    omega

/-! ## Dates -/

/-- The days of the calendar are those of the count. -/
theorem ofDayNumber_dayNumber {date : Date} (isDay : date.isCalendarDay = true) :
    ofDayNumber date.dayNumber = date := by
  obtain ⟨index, bound, inMonth, lt, eq⟩ := isCalendarDay_iff.mp isDay
  have places : Places date.dayNumber date.year
      (((monthLengths date.year).take index).sum + inMonth) := by
    refine ⟨?_, sum_take_add_lt bound lt⟩
    rw [eq, dayNumber, daysBeforeMonth_succ]
    push_cast
    omega
  rw [places.ofDayNumber_eq, locate_sum_take bound lt, Nat.add_comm 1, ← eq]

theorem dayNumber_ofDayNumber (number : Int) : dayNumber (ofDayNumber number) = number := by
  obtain ⟨year, inYear, places⟩ := exists_places number
  obtain ⟨index, bound, inMonth, lt, rfl⟩ := exists_month places.inYear_lt
  rw [places.ofDayNumber_eq, locate_sum_take bound lt, Nat.add_comm 1, dayNumber,
    daysBeforeMonth_succ, places.number_eq]
  push_cast
  omega

theorem isCalendarDay_ofDayNumber (number : Int) : (ofDayNumber number).isCalendarDay = true := by
  obtain ⟨year, inYear, places⟩ := exists_places number
  obtain ⟨index, bound, inMonth, lt, rfl⟩ := exists_month places.inYear_lt
  rw [places.ofDayNumber_eq, locate_sum_take bound lt, Nat.add_comm 1]
  exact isCalendarDay_iff.mpr ⟨index, bound, inMonth, lt, rfl⟩

/-- A day of a year comes less than a year after its first day. -/
theorem dayNumber_bounds {date : Date} (isDay : date.isCalendarDay = true) :
    daysBeforeYear date.year - daysBeforeEpoch ≤ date.dayNumber ∧
      date.dayNumber < daysBeforeYear date.year - daysBeforeEpoch + 366 := by
  obtain ⟨index, bound, inMonth, lt, eq⟩ := isCalendarDay_iff.mp isDay
  have inYear := sum_take_add_lt bound lt
  rw [sum_monthLengths] at inYear
  rw [eq, dayNumber, daysBeforeMonth_succ]
  dsimp only
  split at inYear <;> omega

end Date

theorem Day.ofDate?_date (day : Day) : Day.ofDate? day.date = some day := by
  rw [ofDate?, date, if_pos (Date.isCalendarDay_ofDayNumber day.number),
    Date.dayNumber_ofDayNumber]
  exact dif_pos ⟨day.first_le, day.le_last⟩

theorem Clock.seconds_lt {clock : Clock} (isTime : clock.isTimeOfDay = true) :
    clock.seconds < 86400 := by
  simp only [isTimeOfDay, Bool.and_eq_true, decide_eq_true_eq] at isTime
  unfold seconds
  omega

theorem Clock.secondNanos_lt {clock : Clock} (isTime : clock.isTimeOfDay = true) :
    clock.secondNanos < 2000000000 := by
  simp only [isTimeOfDay, Bool.and_eq_true, decide_eq_true_eq] at isTime
  unfold secondNanos
  split <;> omega

/-- Clocks show a leap second only where a minute ends. -/
theorem Clock.seconds_mod_of_leap {clock : Clock} (isTime : clock.isTimeOfDay = true)
    (leap : 1000000000 ≤ clock.secondNanos) : clock.seconds % 60 = 59 := by
  simp only [isTimeOfDay, Bool.and_eq_true, decide_eq_true_eq] at isTime
  unfold secondNanos at leap
  unfold seconds
  split at leap <;> omega

namespace Instant

/-- At the instant, clocks in UTC show the date and the time of day. In a leap second they only
do so where a minute ends. -/
structure Shows (instant : Instant) (date : Date) (clock : Clock) : Prop where
  isNamed : IsNamed instant.seconds instant.nanos
  date_eq : instant.day.date = date
  clock_eq : instant.clock = clock

theorem date_day_eq_iff {instant : Instant} {date : Date} :
    instant.day.date = date ↔
      date.isCalendarDay = true ∧ date.dayNumber = instant.seconds / secondsPerDay := by
  change Date.ofDayNumber (instant.seconds / secondsPerDay) = date ↔ _
  constructor
  · rintro rfl
    exact ⟨Date.isCalendarDay_ofDayNumber _, Date.dayNumber_ofDayNumber _⟩
  · rintro ⟨isDay, number⟩
    rw [← number, Date.ofDayNumber_dayNumber isDay]

theorem clock_eq_iff {instant : Instant} {clock : Clock}
    (isNamed : IsNamed instant.seconds instant.nanos) :
    instant.clock = clock ↔
      clock.isTimeOfDay = true ∧ instant.seconds % secondsPerDay = clock.seconds ∧
        instant.nanos = clock.secondNanos := by
  have nanosLt := isNamed.1.2.2
  have leapSecond := isNamed.2
  obtain ⟨hour, minute, second, clockNanos⟩ := clock
  simp only [Instant.clock, Clock.isTimeOfDay, Clock.seconds, Clock.secondNanos, secondsPerDay,
    Bool.and_eq_true, decide_eq_true_eq]
  clear isNamed
  generalize instant.seconds = seconds, instant.nanos = nanos at *
  have inMinute : seconds % 86400 % 60 = seconds % 60 := by omega
  have inDayBounds : 0 ≤ seconds % 86400 ∧ seconds % 86400 < 86400 := by omega
  generalize seconds % 86400 = inDay at inMinute inDayBounds
  -- a leap second is the sixtieth of its minute and has nanoseconds beyond a second
  by_cases regular : nanos < 1000000000 <;> by_cases isLeap : second = 60
  all_goals
    simp only [regular, isLeap, if_true, if_false, Clock.mk.injEq]
    omega

/-- An instant is the one that shows a date and a time when its parts are counted from
them. -/
theorem shows_iff {instant : Instant} {date : Date} {clock : Clock} :
    instant.Shows date clock ↔
      date.isCalendarDay = true ∧ clock.isTimeOfDay = true ∧
        instant.seconds = date.dayNumber * secondsPerDay + clock.seconds ∧
        instant.nanos = clock.secondNanos := by
  constructor
  · rintro ⟨isNamed, dateEq, clockEq⟩
    obtain ⟨isDay, number⟩ := date_day_eq_iff.mp dateEq
    obtain ⟨isTime, inDay, nanos⟩ := (clock_eq_iff isNamed).mp clockEq
    refine ⟨isDay, isTime, ?_, nanos⟩
    rw [number, ← inDay, Int.mul_comm]
    exact (Int.mul_ediv_add_emod _ _).symm
  · rintro ⟨isDay, isTime, seconds, nanos⟩
    have inDay := Clock.seconds_lt isTime
    have isNamed : IsNamed instant.seconds instant.nanos := by
      refine ⟨instant.inRange, ?_⟩
      rw [seconds, nanos]
      intro leap
      have minuteEnds := Clock.seconds_mod_of_leap isTime leap
      unfold secondsPerDay
      omega
    refine ⟨isNamed, date_day_eq_iff.mpr ⟨isDay, ?_⟩,
      (clock_eq_iff isNamed).mpr ⟨isTime, ?_, nanos⟩⟩
    · rw [seconds]
      unfold secondsPerDay
      omega
    · rw [seconds]
      unfold secondsPerDay
      omega

theorem Shows.eq {left right : Instant} {date : Date} {clock : Clock}
    (leftShows : left.Shows date clock) (rightShows : right.Shows date clock) : left = right := by
  obtain ⟨-, -, leftSeconds, leftNanos⟩ := shows_iff.mp leftShows
  obtain ⟨-, -, rightSeconds, rightNanos⟩ := shows_iff.mp rightShows
  rw [mk.injEq]
  exact ⟨leftSeconds.trans rightSeconds.symm, leftNanos.trans rightNanos.symm⟩

/-- Only a calendar day and a time of day are shown anywhere. -/
theorem isCalendarDay_and_isTimeOfDay {date : Date} {clock : Clock} {offset : Int}
    {instant : Instant}
    (found : ofLocal? date clock offset = some instant) :
    date.isCalendarDay = true ∧ clock.isTimeOfDay = true := by
  unfold ofLocal? Day.ofDate? at found
  by_cases isDay : date.isCalendarDay = true
  · rw [if_pos isDay] at found
    refine ⟨isDay, ?_⟩
    split at found
    · contradiction
    · exact (Option.ite_none_right_eq_some.mp found).1
  · rw [if_neg isDay] at found
    contradiction

/-- Where clocks are ahead of UTC they show a date and a time before clocks in UTC do. -/
theorem Shows.ofLocal?_eq {utc : Instant} {date : Date} {clock : Clock}
    (isShown : utc.Shows date clock) (offset : Int) :
    ofLocal? date clock offset = ofParts? (utc.seconds - offset) utc.nanos := by
  obtain ⟨-, isTime, seconds, nanos⟩ := shows_iff.mp isShown
  have number : utc.day.number = date.dayNumber :=
    (date_day_eq_iff.mp isShown.date_eq).2.symm
  rw [ofLocal?, ← isShown.date_eq, Day.ofDate?_date]
  dsimp only
  rw [if_pos isTime, number, seconds, nanos]

/-- Every date and time in a supported year is shown at some instant. -/
theorem exists_shows {date : Date} {clock : Clock} (isDay : date.isCalendarDay = true)
    (yearLower : -262143 ≤ date.year) (yearUpper : date.year < 262142)
    (isTime : clock.isTimeOfDay = true) : ∃ utc : Instant, utc.Shows date clock := by
  have days := Date.dayNumber_bounds isDay
  have inDay := Clock.seconds_lt isTime
  have inRange :
      InRange (date.dayNumber * secondsPerDay + clock.seconds) clock.secondNanos := by
    unfold daysBeforeYear daysBeforeEpoch at days
    unfold InRange secondsPerDay
    exact ⟨by omega, by omega, Clock.secondNanos_lt isTime⟩
  exact ⟨⟨_, _, inRange⟩, shows_iff.mpr ⟨isDay, isTime, rfl, rfl⟩⟩

/-- Away from the ends of the supported range, and but for leap seconds, a date and a time
are also shown by clocks that are less than a day ahead of UTC. -/
theorem Shows.exists_ofLocal? {utc : Instant} {date : Date} {clock : Clock}
    (isShown : utc.Shows date clock) (yearLower : -262142 ≤ date.year)
    (yearUpper : date.year < 262141) (regular : clock.second < 60) {offset : Int}
    (lessThanDay : offset.natAbs < 86400) :
    ∃ instant, ofLocal? date clock offset = some instant ∧
      instant.seconds = utc.seconds - offset ∧ instant.nanos = utc.nanos := by
  obtain ⟨isDay, isTime, seconds, nanos⟩ := shows_iff.mp isShown
  have days := Date.dayNumber_bounds isDay
  have inDay := Clock.seconds_lt isTime
  have isNamed : IsNamed (utc.seconds - offset) utc.nanos := by
    simp only [Clock.isTimeOfDay, Bool.and_eq_true, decide_eq_true_eq] at isTime
    rw [Clock.secondNanos, if_neg (Nat.ne_of_lt regular)] at nanos
    unfold daysBeforeYear daysBeforeEpoch at days
    rw [seconds, nanos]
    unfold IsNamed InRange secondsPerDay
    exact ⟨⟨by omega, by omega, by omega⟩, by omega⟩
  exact ⟨⟨_, _, isNamed.1⟩, (isShown.ofLocal?_eq offset).trans (dif_pos isNamed), rfl, rfl⟩

end Instant

end SearchQuery.Calendar
