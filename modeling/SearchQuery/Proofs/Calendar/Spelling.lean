import SearchQuery.Calendar.DateValue
import SearchQuery.Proofs.Calendar.DayNumber
import SearchQuery.Proofs.Calendar.Timestamp
import SearchQuery.Proofs.Text.WhiteSpace

/-!
# Spellings of dates in a query

A date alone, a date and a time, and these with `Z` or an offset from UTC are each read by one
of the forms of a date value and by no other (`Spelling.instantOfValue?_value`). So all of them
name the instant at which clocks set as far ahead of UTC show what is written
(`instantOfValue?_of_spelling`).
-/

namespace SearchQuery.Calendar

open SearchQuery.Text

/-- The value of a date filter as people write it. -/
inductive Spelling where
  | day (date : WrittenDate)
  | moment (date : WrittenDate) (separator : Separator) (clock : WrittenClock)
      (zone : WrittenZone)

namespace Spelling

def text : Spelling → List Char
  | day date => date.text
  | moment date separator clock zone =>
      date.text ++ separator.char :: (clock.text ++ zone.text)

def value (spelling : Spelling) : String :=
  String.ofList spelling.text

def date : Spelling → Date
  | day date | moment date _ _ _ => date.date

/-- The time of day; a day stands for its midnight. -/
def clock : Spelling → Clock
  | day _ => .midnight
  | moment _ _ clock _ => clock.clock

def zone : Spelling → WrittenZone
  | day _ => .unstated
  | moment _ _ _ zone => zone

/-- Whether month, day, hour and minute are in range, and hours and minutes of the offset. -/
def isInRange (spelling : Spelling) : Bool :=
  spelling.date.isCalendarDay && spelling.clock.hour < 24 && spelling.clock.minute < 60 &&
    spelling.zone.isInRange

end Spelling

/-! ## Forms of a date value -/

namespace Spelling

/-- A date is read as a date only. -/
theorem instantOfValue?_of_day {value : String} {date : WrittenDate}
    (trimmed : trim value.toList = date.text) :
    instantOfValue? value = Instant.ofLocal? date.date .midnight 0 := by
  have noLetter : Layout.dateTTime.instant? (date.text ++ []) = none :=
    Layout.instant?_of_looseDate date rfl
  have noTime : Layout.dateSpaceTime.instant? (date.text ++ []) = none :=
    Layout.instant?_of_looseDate date rfl
  rw [List.append_nil] at noLetter noTime
  unfold instantOfValue?
  dsimp only
  rw [trimmed, Layout.instant?_of_reads (Layout.looseDate_reads date), Timestamp.read?_date,
    noLetter, noTime]
  simp only [Option.orElse_eq_orElse, Option.orElse_eq_or, Option.or_none]

/-- A form without an offset takes a text with one for no more than a front. -/
theorem instant?_append_zone {layout : Layout} {text : List Char} {fields : DateFields}
    (reads : Scan.Reads (layout.read .none) text fields) (zone : WrittenZone) :
    layout.instant? (text ++ zone.text) =
      match zone with
      | .unstated => Instant.ofLocal? fields.date fields.clock 0
      | _ => none := by
  cases zone with
  | unstated =>
      rw [WrittenZone.text, List.append_nil]
      exact Layout.instant?_of_reads reads
  | utc | ahead hours minutes | behind hours minutes =>
      exact Layout.instant?_of_rest reads (List.cons_ne_nil _ _)

/-- Of the two forms without an offset, one has the separator. -/
theorem instant?_by_separator (date : WrittenDate) (separator : Separator)
    (clock : WrittenClock) (zone : WrittenZone) :
    (Layout.dateTTime.instant? (date.text ++ separator.char :: (clock.text ++ zone.text)) <|>
        Layout.dateSpaceTime.instant?
          (date.text ++ separator.char :: (clock.text ++ zone.text))) =
      match zone with
      | .unstated => Instant.ofLocal? date.date clock.clock 0
      | _ => none := by
  have whole (mark : Char) : date.text ++ mark :: (clock.text ++ zone.text) =
      (date.text ++ mark :: clock.text) ++ zone.text :=
    (List.append_assoc date.text (mark :: clock.text) zone.text).symm
  cases separator with
  | letter =>
      have noSpaces : Layout.dateSpaceTime.instant?
          (date.text ++ Separator.letter.char :: (clock.text ++ zone.text)) = none :=
        Layout.instant?_of_looseDate date rfl
      rw [noSpaces, Separator.char, whole,
        instant?_append_zone (Layout.dateTTime_reads date clock)]
      simp only [Option.orElse_eq_orElse, Option.orElse_eq_or, Option.or_none]
  | space =>
      have noLetter : Layout.dateTTime.instant?
          (date.text ++ Separator.space.char :: (clock.text ++ zone.text)) = none :=
        Layout.instant?_of_looseDate date rfl
      rw [noLetter, Separator.char, whole,
        instant?_append_zone (Layout.dateSpaceTime_reads date clock)]
      rfl

theorem instantOfValue?_of_moment {value : String} {date : WrittenDate} {separator : Separator}
    {clock : WrittenClock} {zone : WrittenZone}
    (trimmed : trim value.toList = date.text ++ separator.char :: (clock.text ++ zone.text)) :
    instantOfValue? value =
      if zone.isInRange then Instant.ofLocal? date.date clock.clock zone.offset else none := by
  have notDate : Layout.looseDate.instant?
      (date.text ++ separator.char :: (clock.text ++ zone.text)) = none :=
    Layout.instant?_of_rest (Layout.looseDate_reads date) (List.cons_ne_nil _ _)
  unfold instantOfValue?
  dsimp only
  rw [trimmed, notDate, Timestamp.read?_moment, instant?_by_separator]
  cases zone with
  | unstated => rfl
  | utc | ahead hours minutes | behind hours minutes =>
      simp only [Option.orElse_eq_orElse, Option.orElse_eq_or, Option.or_none, Option.none_or]

/-! ## White space -/

/-- The last character of the text is not white space, and there is one. -/
def EndsVisibly (text : List Char) : Prop :=
  ∃ c ∈ text.getLast?, isWhiteSpace c = false

theorem EndsVisibly.append {back : List Char} (ends : EndsVisibly back) (front : List Char) :
    EndsVisibly (front ++ back) := by
  obtain ⟨c, last, visible⟩ := ends
  exact ⟨c, List.mem_getLast?_append_of_mem_getLast? last, visible⟩

theorem endsVisibly_digits {width : Nat} (numeral : Numeral (width + 1)) :
    EndsVisibly numeral.digits := by
  have ne_nil : numeral.digits ≠ [] := by
    intro empty
    have length := numeral.length_eq
    rw [empty] at length
    contradiction
  have last := numeral.isDigit _ (List.getLast_mem ne_nil)
  exact ⟨_, List.getLast?_eq_some_getLast ne_nil, isWhiteSpace_of_isDigit last⟩

theorem endsVisibly_text (spelling : Spelling) : EndsVisibly spelling.text := by
  have marked (mark : Char) (front : List Char) {back : List Char} (ends : EndsVisibly back) :
      EndsVisibly (front ++ mark :: back) :=
    (ends.append [mark]).append front
  cases spelling with
  | day date => exact marked _ _ (marked _ _ (endsVisibly_digits date.day))
  | moment date separator clock zone =>
      have clockEnds : EndsVisibly clock.text :=
        marked _ _ (marked _ _ (endsVisibly_digits clock.second))
      apply marked
      cases zone with
      | unstated =>
          rw [WrittenZone.text, List.append_nil]
          exact clockEnds
      | utc => exact EndsVisibly.append ⟨'Z', rfl, by decide⟩ clock.text
      | ahead hours minutes | behind hours minutes =>
          exact marked _ _ (marked _ _ (endsVisibly_digits minutes))

theorem isTrimmed_text (spelling : Spelling) : IsTrimmed spelling.text := by
  constructor
  · intro c head
    have inYear {date : WrittenDate} {rest : List Char}
        (head : c ∈ (date.text ++ rest).head?) : isWhiteSpace c = false := by
      rw [WrittenDate.text, List.append_assoc] at head
      exact isWhiteSpace_of_isDigit (date.year.isDigit_of_mem_head? head)
    cases spelling with
    | day date =>
        rw [text, ← List.append_nil date.text] at head
        exact inYear head
    | moment date separator clock zone => exact inYear head
  · intro c last
    obtain ⟨found, lastFound, visible⟩ := endsVisibly_text spelling
    obtain rfl : found = c := Option.some.inj (lastFound.symm.trans last)
    exact visible

/-- The forms of a date value read a spelling as the date and the time that it shows. -/
theorem instantOfValue?_value (spelling : Spelling) :
    instantOfValue? spelling.value =
      if spelling.zone.isInRange then
        Instant.ofLocal? spelling.date spelling.clock spelling.zone.offset
      else none := by
  have trimmed : trim spelling.value.toList = spelling.text := by
    rw [value, String.toList_ofList, (isTrimmed_text spelling).trim_eq]
  cases spelling with
  | day date => exact instantOfValue?_of_day trimmed
  | moment date separator clock zone => exact instantOfValue?_of_moment trimmed

end Spelling

/-! ## Instants -/

namespace WrittenDate

/-- Every date of the years 0 to 9999 can be written. -/
theorem exists_date_eq {date : Date} (isDay : date.isCalendarDay = true)
    (yearNonneg : 0 ≤ date.year) (yearLe : date.year ≤ 9999) :
    ∃ written : WrittenDate, written.date = date := by
  have bounds := Date.month_le_and_day_le isDay
  obtain ⟨year, yearValue⟩ := Numeral.exists_value_eq (by omega : date.year.toNat < 10 ^ 4)
  obtain ⟨month, monthValue⟩ := Numeral.exists_value_eq (by omega : date.month < 10 ^ 2)
  obtain ⟨day, dayValue⟩ := Numeral.exists_value_eq (by omega : date.day < 10 ^ 2)
  refine ⟨⟨year, month, day⟩, ?_⟩
  rw [WrittenDate.date, yearValue, monthValue, dayValue, Int.toNat_of_nonneg yearNonneg]

theorem year_bounds (written : WrittenDate) :
    0 ≤ written.date.year ∧ written.date.year ≤ 9999 := by
  have lt := written.year.value_lt
  dsimp only [WrittenDate.date]
  omega

end WrittenDate

namespace WrittenClock

/-- Every time of day can be written, to the second. -/
theorem exists_clock_eq {clock : Clock} (isTime : clock.isTimeOfDay = true)
    (whole : clock.nanos = 0) : ∃ written : WrittenClock, written.clock = clock := by
  simp only [Clock.isTimeOfDay, Bool.and_eq_true, decide_eq_true_eq] at isTime
  obtain ⟨hour, hourValue⟩ := Numeral.exists_value_eq (by omega : clock.hour < 10 ^ 2)
  obtain ⟨minute, minuteValue⟩ := Numeral.exists_value_eq (by omega : clock.minute < 10 ^ 2)
  obtain ⟨second, secondValue⟩ := Numeral.exists_value_eq (by omega : clock.second < 10 ^ 2)
  refine ⟨⟨hour, minute, second⟩, ?_⟩
  rw [WrittenClock.clock, hourValue, minuteValue, secondValue, ← whole]

end WrittenClock

namespace Spelling

theorem isInRange_iff {spelling : Spelling} :
    spelling.isInRange = true ↔
      spelling.date.isCalendarDay = true ∧ spelling.clock.hour < 24 ∧
        spelling.clock.minute < 60 ∧ spelling.zone.isInRange = true := by
  simp only [isInRange, Bool.and_eq_true, decide_eq_true_eq, and_assoc]

theorem year_bounds (spelling : Spelling) :
    0 ≤ spelling.date.year ∧ spelling.date.year ≤ 9999 := by
  cases spelling with
  | day date | moment date _ _ _ => exact date.year_bounds

theorem isTimeOfDay_iff {spelling : Spelling} :
    spelling.clock.isTimeOfDay = true ↔
      spelling.clock.hour < 24 ∧ spelling.clock.minute < 60 ∧ spelling.clock.second ≤ 60 := by
  have whole : spelling.clock.nanos = 0 := by cases spelling <;> rfl
  simp only [Clock.isTimeOfDay, whole, Bool.and_eq_true, decide_eq_true_eq, and_assoc,
    Nat.zero_lt_succ, and_true]

/-- With all parts in range a spelling names the instant that shows its date and its time when
clocks in UTC are set ahead by the offset. -/
theorem exists_instant {spelling : Spelling} (inRange : spelling.isInRange = true)
    (regular : spelling.clock.second < 60) :
    ∃ utc instant : Instant, utc.Shows spelling.date spelling.clock ∧
      instantOfValue? spelling.value = some instant ∧
      instant.seconds = utc.seconds - spelling.zone.offset ∧ instant.nanos = utc.nanos := by
  obtain ⟨isDay, hour, minute, zone⟩ := isInRange_iff.mp inRange
  have isTime := isTimeOfDay_iff.mpr ⟨hour, minute, Nat.le_of_lt regular⟩
  have years := spelling.year_bounds
  obtain ⟨utc, shown⟩ := Instant.exists_shows isDay (by omega) (by omega) isTime
  obtain ⟨instant, found, parts⟩ := shown.exists_ofLocal? (by omega) (by omega) regular
    (WrittenZone.natAbs_offset_lt zone)
  refine ⟨utc, instant, shown, ?_, parts⟩
  rw [instantOfValue?_value, if_pos zone, found]

theorem instantOfValue?_eq_none {spelling : Spelling} (outOfRange : spelling.isInRange = false) :
    instantOfValue? spelling.value = none := by
  rw [instantOfValue?_value, Option.eq_none_iff_forall_ne_some]
  intro instant found
  obtain ⟨zone, found⟩ := Option.ite_none_right_eq_some.mp found
  obtain ⟨isDay, isTime⟩ := Instant.isCalendarDay_and_isTimeOfDay found
  obtain ⟨hour, minute, -⟩ := isTimeOfDay_iff.mp isTime
  rw [isInRange_iff.mpr ⟨isDay, hour, minute, zone⟩] at outOfRange
  contradiction

end Spelling

/-- White space around the value of a date filter makes no difference. -/
theorem instantOfValue?_append {before value after : String} (blankBefore : isBlank before = true)
    (blankAfter : isBlank after = true) :
    instantOfValue? (before ++ value ++ after) = instantOfValue? value := by
  unfold instantOfValue?
  rw [trim_toList_append blankBefore blankAfter]

/-- The spellings of a date and a time mean one instant. Every date of the years 0 to 9999, every
time of day and every offset can be written, and white space around a value makes no difference.
A spelling whose parts are in range names the one instant that shows its date and its time, less
the offset. A spelling with a part out of range names none. -/
theorem instantOfValue?_of_spelling :
    (∀ date : Date, date.isCalendarDay = true → 0 ≤ date.year → date.year ≤ 9999 →
      ∃ written : WrittenDate, written.date = date) ∧
    (∀ clock : Clock, clock.isTimeOfDay = true → clock.nanos = 0 →
      ∃ written : WrittenClock, written.clock = clock) ∧
    (∀ seconds : Int, seconds.natAbs < 86400 → seconds % 60 = 0 →
      ∃ zone : WrittenZone, zone.isInRange = true ∧ zone.offset = seconds) ∧
    (∀ before value after : String, isBlank before = true → isBlank after = true →
      instantOfValue? (before ++ value ++ after) = instantOfValue? value) ∧
    (∀ spelling : Spelling, spelling.isInRange = true → spelling.clock.second < 60 →
      ∃ utc : Instant,
        (∀ other : Instant, other.Shows spelling.date spelling.clock ↔ other = utc) ∧
        ∃ instant, instantOfValue? spelling.value = some instant ∧
          instant.seconds = utc.seconds - spelling.zone.offset ∧ instant.nanos = utc.nanos) ∧
    ∀ spelling : Spelling, spelling.isInRange = false →
      instantOfValue? spelling.value = none := by
  refine ⟨fun _ => WrittenDate.exists_date_eq, fun _ => WrittenClock.exists_clock_eq,
    fun _ => WrittenZone.exists_offset_eq, fun _ _ _ => instantOfValue?_append, ?_,
    fun _ => Spelling.instantOfValue?_eq_none⟩
  intro spelling inRange regular
  obtain ⟨utc, instant, shown, named⟩ := Spelling.exists_instant inRange regular
  refine ⟨utc, fun other => ⟨fun shows => shows.eq shown, ?_⟩, instant, named⟩
  rintro rfl
  exact shown

/-- Clocks behind UTC still show the old year when it has ended in UTC, and a year without a leap
day has no twenty-ninth of February. -/
theorem instantOfValue?_of_spelling_at_ends_of_months :
    (∃ instant, instantOfValue? "\t2023-12-31 23:30:00-01:45 " = some instant ∧
      instant.Shows ⟨2024, 1, 1⟩ ⟨1, 15, 0, 0⟩) ∧
      instantOfValue? "2023-02-29T10:00:00" = none := by
  obtain ⟨-, -, -, spaces, inRange, outOfRange⟩ := instantOfValue?_of_spelling
  let year : Numeral 4 := ⟨['2', '0', '2', '3'], by decide, rfl⟩
  constructor
  · let newYearsEve : Spelling :=
      .moment ⟨year, ⟨['1', '2'], by decide, rfl⟩, ⟨['3', '1'], by decide, rfl⟩⟩ .space
        ⟨⟨['2', '3'], by decide, rfl⟩, ⟨['3', '0'], by decide, rfl⟩,
          ⟨['0', '0'], by decide, rfl⟩⟩
        (.behind ⟨['0', '1'], by decide, rfl⟩ ⟨['4', '5'], by decide, rfl⟩)
    obtain ⟨utc, shown, instant, named, seconds, nanos⟩ :=
      inRange newYearsEve (by decide) (by decide)
    obtain ⟨-, -, utcSeconds, utcNanos⟩ := Instant.shows_iff.mp ((shown utc).mpr rfl)
    refine ⟨instant, (spaces "\t" newYearsEve.value " " (by decide) (by decide)).trans named, ?_⟩
    rw [Instant.shows_iff, seconds, nanos, utcSeconds, utcNanos]
    decide
  · exact outOfRange
      (.moment ⟨year, ⟨['0', '2'], by decide, rfl⟩, ⟨['2', '9'], by decide, rfl⟩⟩ .letter
        ⟨⟨['1', '0'], by decide, rfl⟩, ⟨['0', '0'], by decide, rfl⟩,
          ⟨['0', '0'], by decide, rfl⟩⟩ .unstated)
      (by decide)

end SearchQuery.Calendar
