import SearchQuery.Calendar.Timestamp
import SearchQuery.Proofs.Text.Scan

/-!
# Reading dates and times under their layouts

A date of four, two and two digits and a time of two, two and two are read the same wherever a
layout has them, whether its numbers are fixed or loose (`Layout.dateParts_reads`,
`Layout.timeParts_reads`). Where its numbers are fixed, a layout reads nothing but such texts
(`Layout.exists_of_fixed`).
-/

namespace SearchQuery.Calendar

open SearchQuery.Text

/-- The number of digits that the number of a field may have at most. -/
def DateField.width : DateField → Nat
  | year => 4
  | _ => 2

/-- A date with all its digits: `YYYY-MM-DD`. -/
structure WrittenDate where
  year : Numeral 4
  month : Numeral 2
  day : Numeral 2

/-- A time of day with all its digits: `hh:mm:ss`. -/
structure WrittenClock where
  hour : Numeral 2
  minute : Numeral 2
  second : Numeral 2

namespace WrittenDate

def text (written : WrittenDate) : List Char :=
  written.year.digits ++ '-' :: (written.month.digits ++ '-' :: written.day.digits)

def date (written : WrittenDate) : Date :=
  ⟨written.year.value, written.month.value, written.day.value⟩

end WrittenDate

namespace WrittenClock

def text (written : WrittenClock) : List Char :=
  written.hour.digits ++ ':' :: (written.minute.digits ++ ':' :: written.second.digits)

def clock (written : WrittenClock) : Clock :=
  ⟨written.hour.value, written.minute.value, written.second.value, 0⟩

end WrittenClock

/-! ## Numbers -/

namespace DateField

theorem readFixed_reads : (field : DateField) → (numeral : Numeral field.width) →
    Scan.Reads field.readFixed numeral.digits (numeral.value : Int)
  | year, numeral => (numeral.reads (Nat.le_refl 4)).map fun digits => (decimalValue digits : Int)
  | month, numeral | day, numeral | hour, numeral | minute, numeral | second, numeral =>
      (numeral.reads (Nat.le_refl 2)).map fun digits => (decimalValue digits : Int)

theorem readLoose_reads (field : DateField) (numeral : Numeral field.width) :
    Scan.Reads field.readLoose numeral.digits (numeral.value : Int) := by
  intro rest
  have noSpace {width : Nat} (numeral : Numeral (width + 1)) :
      Scan.run isWhiteSpace (numeral.digits ++ rest) = some ([], numeral.digits ++ rest) :=
    Scan.run_of_head fun _ head => isWhiteSpace_of_isDigit (numeral.isDigit_of_mem_head? head)
  have noSign {sign : Char} (other : sign.isDigit = false) (numeral : Numeral 4) :
      Scan.skip sign (numeral.digits ++ rest) = some (false, numeral.digits ++ rest) :=
    Scan.skip_of_head fun _ head => ne_of_isDigit (numeral.isDigit_of_mem_head? head) other
  cases field with
  | year =>
      exact (Scan.bind_of_eq_some (noSpace numeral)).trans <|
        (Scan.bind_of_eq_some (noSign (by decide) numeral)).trans <|
        (Scan.bind_of_eq_some (noSign (by decide) numeral)).trans <|
        Scan.bind_of_eq_some (numeral.reads (by decide) rest)
  | month | day | hour | minute | second =>
      exact (Scan.bind_of_eq_some (noSpace numeral)).trans <|
        Scan.bind_of_eq_some (numeral.reads (by decide) rest)

end DateField

/-! ## Parts of layouts -/

/-- Wherever all digits of a number are written, the part reads the number. -/
def ReadsNumerals (number : DateField → LayoutPart) : Prop :=
  ∀ fields field (numeral : Numeral field.width),
    Scan.Reads ((number field).read fields) numeral.digits (fields.set field numeral.value)

theorem readsNumerals_fixed : ReadsNumerals .fixed :=
  fun fields field numeral => (field.readFixed_reads numeral).map (fields.set field)

theorem readsNumerals_loose : ReadsNumerals .loose :=
  fun fields field numeral => (field.readLoose_reads numeral).map (fields.set field)

namespace LayoutPart

theorem mark_reads (c : Char) (fields : DateFields) :
    Scan.Reads ((mark c).read fields) [c] fields :=
  (Scan.char_reads c).map fun _ => fields

end LayoutPart

namespace Layout

/-- A layout is read part by part. -/
theorem reads_cons {part : LayoutPart} {later : Layout} {fields found result : DateFields}
    {front back : List Char} (first : Scan.Reads (part.read fields) front found)
    (rest : Scan.Reads (read found later) back result) :
    Scan.Reads (read fields (part :: later)) (front ++ back) result :=
  first.bind rest

theorem reads_nil (fields : DateFields) : Scan.Reads (read fields []) [] fields :=
  Scan.Reads.pure fields

theorem read_append (fields : DateFields) (first later : Layout) :
    read fields (first ++ later) = read fields first >>= fun found => read found later := by
  induction first generalizing fields with
  | nil => rfl
  | cons part first ih =>
      change part.read fields >>= (fun found => read found (first ++ later)) =
        part.read fields >>= (fun found => read found first) >>= fun found => read found later
      simp only [ih, bind_assoc]

theorem reads_append {first later : Layout} {fields found result : DateFields}
    {front back : List Char} (firstReads : Scan.Reads (read fields first) front found)
    (laterReads : Scan.Reads (read found later) back result) :
    Scan.Reads (read fields (first ++ later)) (front ++ back) result := by
  rw [read_append]
  exact firstReads.bind laterReads

theorem read_append_of_reads {first : Layout} {fields found : DateFields} {text : List Char}
    (reads : Scan.Reads (read fields first) text found) (later : Layout) (rest : List Char) :
    read fields (first ++ later) (text ++ rest) = read found later rest := by
  rw [read_append, Scan.bind_of_eq_some (reads rest)]

theorem exists_of_read_append {first later : Layout} {fields result : DateFields}
    {text rest : List Char} (found : read fields (first ++ later) text = some (result, rest)) :
    ∃ middle back, read fields first text = some (middle, back) ∧
      read middle later back = some (result, rest) := by
  rw [read_append] at found
  exact Scan.exists_of_bind_eq_some found

/-- Year, month and day in the same form of number, joined by dashes. -/
def dateParts (number : DateField → LayoutPart) : Layout :=
  [number .year, .mark '-', number .month, .mark '-', number .day]

/-- Hour, minute and second in the same form of number, joined by colons. -/
def timeParts (number : DateField → LayoutPart) : Layout :=
  [number .hour, .mark ':', number .minute, .mark ':', number .second]

section Parts

variable {number : DateField → LayoutPart} (readsNumerals : ReadsNumerals number)

include readsNumerals

theorem dateParts_reads (written : WrittenDate) :
    Scan.Reads (read .none (dateParts number)) written.text ⟨written.date, .midnight⟩ := by
  have inOrder := reads_cons (readsNumerals .none .year written.year) <|
    reads_cons (LayoutPart.mark_reads '-' _) <|
    reads_cons (readsNumerals _ .month written.month) <|
    reads_cons (LayoutPart.mark_reads '-' _) <|
    reads_cons (readsNumerals _ .day written.day) (reads_nil _)
  rw [List.append_nil] at inOrder
  exact inOrder

theorem timeParts_reads (date : Date) (written : WrittenClock) :
    Scan.Reads (read ⟨date, .midnight⟩ (timeParts number)) written.text
      ⟨date, written.clock⟩ := by
  have inOrder := reads_cons (readsNumerals ⟨date, .midnight⟩ .hour written.hour) <|
    reads_cons (LayoutPart.mark_reads ':' _) <|
    reads_cons (readsNumerals _ .minute written.minute) <|
    reads_cons (LayoutPart.mark_reads ':' _) <|
    reads_cons (readsNumerals _ .second written.second) (reads_nil _)
  rw [List.append_nil] at inOrder
  exact inOrder

end Parts

section Fixed

variable {fields result : DateFields} {text rest : List Char}

theorem exists_of_read_fixed {field : DateField}
    (found : (LayoutPart.fixed field).read fields text = some (result, rest)) :
    ∃ numeral : Numeral field.width, text = numeral.digits ++ rest := by
  obtain ⟨value, number⟩ := Scan.exists_of_map_eq_some found
  cases field with
  | year | month | day | hour | minute | second =>
      obtain ⟨digits, read⟩ := Scan.exists_of_map_eq_some number
      exact Numeral.exists_of_digits read

theorem eq_cons_of_read_mark {c : Char}
    (found : (LayoutPart.mark c).read fields text = some (result, rest)) : text = c :: rest := by
  obtain ⟨_, read⟩ := Scan.exists_of_map_eq_some found
  exact Scan.eq_cons_of_char read

/-- Three fixed numbers with a mark between them are read from three numerals with the mark
between them. -/
theorem exists_of_fixed {left inner right : DateField} {c : Char}
    (found : read fields [.fixed left, .mark c, .fixed inner, .mark c, .fixed right] text =
      some (result, rest)) :
    ∃ (front : Numeral left.width) (middle : Numeral inner.width) (back : Numeral right.width),
      text = front.digits ++ c :: (middle.digits ++ c :: back.digits) ++ rest := by
  obtain ⟨_, _, frontRead, found⟩ := Scan.exists_of_bind_eq_some found
  obtain ⟨_, _, markRead, found⟩ := Scan.exists_of_bind_eq_some found
  obtain ⟨_, _, middleRead, found⟩ := Scan.exists_of_bind_eq_some found
  obtain ⟨_, _, laterMarkRead, found⟩ := Scan.exists_of_bind_eq_some found
  obtain ⟨_, backRead⟩ := Scan.exists_of_map_eq_some found
  obtain ⟨front, rfl⟩ := exists_of_read_fixed frontRead
  obtain rfl := eq_cons_of_read_mark markRead
  obtain ⟨middle, rfl⟩ := exists_of_read_fixed middleRead
  obtain rfl := eq_cons_of_read_mark laterMarkRead
  obtain ⟨back, rfl⟩ := exists_of_read_fixed backRead
  exact ⟨front, middle, back, by simp only [List.append_assoc, List.cons_append]⟩

end Fixed

/-! ## Dates and times without an offset -/

section Loose

variable (date : WrittenDate) (clock : WrittenClock)

theorem looseDate_reads : Scan.Reads (read .none looseDate) date.text ⟨date.date, .midnight⟩ :=
  dateParts_reads readsNumerals_loose date

theorem looseTime_reads (date : Date) :
    Scan.Reads (read ⟨date, .midnight⟩ looseTime) clock.text ⟨date, clock.clock⟩ :=
  timeParts_reads readsNumerals_loose date clock

theorem dateTTime_reads :
    Scan.Reads (read .none dateTTime) (date.text ++ 'T' :: clock.text)
      ⟨date.date, clock.clock⟩ := by
  have timeReads := looseTime_reads clock date.date
  have markedReads := reads_cons (LayoutPart.mark_reads 'T' _) timeReads
  exact reads_append (looseDate_reads date) markedReads

theorem dateSpaceTime_reads :
    Scan.Reads (read .none dateSpaceTime) (date.text ++ ' ' :: clock.text)
      ⟨date.date, clock.clock⟩ := by
  have spacedReads : Scan.Reads (read ⟨date.date, .midnight⟩ (.space :: looseTime))
      (' ' :: clock.text) ⟨date.date, clock.clock⟩ := by
    intro rest
    have noSpace : ∀ c ∈ (clock.text ++ rest).head?, isWhiteSpace c = false := by
      intro c head
      rw [WrittenClock.text, List.append_assoc] at head
      exact isWhiteSpace_of_isDigit (clock.hour.isDigit_of_mem_head? head)
    have oneSpace := Scan.run_cons (by decide : isWhiteSpace ' ' = true)
      (Scan.run_of_head noSpace)
    exact (Scan.bind_of_eq_some (Scan.bind_of_eq_some oneSpace)).trans
      (looseTime_reads clock date.date rest)
  exact reads_append (looseDate_reads date) spacedReads

end Loose

/-! ## Whole texts -/

section Whole

variable {layout : Layout} {fields : DateFields} {text rest : List Char}

theorem instant?_of_reads (reads : Scan.Reads (layout.read .none) text fields) :
    layout.instant? text = Instant.ofLocal? fields.date fields.clock 0 := by
  unfold instant?
  rw [reads.complete_eq]

theorem instant?_of_rest (reads : Scan.Reads (layout.read .none) text fields)
    (ne_nil : rest ≠ []) : layout.instant? (text ++ rest) = none := by
  unfold instant?
  rw [reads.complete_append ne_nil]

theorem instant?_of_eq_none (failed : layout.read .none text = none) :
    layout.instant? text = none := by
  unfold instant?
  rw [Scan.complete_of_eq_none failed]

/-- A layout that begins with a date fails where what comes after the date fails. -/
theorem instant?_of_looseDate (date : WrittenDate) {later : Layout}
    (failed : later.read ⟨date.date, .midnight⟩ rest = none) :
    (looseDate ++ later).instant? (date.text ++ rest) = none :=
  instant?_of_eq_none ((read_append_of_reads (looseDate_reads date) later rest).trans failed)

end Whole

end Layout

end SearchQuery.Calendar
