import SearchQuery.Calendar.DateValue
import SearchQuery.Proofs.Calendar.Timestamp

/-!
# The forms of a date value

A date value is tried as a date, as a timestamp, and as a date and a time with a `T` or with white
space between them. The three forms with loose numbers begin alike and differ in what they take
behind the date (`DateForm.eq_behindDate`); a timestamp begins like all of them and goes on behind
the time, where they have to end (`DateForm.instant?_of_timestamp`). So no text has two of the
forms, and the order in which they are tried is irrelevant (`DateForm.at_most_one_accepts`).
-/

namespace SearchQuery.Calendar

open SearchQuery.Text

/-- The forms of a date value. -/
inductive DateForm where
  | date
  | timestamp
  | letterTime
  | spaceTime
deriving DecidableEq, Repr

namespace DateForm

/-- Every form, in the order in which they are tried. -/
def all : List DateForm :=
  [date, timestamp, letterTime, spaceTime]

/-- The instant that a whole text names in a form. -/
def instant? : DateForm → List Char → Option Instant
  | date => Layout.looseDate.instant?
  | timestamp => Timestamp.read?
  | letterTime => Layout.dateTTime.instant?
  | spaceTime => Layout.dateSpaceTime.instant?

theorem instantOfValue?_eq_findSome? (value : String) :
    instantOfValue? value = all.findSome? (instant? · (trim value.toList)) := by
  unfold instantOfValue? all
  simp only [List.findSome?_cons, List.findSome?_nil, instant?]
  cases Layout.looseDate.instant? (trim value.toList) <;>
    cases Timestamp.read? (trim value.toList) <;>
    cases Layout.dateTTime.instant? (trim value.toList) <;>
    cases Layout.dateSpaceTime.instant? (trim value.toList) <;> rfl

/-! ## Loose forms -/

section Loose

variable {text : List Char} {instant : Instant}

/-- A form that begins with a loose date reads the rest behind it, to the end. -/
theorem exists_of_looseDate {later : Layout}
    (found : (Layout.looseDate ++ later).instant? text = some instant) :
    ∃ fields rest result, Layout.looseDate.read .none text = some (fields, rest) ∧
      later.read fields rest = some (result, []) := by
  unfold Layout.instant? at found
  split at found
  · next result whole =>
      obtain ⟨fields, rest, dateRead, laterRead⟩ :=
        Layout.exists_of_read_append (Scan.eq_of_complete_eq_some whole)
      exact ⟨fields, rest, result, dateRead, laterRead⟩
  · contradiction

/-- The form that a text can have by the first character behind the date. -/
def behindDate : Option Char → DateForm
  | none => date
  | some 'T' => letterTime
  | some _ => spaceTime

/-- A loose form is told by the first character behind the date. -/
theorem eq_behindDate {form : DateForm} (isLoose : form ≠ timestamp)
    (found : form.instant? text = some instant) :
    ∃ fields rest, Layout.looseDate.read .none text = some (fields, rest) ∧
      form = behindDate rest.head? := by
  cases form with
  | timestamp => contradiction
  | date =>
      have nothingBehind : (Layout.looseDate ++ []).instant? text = some instant := found
      obtain ⟨fields, rest, result, dateRead, laterRead⟩ := exists_of_looseDate nothingBehind
      obtain ⟨-, rfl⟩ := Prod.mk.inj (Option.some.inj laterRead)
      exact ⟨fields, [], dateRead, rfl⟩
  | letterTime =>
      obtain ⟨fields, rest, result, dateRead, laterRead⟩ := exists_of_looseDate found
      obtain ⟨_, _, letterRead, -⟩ := Scan.exists_of_bind_eq_some laterRead
      obtain rfl := Layout.eq_cons_of_read_mark letterRead
      exact ⟨fields, _, dateRead, rfl⟩
  | spaceTime =>
      obtain ⟨fields, rest, result, dateRead, laterRead⟩ := exists_of_looseDate found
      refine ⟨fields, rest, dateRead, ?_⟩
      -- neither nothing nor a letter begins with white space and a number
      unfold behindDate
      split
      · next empty =>
          rw [List.head?_eq_none_iff.mp empty] at laterRead
          contradiction
      · next letter =>
          obtain ⟨back, rfl⟩ := List.head?_eq_some_iff.mp letter
          contradiction
      · rfl

/-- A timestamp has more behind its time than the loose forms take. -/
theorem instant?_of_timestamp {form : DateForm} (isLoose : form ≠ timestamp)
    (found : timestamp.instant? text = some instant) : form.instant? text = none := by
  obtain ⟨date, mark, clock, back, isMark, more, rfl⟩ := Timestamp.exists_of_read? found
  have whole : date.text ++ mark :: (clock.text ++ back) =
      (date.text ++ mark :: clock.text) ++ back :=
    (List.append_assoc date.text (mark :: clock.text) back).symm
  cases form with
  | timestamp => contradiction
  | date => exact Layout.instant?_of_rest (Layout.looseDate_reads date) (List.cons_ne_nil _ _)
  | letterTime =>
      by_cases isLetter : mark = 'T'
      · subst isLetter
        rw [whole]
        exact Layout.instant?_of_rest (Layout.dateTTime_reads date clock) more
      · apply Layout.instant?_of_looseDate date
        exact Scan.bind_of_eq_none (Scan.bind_of_eq_none (if_neg isLetter))
  | spaceTime =>
      simp only [List.mem_cons, List.not_mem_nil, or_false] at isMark
      rcases isMark with rfl | rfl | rfl
      · exact Layout.instant?_of_looseDate date rfl
      · exact Layout.instant?_of_looseDate date rfl
      · rw [whole]
        exact Layout.instant?_of_rest (Layout.dateSpaceTime_reads date clock) more

end Loose

/-! ## Any order -/

theorem areExclusive_instant? : AreExclusive instant? := by
  intro text first second value other found otherFound
  by_cases firstTimestamp : first = timestamp <;> by_cases secondTimestamp : second = timestamp
  · rw [firstTimestamp, secondTimestamp]
  · rw [instant?_of_timestamp secondTimestamp (firstTimestamp ▸ found)] at otherFound
    contradiction
  · rw [instant?_of_timestamp firstTimestamp (secondTimestamp ▸ otherFound)] at found
    contradiction
  · obtain ⟨fields, rest, dateRead, rfl⟩ := eq_behindDate firstTimestamp found
    obtain ⟨_, _, otherRead, rfl⟩ := eq_behindDate secondTimestamp otherFound
    obtain ⟨-, rfl⟩ := Prod.mk.inj (Option.some.inj (dateRead.symm.trans otherRead))
    rfl

/-- At most one form accepts a text, and a date value means the same in whatever order the forms
are tried. -/
theorem at_most_one_accepts :
    (∀ (text : List Char) (form other : DateForm),
      (form.instant? text).isSome = true → (other.instant? text).isSome = true → form = other) ∧
    ∀ (value : String) (order : List DateForm), order.Perm all →
      order.findSome? (instant? · (trim value.toList)) = instantOfValue? value := by
  constructor
  · intro text form other accepts otherAccepts
    obtain ⟨_, found⟩ := Option.isSome_iff_exists.mp accepts
    obtain ⟨_, otherFound⟩ := Option.isSome_iff_exists.mp otherAccepts
    exact areExclusive_instant? found otherFound
  · intro value order perm
    rw [instantOfValue?_eq_findSome?]
    apply Option.ext
    intro instant
    rw [areExclusive_instant?.findSome?_eq_some_iff, areExclusive_instant?.findSome?_eq_some_iff]
    simp only [perm.mem_iff]

/-- A date and a time with an offset are a timestamp, and neither a date nor a date and a time
with a space, although they begin like one. -/
theorem at_most_one_accepts_timestamp_with_space :
    let text := "2024-03-15 12:00:00+02:00".toList
    (timestamp.instant? text).isSome = true ∧ spaceTime.instant? text = none ∧
      [spaceTime, letterTime, timestamp, date].Perm all ∧
      [spaceTime, letterTime, timestamp, date].findSome? (instant? · (trim text)) =
        instantOfValue? "2024-03-15 12:00:00+02:00" := by
  intro text
  have accepts : (timestamp.instant? text).isSome = true := by decide +kernel
  have anyOrder : [spaceTime, letterTime, timestamp, date].Perm all := by decide
  refine ⟨accepts, ?_, anyOrder, at_most_one_accepts.2 _ _ anyOrder⟩
  rw [← Option.not_isSome_iff_eq_none]
  intro alsoAccepts
  exact absurd (at_most_one_accepts.1 text timestamp spaceTime accepts alsoAccepts) (by decide)

end DateForm

end SearchQuery.Calendar
