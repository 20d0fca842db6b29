import SearchQuery.Calendar.Instant

/-!
# Instants and their milliseconds

A database keeps an instant as its milliseconds. These lose what is finer, and those of a
leap second run on into the second after it. What they still tell is said here: the order
of two instants, unless both fall into one millisecond or one is a leap second that has
overrun the other (`compare_eq_compare_millis`); and the day of every instant that is not
in a leap second (`day_eq_iff`).
-/

namespace SearchQuery

/-- The comparison of two integers. -/
def Comparison.holds : Comparison → Int → Int → Bool
  | less, left, right => left < right
  | lessOrEqual, left, right => left ≤ right
  | greater, left, right => right < left
  | greaterOrEqual, left, right => right ≤ left

/-- It looks at nothing but the order of the two. -/
theorem Comparison.holds_eq_admits (comparison : Comparison) (left right : Int) :
    comparison.holds left right = comparison.admits (compare left right) := by
  rw [Bool.eq_iff_iff]
  cases comparison with
  | less =>
      rw [holds, admits, decide_eq_true_eq, Ordering.isLT_iff_eq_lt, Int.compare_eq_lt]
  | lessOrEqual => rw [holds, admits, decide_eq_true_eq, Int.isLE_compare]
  | greater =>
      rw [holds, admits, decide_eq_true_eq, Ordering.isGT_iff_eq_gt, Int.compare_eq_gt]
  | greaterOrEqual => rw [holds, admits, decide_eq_true_eq, Int.isGE_compare]

namespace Calendar

namespace Instant

theorem compare_eq_lt_iff {left right : Instant} :
    left.compare right = .lt ↔
      left.seconds < right.seconds ∨
        left.seconds = right.seconds ∧ left.nanos < right.nanos := by
  rw [compare, Ordering.then_eq_lt, Int.compare_eq_lt, Int.compare_eq_eq, Nat.compare_eq_lt]

theorem compare_eq_gt_iff {left right : Instant} :
    left.compare right = .gt ↔ right.compare left = .lt := by
  rw [compare_eq_lt_iff, compare, Ordering.then_eq_gt, Int.compare_eq_gt, Int.compare_eq_eq,
    Nat.compare_eq_gt, eq_comm]

theorem compare_eq_eq_iff {left right : Instant} : left.compare right = .eq ↔ left = right := by
  rw [compare, Ordering.then_eq_eq, Int.compare_eq_eq, Nat.compare_eq_eq, Instant.mk.injEq]

/-- A leap second whose milliseconds are past those of an instant in the second after it. -/
def Overruns (leap next : Instant) : Prop :=
  1000000000 ≤ leap.nanos ∧ next.seconds = leap.seconds + 1 ∧ next.millis < leap.millis

instance (leap next : Instant) : Decidable (leap.Overruns next) :=
  inferInstanceAs (Decidable (_ ∧ _ ∧ _))

theorem compare_of_overruns {leap next : Instant} (overruns : leap.Overruns next) :
    leap.compare next = .lt := by
  rw [compare_eq_lt_iff, overruns.2.1]
  exact .inl (Int.lt_succ leap.seconds)

/-- Fewer milliseconds mean an earlier instant, unless they are overrun. -/
theorem compare_eq_lt_of_millis_lt {left right : Instant} (lt : left.millis < right.millis)
    (inTime : ¬right.Overruns left) : left.compare right = .lt := by
  have leftBound := left.inRange.2.2
  have rightBound := right.inRange.2.2
  unfold Overruns at inTime
  rw [compare_eq_lt_iff]
  unfold millis at lt inTime
  omega

/-- Instants that neither share a millisecond nor overrun each other have the order of
their milliseconds. -/
theorem compare_eq_compare_millis {left right : Instant} (apart : left.millis ≠ right.millis)
    (leftInTime : ¬left.Overruns right) (rightInTime : ¬right.Overruns left) :
    left.compare right = Ord.compare left.millis right.millis := by
  rcases Int.lt_or_gt_of_ne apart with lt | gt
  · rw [compare_eq_lt_of_millis_lt lt rightInTime, Int.compare_eq_lt.mpr lt]
  · rw [compare_eq_gt_iff.mpr (compare_eq_lt_of_millis_lt gt leftInTime),
      Int.compare_eq_gt.mpr gt]

/-- When a comparison of instants gives what it gives for their milliseconds. Instants in
one millisecond look equal, so the comparison must not tell their order from equality. -/
theorem admits_compare_eq_holds_iff (comparison : Comparison) (left right : Instant) :
    comparison.admits (left.compare right) = comparison.holds left.millis right.millis ↔
      ¬left.Overruns right ∧ ¬right.Overruns left ∧
        (left.millis = right.millis →
          left = right ∨
            left.compare right = .lt ∧ (comparison = .lessOrEqual ∨ comparison = .greater) ∨
            left.compare right = .gt ∧ (comparison = .less ∨ comparison = .greaterOrEqual)) := by
  rw [Comparison.holds_eq_admits]
  by_cases leftOverruns : left.Overruns right
  · rw [compare_of_overruns leftOverruns, Int.compare_eq_gt.mpr leftOverruns.2.2]
    cases comparison <;> simp [Comparison.admits, leftOverruns]
  by_cases rightOverruns : right.Overruns left
  · rw [compare_eq_gt_iff.mpr (compare_of_overruns rightOverruns),
      Int.compare_eq_lt.mpr rightOverruns.2.2]
    cases comparison <;> simp [Comparison.admits, rightOverruns]
  by_cases apart : left.millis = right.millis
  · rw [apart, Int.compare_eq_eq.mpr rfl, ← compare_eq_eq_iff]
    cases left.compare right <;> cases comparison <;>
      simp [Comparison.admits, leftOverruns, rightOverruns]
  · rw [compare_eq_compare_millis apart leftOverruns rightOverruns]
    simp [leftOverruns, rightOverruns, apart]

/-- The day of an instant outside leap seconds can be told from its milliseconds. -/
theorem day_eq_iff {instant : Instant} (regular : instant.nanos < 1000000000) {day : Day} :
    instant.day = day ↔
      day.startMillis ≤ instant.millis ∧ instant.millis < day.startMillis + 86400000 := by
  obtain ⟨number, _, _⟩ := day
  simp only [Instant.day, Day.mk.injEq, Day.startMillis, millis, secondsPerDay]
  omega

end Instant

namespace Day

/-- The last millisecond of the last supported day. -/
def lastMillis : Int :=
  95026237 * secondsPerDay * 1000 - 1

/-- Only the last supported day has no successor. -/
theorem next?_eq_none_iff {day : Day} : day.next? = none ↔ day.number = 95026236 := by
  have first := day.first_le
  have last := day.le_last
  rw [next?, ofNumber?, dite_eq_right_iff]
  simp only [reduceCtorEq, imp_false]
  omega

/-- The range of the last supported day ends at its last millisecond, which it leaves out.
Every other range ends where the next one starts. -/
theorem millisRange_eq (day : Day) :
    day.millisRange = (day.startMillis,
      if day.next? = none then lastMillis else day.startMillis + 86400000) := by
  unfold millisRange
  split
  · next next found =>
      have notLast : day.next? ≠ none := by
        rw [found]
        exact Option.some_ne_none next
      rw [if_neg notLast]
      simp only [next?, ofNumber?, Option.dite_none_right_eq_some, Option.some_inj] at found
      obtain ⟨_, rfl⟩ := found
      simp only [startMillis, secondsPerDay, Prod.mk.injEq, true_and]
      omega
  · next last =>
      rw [if_pos last, next?_eq_none_iff.mp last]
      rfl

/-- The range of a day holds the milliseconds of exactly the instants of the day, with one
exception: the last millisecond of the last supported day. -/
theorem day_eq_iff_mem_millisRange {instant : Instant} (regular : instant.nanos < 1000000000)
    {day : Day} :
    (instant.day = day ↔
        day.millisRange.1 ≤ instant.millis ∧ instant.millis < day.millisRange.2) ↔
      ¬(day.next? = none ∧ instant.millis = lastMillis) := by
  rw [Instant.day_eq_iff regular, millisRange_eq]
  by_cases last : day.next? = none
  · have number := next?_eq_none_iff.mp last
    simp only [last, if_true, true_and, startMillis, number, lastMillis, secondsPerDay]
    omega
  · rw [if_neg last]
    exact iff_of_true Iff.rfl fun exception => last exception.1

end Day

end Calendar

end SearchQuery
