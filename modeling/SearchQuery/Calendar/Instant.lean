import SearchQuery.Calendar.Day
import SearchQuery.Field

/-!
# Instants

An instant is a number of whole seconds since 1970-01-01 00:00:00 UTC and a
number of nanoseconds within the second. A leap second is told apart from the
second before it by nanoseconds of 1 000 000 000 and more. An instant can have
one after any second, but parts, dates and times name one only where a minute
ends. The order is that of seconds, then nanoseconds, so a leap second comes
after the second it extends and before the next.
-/

namespace SearchQuery.Calendar

/-- The number of seconds of a day. -/
def secondsPerDay : Int := 86400

/-- Whether the parts are those of an instant: the day is supported, and the
nanoseconds are fewer than those of the second and a leap second after it. -/
def Instant.InRange (seconds : Int) (nanos : Nat) : Prop :=
  -96465292 * secondsPerDay ≤ seconds ∧ seconds < 95026237 * secondsPerDay ∧
    nanos < 2000000000

instance (seconds : Int) (nanos : Nat) : Decidable (Instant.InRange seconds nanos) :=
  inferInstanceAs (Decidable (_ ∧ _ ∧ _))

/-- A moment in UTC. -/
structure Instant where
  seconds : Int
  nanos : Nat
  inRange : Instant.InRange seconds nanos
deriving DecidableEq, Repr

/-- Whether the parts name an instant, which in a leap second they only do where a
minute ends. -/
def Instant.IsNamed (seconds : Int) (nanos : Nat) : Prop :=
  InRange seconds nanos ∧ (1000000000 ≤ nanos → seconds % 60 = 59)

instance (seconds : Int) (nanos : Nat) : Decidable (Instant.IsNamed seconds nanos) :=
  inferInstanceAs (Decidable (_ ∧ (_ → _)))

/-- A time of day; second 60 is a leap second. -/
structure Clock where
  hour : Nat
  minute : Nat
  second : Nat
  nanos : Nat
deriving DecidableEq, Repr

namespace Clock

/-- The first moment of a day. -/
def midnight : Clock :=
  ⟨0, 0, 0, 0⟩

/-- Whether every part is in its range. -/
def isTimeOfDay (clock : Clock) : Bool :=
  clock.hour < 24 && clock.minute < 60 && clock.second ≤ 60 && clock.nanos < 1000000000

/-- The whole seconds since midnight; a leap second counts as the one before. -/
def seconds (clock : Clock) : Nat :=
  3600 * clock.hour + 60 * clock.minute + min clock.second 59

/-- The nanoseconds within the second, a full second more in a leap second. -/
def secondNanos (clock : Clock) : Nat :=
  if clock.second = 60 then 1000000000 + clock.nanos else clock.nanos

end Clock

namespace Instant

/-- The instant with the given parts, if they name one. -/
def ofParts? (seconds : Int) (nanos : Nat) : Option Instant :=
  if isNamed : IsNamed seconds nanos then some ⟨seconds, nanos, isNamed.1⟩ else none

/-- The instant at which clocks `offset` seconds ahead of UTC show the given date
and time. -/
def ofLocal? (date : Date) (clock : Clock) (offset : Int) : Option Instant :=
  match Day.ofDate? date with
  | none => none
  | some day =>
      if clock.isTimeOfDay then
        ofParts? (day.number * secondsPerDay + clock.seconds - offset) clock.secondNanos
      else none

/-- The day on which an instant falls in UTC. -/
def day (instant : Instant) : Day :=
  ⟨instant.seconds / secondsPerDay, by
    have low := instant.inRange.1
    unfold secondsPerDay at low ⊢
    omega, by
    have high := instant.inRange.2.1
    unfold secondsPerDay at high ⊢
    omega⟩

/-- The time of day in UTC as it is written. A leap second counts as the second
after the one it extends. -/
def clock (instant : Instant) : Clock :=
  let inDay := (instant.seconds % secondsPerDay).toNat
  if instant.nanos < 1000000000 then
    ⟨inDay / 3600, inDay / 60 % 60, inDay % 60, instant.nanos⟩
  else
    ⟨inDay / 3600, inDay / 60 % 60, inDay % 60 + 1, instant.nanos - 1000000000⟩

/-- Milliseconds since 1970-01-01 00:00:00 UTC, rounded down. A leap second runs
into the milliseconds of the next second. -/
def millis (instant : Instant) : Int :=
  instant.seconds * 1000 + (instant.nanos / 1000000 : Nat)

/-- The order of instants: seconds first, then nanoseconds. -/
def compare (left right : Instant) : Ordering :=
  (Ord.compare left.seconds right.seconds).then (Ord.compare left.nanos right.nanos)

end Instant

/-- Milliseconds at the start of a day. -/
def Day.startMillis (day : Day) : Int :=
  day.number * secondsPerDay * 1000

/-- The half-open range of milliseconds of a day. The last supported day has no
successor; its range ends at the last supported millisecond. -/
def Day.millisRange (day : Day) : Int × Int :=
  (day.startMillis,
    match day.next? with
    | some next => next.startMillis
    | none => (day.number + 1) * secondsPerDay * 1000 - 1)

end SearchQuery.Calendar

namespace SearchQuery

/-- Whether a comparison accepts two values that stand in the given order. -/
def Comparison.admits : Comparison → Ordering → Bool
  | less, order => order.isLT
  | lessOrEqual, order => order.isLE
  | greater, order => order.isGT
  | greaterOrEqual, order => order.isGE

end SearchQuery
