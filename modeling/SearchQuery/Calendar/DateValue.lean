import SearchQuery.Calendar.Timestamp

/-!
# Dates in a query

The value of a date filter is a day, a timestamp with an offset, or a date and a
time that are read as UTC. A day stands for its midnight.
-/

namespace SearchQuery.Calendar

open SearchQuery.Text

/-- The instant that the value of a date filter names. -/
def instantOfValue? (value : String) : Option Instant :=
  let text := trim value.toList
  Layout.looseDate.instant? text <|> Timestamp.read? text <|>
    Layout.dateTTime.instant? text <|> Layout.dateSpaceTime.instant? text

end SearchQuery.Calendar
