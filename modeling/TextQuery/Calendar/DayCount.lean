import TextQuery.Calendar.Time

/-!
Days counted in other ways than by year, month and day: through the year, through its weeks, and
from the first day of year 1 on. Weeks of a year begin on a fixed day of the week, and days before
the first of these are in week 0. Years of weeks (ISO 8601) begin on the Monday of the week with the
4th of January, so each of their weeks is a whole one. Days of the week are numbered from Monday.
-/

namespace TextQuery

/-! ## Days of a year -/

/-- The days of the first months of a year. -/
def daysOfMonths (year : Int) : Nat → Nat
  | 0 => 0
  | months + 1 => daysOfMonths year months + daysInMonth year (months + 1)

/-- The days from the first day of year 1 to the first day of a year. -/
def daysBeforeYear (year : Int) : Int :=
  365 * (year - 1) + (year - 1) / 4 - (year - 1) / 100 + (year - 1) / 400

namespace Date

/-- The number of the day in its year, counted from 1. -/
def dayOfYear (date : Date) : Nat :=
  daysOfMonths date.year (date.month - 1) + date.day

/-- The day of a year with the given number: it is in the first month that does not end before. -/
def ofDayOfYear? (year : Int) (day : Nat) : Option Date := do
  let month ← (List.range' 1 12).find? fun month => day ≤ daysOfMonths year month
  ofParts? year month (day - daysOfMonths year (month - 1))

/-! ## Days of all years -/

/-- The days from the first day of year 1 to the date. -/
def number (date : Date) : Int :=
  daysBeforeYear date.year + date.dayOfYear - 1

end Date

/-- The year with the day of the given number. In 400 years there are 146097 days, and the year
that follows from this is at most one off. -/
def yearOfDay (number : Int) : Int :=
  let guess := 400 * number / 146097 + 1
  if number < daysBeforeYear guess then guess - 1
  else if daysBeforeYear (guess + 1) ≤ number then guess + 1
  else guess

namespace Date

/-- The date with the given number. -/
def ofNumber? (number : Int) : Option Date :=
  let year := yearOfDay number
  ofDayOfYear? year (number - daysBeforeYear year + 1).toNat

end Date

/-! ## Weeks -/

/-- The days from one day of the week to the next other one, or none if it is the same. -/
def weekdaysBetween (first second : Nat) : Nat :=
  (second + 7 - first) % 7

/-- The first day of a year of weeks, by its number. -/
def weekYearStart (year : Int) : Int :=
  let fourth := daysBeforeYear year + 3
  fourth - fourth % 7

namespace Date

/-- The day of the week: 0 for Monday. -/
def weekday (date : Date) : Nat :=
  (date.number % 7).toNat

/-- The week of the year, where weeks begin on the day `start` of the week. -/
def weekFrom (start : Nat) (date : Date) : Nat :=
  (date.dayOfYear + 6 - weekdaysBetween start date.weekday) / 7

/-- The day of a week of a year, where weeks begin on the day `start` of the week. -/
def ofWeekFrom? (start : Nat) (year : Int) (week weekday : Nat) : Option Date :=
  let newYear := (daysBeforeYear year % 7).toNat
  let day : Int := 1 + weekdaysBetween newYear start + ((week : Int) - 1) * 7 +
    weekdaysBetween start weekday
  if 0 < day then ofDayOfYear? year day.toNat else none

/-- The year of weeks that the date belongs to. -/
def weekYear (date : Date) : Int :=
  if date.number < weekYearStart date.year then date.year - 1
  else if weekYearStart (date.year + 1) ≤ date.number then date.year + 1
  else date.year

/-- The week of the date in its year of weeks, counted from 1. -/
def week (date : Date) : Nat :=
  ((date.number - weekYearStart date.weekYear) / 7 + 1).toNat

/-- The day of a week of a year of weeks. -/
def ofWeek? (year : Int) (week weekday : Nat) : Option Date :=
  let number := weekYearStart year + ((week : Int) - 1) * 7 + weekday
  if 1 ≤ week ∧ number < weekYearStart (year + 1) then ofNumber? number else none

/-- The quarter of the year. -/
def quarter (date : Date) : Nat :=
  (date.month - 1) / 3 + 1

end Date

/-! ## Seconds -/

namespace DateTime

/-- The seconds from the beginning of 1970 to the moment; a leap second does not count. -/
def unixSeconds (moment : DateTime) : Int :=
  (moment.date.number - Date.epoch.number) * 86400 + moment.time.second

/-- The moment with the given number of seconds since the beginning of 1970. -/
def ofUnixSeconds? (seconds : Int) : Option DateTime :=
  (Date.ofNumber? (seconds / 86400 + Date.epoch.number)).map fun date =>
    ⟨date, { Time.midnight with second := ⟨(seconds % 86400).toNat, by omega⟩ }⟩

end DateTime

end TextQuery
