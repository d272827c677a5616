import TextQuery.Calendar.DayCount

/-!
The parts of a date and time that a reader has met so far. Each part is in its own range, and a part
that is met twice has to agree with itself (`keep?`). Once the text is used up, `Parts.date` looks
for the day that enough of the parts point to (`Parts.ways`), and the others have to agree with it
(`Parts.agrees`); `Parts.time?` does the same for the time, and `Parts.dateTime?` for both, where
seconds since 1970 may stand for whatever is missing.
-/

namespace TextQuery

/-- What has been read of a date and time. -/
structure Parts where
  year : Option Int := none
  /-- A year without its last two digits. -/
  century : Option Nat := none
  /-- The last two digits of a year. -/
  yearOfCentury : Option Nat := none
  quarter : Option Nat := none
  month : Option Nat := none
  day : Option Nat := none
  dayOfYear : Option Nat := none
  /-- The week of the year, where weeks begin on Sunday. -/
  sundayWeek : Option Nat := none
  /-- The week of the year, where weeks begin on Monday. -/
  mondayWeek : Option Nat := none
  /-- The year of weeks. -/
  weekYear : Option Int := none
  /-- The last two digits of a year of weeks. -/
  weekYearOfCentury : Option Nat := none
  /-- The week of a year of weeks. -/
  week : Option Nat := none
  /-- The day of the week, 0 for Monday. -/
  weekday : Option Nat := none
  /-- 0 before noon, 1 from noon on. -/
  half : Option Nat := none
  /-- The hour since midnight or noon. -/
  hourOfHalf : Option Nat := none
  minute : Option Nat := none
  second : Option Nat := none
  nano : Option Nat := none
  /-- Seconds since the beginning of 1970. -/
  unixSeconds : Option Nat := none
  /-- Seconds ahead of UTC. -/
  offset : Option Int := none
deriving DecidableEq, Repr

/-! ## Meeting parts -/

/-- A part that is met (again): it has to be the same as before. -/
def keep? {α : Type} [DecidableEq α] (met : Option α) (part : α) : Option (Option α) :=
  match met with
  | none => some (some part)
  | some before => if before = part then some (some before) else none

/-- A number that is met (again) and has to be in a range. -/
def keepWithin? (least greatest : Nat) (met : Option Nat) (part : Nat) : Option (Option Nat) :=
  if least ≤ part ∧ part ≤ greatest then keep? met part else none

namespace Parts

/-- Meets a year. -/
def withYear? (parts : Parts) (year : Int) : Option Parts := do
  return { parts with year := ← keep? parts.year year }

/-- Meets a year without its last two digits. -/
def withCentury? (parts : Parts) (century : Nat) : Option Parts := do
  return { parts with century := ← keep? parts.century century }

/-- Meets a year by its last two digits. -/
def withYearOfCentury? (parts : Parts) (year : Nat) : Option Parts := do
  return { parts with yearOfCentury := ← keepWithin? 0 99 parts.yearOfCentury year }

/-- Meets a quarter of a year. -/
def withQuarter? (parts : Parts) (quarter : Nat) : Option Parts := do
  return { parts with quarter := ← keepWithin? 1 4 parts.quarter quarter }

/-- Meets a month by its number. -/
def withMonth? (parts : Parts) (month : Nat) : Option Parts := do
  return { parts with month := ← keepWithin? 1 12 parts.month month }

/-- Meets a day of the month. -/
def withDay? (parts : Parts) (day : Nat) : Option Parts := do
  return { parts with day := ← keepWithin? 1 31 parts.day day }

/-- Meets a day of the year. -/
def withDayOfYear? (parts : Parts) (day : Nat) : Option Parts := do
  return { parts with dayOfYear := ← keepWithin? 1 366 parts.dayOfYear day }

/-- Meets a week of the year, where weeks begin on Sunday. -/
def withSundayWeek? (parts : Parts) (week : Nat) : Option Parts := do
  return { parts with sundayWeek := ← keepWithin? 0 53 parts.sundayWeek week }

/-- Meets a week of the year, where weeks begin on Monday. -/
def withMondayWeek? (parts : Parts) (week : Nat) : Option Parts := do
  return { parts with mondayWeek := ← keepWithin? 0 53 parts.mondayWeek week }

/-- Meets a year of weeks. -/
def withWeekYear? (parts : Parts) (year : Int) : Option Parts := do
  return { parts with weekYear := ← keep? parts.weekYear year }

/-- Meets a year of weeks by its last two digits. -/
def withWeekYearOfCentury? (parts : Parts) (year : Nat) : Option Parts := do
  return { parts with weekYearOfCentury := ← keepWithin? 0 99 parts.weekYearOfCentury year }

/-- Meets a week of a year of weeks. -/
def withWeek? (parts : Parts) (week : Nat) : Option Parts := do
  return { parts with week := ← keepWithin? 1 53 parts.week week }

/-- Meets a day of the week, 0 for Monday. -/
def withWeekday? (parts : Parts) (weekday : Nat) : Option Parts := do
  return { parts with weekday := ← keepWithin? 0 6 parts.weekday weekday }

/-- Meets a day of the week by its number from 0 for Sunday. -/
def withWeekdayFromSunday? (parts : Parts) (weekday : Nat) : Option Parts := do
  guard (weekday ≤ 6)
  parts.withWeekday? ((weekday + 6) % 7)

/-- Meets a day of the week by its number from 1 for Monday. -/
def withWeekdayFromMonday? (parts : Parts) (weekday : Nat) : Option Parts := do
  guard (1 ≤ weekday)
  parts.withWeekday? (weekday - 1)

/-- Meets the half of the day. -/
def withHalf? (parts : Parts) (half : Nat) : Option Parts := do
  return { parts with half := ← keepWithin? 0 1 parts.half half }

/-- Meets an hour on a clock of twelve hours. -/
def withHour12? (parts : Parts) (hour : Nat) : Option Parts := do
  guard (1 ≤ hour ∧ hour ≤ 12)
  return { parts with hourOfHalf := ← keep? parts.hourOfHalf (hour % 12) }

/-- Meets an hour of the day. -/
def withHour? (parts : Parts) (hour : Nat) : Option Parts := do
  guard (hour ≤ 23)
  return { parts with
    half := ← keep? parts.half (hour / 12)
    hourOfHalf := ← keep? parts.hourOfHalf (hour % 12) }

/-- Meets a minute. -/
def withMinute? (parts : Parts) (minute : Nat) : Option Parts := do
  return { parts with minute := ← keepWithin? 0 59 parts.minute minute }

/-- Meets a second; 60 is a leap second. -/
def withSecond? (parts : Parts) (second : Nat) : Option Parts := do
  return { parts with second := ← keepWithin? 0 60 parts.second second }

/-- Meets a fraction of a second. -/
def withNano? (parts : Parts) (nano : Nat) : Option Parts := do
  return { parts with nano := ← keepWithin? 0 999999999 parts.nano nano }

/-- Meets seconds since the beginning of 1970, which have 63 bits. -/
def withUnixSeconds? (parts : Parts) (seconds : Nat) : Option Parts := do
  return { parts with unixSeconds := ← keepWithin? 0 (Nat.pow 2 63 - 1) parts.unixSeconds seconds }

/-- Meets an offset from UTC. -/
def withOffset? (parts : Parts) (offset : Int) : Option Parts := do
  return { parts with offset := ← keep? parts.offset offset }

end Parts

/-! ## Putting parts together -/

/-- Why parts make no date. -/
inductive DateFault where
  /-- Too little was met. -/
  | lacking
  /-- There is no such date, or the parts do not agree on one. -/
  | impossible
deriving DecidableEq, Repr

/-- Whether a year has the given last two digits and the others in front of them, where they are
known. A negative year has none. -/
def hasDigits (year : Int) (century yearOfCentury : Option Nat) : Bool :=
  century.all (fun n : Nat => year / 100 = n) &&
    yearOfCentury.all (fun n : Nat => 0 ≤ year ∧ year % 100 = n)

/-- The year that is known from a year as a whole, its last two digits and the others. The last two
alone mean a year from 1970 to 2069. -/
def resolveYear (year : Option Int) (century yearOfCentury : Option Nat) :
    Except DateFault (Option Int) :=
  match year with
  | some year =>
    if hasDigits year century yearOfCentury then .ok (some year) else .error .impossible
  | none =>
    match century, yearOfCentury with
    | none, none => .ok none
    | some century, some short => .ok (some (century * 100 + short))
    | none, some short => .ok (some (if short < 70 then 2000 + short else 1900 + short))
    | some _, none => .error .lacking

namespace Parts

/-- Whether a date shows every part of one that was met. -/
def agrees (parts : Parts) (date : Date) : Bool :=
  parts.year.all (date.year = ·) &&
    hasDigits date.year parts.century parts.yearOfCentury &&
    parts.quarter.all (date.quarter = ·) &&
    parts.month.all (date.month = ·) &&
    parts.day.all (date.day = ·) &&
    parts.dayOfYear.all (date.dayOfYear = ·) &&
    parts.sundayWeek.all (date.weekFrom 6 = ·) &&
    parts.mondayWeek.all (date.weekFrom 0 = ·) &&
    parts.weekYear.all (date.weekYear = ·) &&
    hasDigits date.weekYear none parts.weekYearOfCentury &&
    parts.week.all (date.week = ·) &&
    parts.weekday.all (date.weekday = ·)

/-- The days that the parts point to, in a year and a year of weeks that they are known to mean, in
five ways: by month and day, by the day of the year, by a week from Sunday on or from Monday on with
a day of it, and by a week of a year of weeks with a day of it. A way is missing unless all its
parts were met. -/
def ways (parts : Parts) (year weekYear : Option Int) : List (Option (Option Date)) :=
  [ do return Date.ofParts? (← year) (← parts.month) (← parts.day),
    do return Date.ofDayOfYear? (← year) (← parts.dayOfYear),
    do return Date.ofWeekFrom? 6 (← year) (← parts.sundayWeek) (← parts.weekday),
    do return Date.ofWeekFrom? 0 (← year) (← parts.mondayWeek) (← parts.weekday),
    do return Date.ofWeek? (← weekYear) (← parts.week) (← parts.weekday) ]

/-- The date that the first way points to, if it shows all parts. -/
def date (parts : Parts) : Except DateFault Date := do
  let year ← resolveYear parts.year parts.century parts.yearOfCentury
  let weekYear ← resolveYear parts.weekYear none parts.weekYearOfCentury
  match (parts.ways year weekYear).findSome? id with
  | none => .error .lacking
  | some none => .error .impossible
  | some (some date) => if parts.agrees date then .ok date else .error .impossible

/-- The date, if there is one. -/
def date? (parts : Parts) : Option Date :=
  parts.date.toOption

/-- The time, if hour and minute were met. A missing second is zero, but then no fraction of one
may have been met. -/
def time? (parts : Parts) : Option Time := do
  let hour := (← parts.half) * 12 + (← parts.hourOfHalf)
  let minute ← parts.minute
  match parts.second, parts.nano with
  | none, some _ => none
  | second, nano => Time.ofParts? hour minute (second.getD 0) (nano.getD 0)

/-- Meets the parts of the moment `seconds` seconds after the beginning of 1970. If second 60 was
met, the moment is the second before it or the one after it. -/
def withMoment? (parts : Parts) (seconds : Nat) : Option Parts := do
  let moment ← DateTime.ofUnixSeconds? seconds
  let second := moment.time.second.val % 60
  let moment ←
    if parts.second = some 60 ∧ second = 0 then moment.earlier? 1 else some moment
  let parts ←
    if parts.second = some 60 then
      if second = 59 ∨ second = 0 then some parts else none
    else
      parts.withSecond? second
  let parts ← parts.withYear? moment.date.year
  let parts ← parts.withDayOfYear? moment.date.dayOfYear
  let parts ← parts.withHour? (moment.time.second / 3600)
  parts.withMinute? (moment.time.second / 60 % 60)

/-- Whether seconds since the beginning of 1970, if they were met, agree with a moment. They may
count a leap second as the one after it. -/
def agreesOnSeconds (parts : Parts) (moment : DateTime) : Bool :=
  parts.unixSeconds.all fun seconds : Nat =>
    seconds = moment.unixSeconds ∨
      1000000000 ≤ moment.time.nano.val ∧ seconds = moment.unixSeconds + 1

/-- The date and time. If parts of them are missing, seconds since the beginning of 1970 supply
them, and the parts that were met have to agree. -/
def dateTime? (parts : Parts) : Option DateTime :=
  match parts.date, parts.time? with
  | .ok date, some time =>
    if parts.agreesOnSeconds ⟨date, time⟩ then some ⟨date, time⟩ else none
  | .error .impossible, _ => none
  | _, _ => do
    let parts ← parts.withMoment? (← parts.unixSeconds)
    return ⟨← parts.date?, ← parts.time?⟩

end Parts

end TextQuery
