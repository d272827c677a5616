/-!
Dates of the proleptic Gregorian calendar. `IsDate` says which triples of year, month and day are
dates; a `Date` is one of them, and dates are ordered in time.
-/

namespace TextQuery

/-- Whether a year has a 29th of February. -/
def isLeapYear (year : Int) : Bool :=
  year % 4 = 0 && (year % 100 ≠ 0 || year % 400 = 0)

/-- The number of days of a month. -/
def daysInMonth (year : Int) (month : Nat) : Nat :=
  if month = 2 then
    if isLeapYear year then 29 else 28
  else if month = 4 ∨ month = 6 ∨ month = 9 ∨ month = 11 then 30
  else 31

/-- The year, month and day exist, and the year is in the supported range. -/
def IsDate (year : Int) (month day : Nat) : Prop :=
  (-262143 ≤ year ∧ year ≤ 262142) ∧ (1 ≤ month ∧ month ≤ 12) ∧
    (1 ≤ day ∧ day ≤ daysInMonth year month)

instance (year : Int) (month day : Nat) : Decidable (IsDate year month day) :=
  inferInstanceAs (Decidable (_ ∧ _ ∧ _))

/-- A day of the calendar. -/
structure Date where
  year : Int
  month : Nat
  day : Nat
  exists_day : IsDate year month day
deriving DecidableEq, Repr

namespace Date

/-- The date with the given parts, if there is one. -/
def ofParts? (year : Int) (month day : Nat) : Option Date :=
  if h : IsDate year month day then some ⟨year, month, day, h⟩ else none

/-- The first of January 1970. -/
def epoch : Date :=
  ⟨1970, 1, 1, by decide⟩

/-- Earlier dates are less. -/
instance : Ord Date where
  compare left right :=
    (compare left.year right.year).then
      ((compare left.month right.month).then (compare left.day right.day))

/-- The day after, unless the range of years ends. -/
def next? (date : Date) : Option Date :=
  if date.day < daysInMonth date.year date.month then
    ofParts? date.year date.month (date.day + 1)
  else if date.month < 12 then
    ofParts? date.year (date.month + 1) 1
  else
    ofParts? (date.year + 1) 1 1

/-- The day before, unless the range of years begins. -/
def previous? (date : Date) : Option Date :=
  if 1 < date.day then
    ofParts? date.year date.month (date.day - 1)
  else if 1 < date.month then
    ofParts? date.year (date.month - 1) (daysInMonth date.year (date.month - 1))
  else
    ofParts? (date.year - 1) 12 31

end Date

end TextQuery
