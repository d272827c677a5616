import TextQuery.Calendar.Time
import TextQuery.Number.Numeral

/-!
The written forms of dates, times and instants. Parts have a fixed width and are joined by `-`, `T`
and `:`. A year outside 0 to 9999 has a sign. A fraction of a second has 3, 6 or 9 digits, the
fewest that are exact, and none if it is zero. An instant ends in its offset from UTC.
-/

namespace TextQuery

/-- The text of a year. -/
def yearText (year : Int) : Text :=
  if 0 ≤ year ∧ year ≤ 9999 then Numeral.fixed 4 year.toNat
  else (if year < 0 then '-' else '+') :: Numeral.fixed 4 year.natAbs

/-- The text of a date: year, month and day. -/
def Date.text (date : Date) : Text :=
  yearText date.year ++ ['-'] ++ Numeral.fixed 2 date.month ++ ['-'] ++ Numeral.fixed 2 date.day

/-- The digits after the decimal point of a second, with the point. -/
def fractionText (nano : Nat) : Text :=
  if nano = 0 then []
  else if nano % 1000000 = 0 then '.' :: Numeral.fixed 3 (nano / 1000000)
  else if nano % 1000 = 0 then '.' :: Numeral.fixed 6 (nano / 1000)
  else '.' :: Numeral.fixed 9 nano

/-- The text of a time: hour, minute and second. A leap second is second 60 of its minute. -/
def Time.text (time : Time) : Text :=
  Numeral.fixed 2 (time.second.val / 3600) ++ [':'] ++
    Numeral.fixed 2 (time.second.val / 60 % 60) ++ [':'] ++
    Numeral.fixed 2 (time.second.val % 60 + time.nano.val / 1000000000) ++
    fractionText (time.nano.val % 1000000000)

/-- The text of a date and time. -/
def DateTime.text (moment : DateTime) : Text :=
  moment.date.text ++ ['T'] ++ moment.time.text

/-- The text of an instant, with a numeric offset. -/
def Timestamp.text (instant : Timestamp) : Text :=
  instant.utc.text ++ "+00:00".toList

/-- The text of an instant that names UTC by the letter `Z`. -/
def Timestamp.zuluText (instant : Timestamp) : Text :=
  instant.utc.text ++ ['Z']

end TextQuery
