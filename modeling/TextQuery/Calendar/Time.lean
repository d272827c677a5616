import TextQuery.Calendar.Date

/-!
Times of day, dates with a time, and instants of UTC. A leap second is held as the second it
extends with a billion or more nanoseconds, so it comes after all of that second and before the
next one.
-/

namespace TextQuery

/-- A time of day: whole seconds since midnight and the nanoseconds after them. -/
structure Time where
  second : Fin 86400
  nano : Fin 2000000000
deriving DecidableEq, Repr

namespace Time

/-- The first moment of a day. -/
def midnight : Time :=
  ⟨0, 0⟩

/-- The time with the given parts, if they are in range. Second 60 is a leap second. -/
def ofParts? (hour minute second nano : Nat) : Option Time :=
  if h : hour ≤ 23 ∧ minute ≤ 59 ∧ second ≤ 60 ∧ nano ≤ 999999999 then
    if second = 60 then
      some ⟨⟨hour * 3600 + minute * 60 + 59, by omega⟩, ⟨nano + 1000000000, by omega⟩⟩
    else if _ : second ≤ 59 then
      some ⟨⟨hour * 3600 + minute * 60 + second, by omega⟩, ⟨nano, by omega⟩⟩
    else
      none
  else
    none

/-- Earlier times are less. -/
instance : Ord Time where
  compare left right := (compare left.second right.second).then (compare left.nano right.nano)

end Time

/-- A date and a time of day, without an offset. -/
structure DateTime where
  date : Date
  time : Time
deriving DecidableEq, Repr

namespace DateTime

/-- The first moment of a date. -/
def atMidnight (date : Date) : DateTime :=
  ⟨date, Time.midnight⟩

/-- Earlier moments are less. -/
instance : Ord DateTime where
  compare left right := (compare left.date right.date).then (compare left.time right.time)

/-- The moment `seconds` seconds earlier, at most a day away. A leap second stays attached to its
second. -/
def earlier? (moment : DateTime) (seconds : Int) : Option DateTime :=
  let second := (moment.time.second : Int) - seconds
  let time : Time := ⟨⟨(second % 86400).toNat, by omega⟩, moment.time.nano⟩
  let date? :=
    if second < 0 then moment.date.previous?
    else if 86400 ≤ second then moment.date.next?
    else some moment.date
  date?.map (⟨·, time⟩)

end DateTime

/-- An instant, by its date and time in UTC. -/
structure Timestamp where
  utc : DateTime
deriving DecidableEq, Repr

namespace Timestamp

/-- Earlier instants are less. -/
instance : Ord Timestamp where
  compare left right := compare left.utc right.utc

/-- The instant at which clocks `offset` seconds ahead of UTC show `moment`. -/
def ofLocal? (moment : DateTime) (offset : Int) : Option Timestamp :=
  (moment.earlier? offset).map Timestamp.mk

end Timestamp

end TextQuery
