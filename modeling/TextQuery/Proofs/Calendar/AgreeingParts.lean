import TextQuery.Calendar.Parts
import TextQuery.Proofs.Calendar.DayNumbers
import TextQuery.Proofs.Calendar.LeapSeconds
import TextQuery.Proofs.Traversal

/-!
Parts of one date and time. A date that is made of parts shows every one of them
(`Parts.shownBy_of_date?`). The other way round, parts that a date shows make that date as soon as
some way leads from them to a day, whichever way it is (`Parts.date_of_ways`): every way finds a
date again from the parts that it uses (`Parts.eq_of_mem_ways`). So a date and time is made again
from its own parts (`Parts.dateTime?_ofMoment`), and one at a whole second also from the seconds
since 1970 alone (`Parts.dateTime?_seconds`).
-/

namespace TextQuery

/-! ## Years -/

/-- Digits of a year mean that year if it was met as a whole, or both its first and its last ones
were. -/
theorem resolveYear_of_known {year : Option Int} {century yearOfCentury : Option Nat} {shown : Int}
    (same : ∀ n, year = some n → shown = n) (digits : hasDigits shown century yearOfCentury = true)
    (known : year.isSome = true ∨ century.isSome = true ∧ yearOfCentury.isSome = true) :
    resolveYear year century yearOfCentury = .ok (some shown) := by
  cases year with
  | some year =>
    obtain rfl := same year rfl
    exact if_pos digits
  | none =>
    obtain ⟨first, last⟩ := known.resolve_left Bool.false_ne_true
    obtain ⟨century, rfl⟩ := Option.isSome_iff_exists.1 first
    obtain ⟨short, rfl⟩ := Option.isSome_iff_exists.1 last
    unfold hasDigits at digits
    simp only [Option.all_some, Bool.and_eq_true, decide_eq_true_eq] at digits
    have whole : (century : Int) * 100 + short = shown := by omega
    exact congrArg (fun year => Except.ok (some year)) whole

namespace Parts

variable {parts : Parts} {date : Date}

/-! ## Days -/

/-- A date shows all parts of one that were met. -/
structure ShownBy (parts : Parts) (date : Date) : Prop where
  year : ∀ n, parts.year = some n → date.year = n
  digits : hasDigits date.year parts.century parts.yearOfCentury = true
  quarter : ∀ n, parts.quarter = some n → date.quarter = n
  month : ∀ n, parts.month = some n → date.month = n
  day : ∀ n, parts.day = some n → date.day = n
  dayOfYear : ∀ n, parts.dayOfYear = some n → date.dayOfYear = n
  sundayWeek : ∀ n, parts.sundayWeek = some n → date.weekFrom 6 = n
  mondayWeek : ∀ n, parts.mondayWeek = some n → date.weekFrom 0 = n
  weekYear : ∀ n, parts.weekYear = some n → date.weekYear = n
  weekYearDigits : hasDigits date.weekYear none parts.weekYearOfCentury = true
  week : ∀ n, parts.week = some n → date.week = n
  weekday : ∀ n, parts.weekday = some n → date.weekday = n

theorem agrees_iff : parts.agrees date = true ↔ parts.ShownBy date := by
  unfold agrees
  simp only [Bool.and_eq_true, Option.all_eq_true, decide_eq_true_eq, and_assoc]
  refine ⟨?_, ?_⟩
  · rintro ⟨year, digits, quarter, month, day, dayOfYear, sundayWeek, mondayWeek, weekYear,
      weekYearDigits, week, weekday⟩
    exact ⟨year, digits, quarter, month, day, dayOfYear, sundayWeek, mondayWeek, weekYear,
      weekYearDigits, week, weekday⟩
  · intro shown
    exact ⟨shown.year, shown.digits, shown.quarter, shown.month, shown.day, shown.dayOfYear,
      shown.sundayWeek, shown.mondayWeek, shown.weekYear, shown.weekYearDigits, shown.week,
      shown.weekday⟩

/-- Every way leads back to the date that shows the parts. -/
theorem eq_of_mem_ways {year weekYear : Option Int} (shown : parts.ShownBy date)
    (sameYear : ∀ n, year = some n → date.year = n)
    (sameWeekYear : ∀ n, weekYear = some n → date.weekYear = n) {found : Option Date}
    (way : some found ∈ parts.ways year weekYear) : found = some date := by
  unfold ways at way
  simp only [List.mem_cons, List.not_mem_nil, or_false, Option.bind_eq_bind, Option.pure_def,
    eq_comm (a := some found), Option.bind_eq_some_iff, Option.some.injEq] at way
  rcases way with ⟨_, y, _, m, _, d, rfl⟩ | ⟨_, y, _, d, rfl⟩ | ⟨_, y, _, w, _, d, rfl⟩ |
    ⟨_, y, _, w, _, d, rfl⟩ | ⟨_, y, _, w, _, d, rfl⟩
  · rw [← sameYear _ y, ← shown.month _ m, ← shown.day _ d]
    exact date.ofParts?_self
  · rw [← sameYear _ y, ← shown.dayOfYear _ d]
    exact date.ofDayOfYear?_dayOfYear
  · rw [← sameYear _ y, ← shown.sundayWeek _ w, ← shown.weekday _ d]
    exact Date.ofWeekFrom?_weekFrom (by decide) date
  · rw [← sameYear _ y, ← shown.mondayWeek _ w, ← shown.weekday _ d]
    exact Date.ofWeekFrom?_weekFrom (by decide) date
  · rw [← sameWeekYear _ y, ← shown.week _ w, ← shown.weekday _ d]
    exact date.ofWeek?_week

/-! ## Dates -/

/-- A date that is made of parts shows all of them. -/
theorem shownBy_of_date? (made : parts.date? = some date) : parts.ShownBy date := by
  have made := eq_ok_of_toOption made
  unfold Parts.date at made
  obtain ⟨year, -, made⟩ := bind_eq_ok_iff.1 made
  obtain ⟨weekYear, -, made⟩ := bind_eq_ok_iff.1 made
  split at made
  · cases made
  · cases made
  · split at made
    · rename_i agreeing
      cases made
      exact agrees_iff.1 agreeing
    · cases made

/-- Parts that a date shows make that date, if some way leads to a day and the years that they are
known to mean are those of the date. -/
theorem date_of_ways {year weekYear : Option Int} (shown : parts.ShownBy date)
    (years : resolveYear parts.year parts.century parts.yearOfCentury = .ok year)
    (sameYear : ∀ n, year = some n → date.year = n)
    (weekYears : resolveYear parts.weekYear none parts.weekYearOfCentury = .ok weekYear)
    (sameWeekYear : ∀ n, weekYear = some n → date.weekYear = n)
    (enough : ∃ found, some found ∈ parts.ways year weekYear) : parts.date = .ok date := by
  have pointed : (parts.ways year weekYear).findSome? id = some (some date) := by
    obtain ⟨found, way⟩ := enough
    have leads : ((parts.ways year weekYear).findSome? id).isSome = true :=
      List.findSome?_isSome_iff.2 ⟨some found, way, rfl⟩
    obtain ⟨first, pointed⟩ := Option.isSome_iff_exists.1 leads
    obtain ⟨_, member, rfl⟩ := List.exists_of_findSome?_eq_some pointed
    rw [pointed, eq_of_mem_ways shown sameYear sameWeekYear member]
  unfold Parts.date
  refine bind_eq_ok_iff.2 ⟨year, years, bind_eq_ok_iff.2 ⟨weekYear, weekYears, ?_⟩⟩
  rw [pointed]
  exact if_pos (agrees_iff.2 shown)

/-- Parts that a date shows make that date, if its year is known in full, a year of weeks is not met
by its last digits alone, and a month with a day of it, a day of the year, or a week with a day of
it was met. -/
theorem date_of_shownBy (shown : parts.ShownBy date)
    (known : parts.year.isSome = true ∨
      parts.century.isSome = true ∧ parts.yearOfCentury.isSome = true)
    (weekYearKnown : parts.weekYear.isSome = true ∨ parts.weekYearOfCentury = none)
    (enough : parts.month.isSome = true ∧ parts.day.isSome = true ∨
      parts.dayOfYear.isSome = true ∨
      (parts.sundayWeek.isSome = true ∨ parts.mondayWeek.isSome = true) ∧
        parts.weekday.isSome = true) : parts.date = .ok date := by
  have years := resolveYear_of_known shown.year shown.digits known
  have weekYears : resolveYear parts.weekYear none parts.weekYearOfCentury =
      .ok parts.weekYear := by
    rcases weekYearKnown with whole | bare
    · have resolved := resolveYear_of_known shown.weekYear shown.weekYearDigits (Or.inl whole)
      obtain ⟨n, met⟩ := Option.isSome_iff_exists.1 whole
      rw [resolved, met, shown.weekYear n met]
    · rw [bare]
      cases parts.weekYear <;> rfl
  refine date_of_ways shown years (fun n => Option.some.inj) weekYears shown.weekYear ?_
  simp only [Option.isSome_iff_exists] at enough
  rcases enough with ⟨⟨m, month⟩, d, day⟩ | ⟨d, day⟩ | ⟨⟨w, week⟩ | ⟨w, week⟩, d, day⟩
  · exact ⟨Date.ofParts? date.year m d, by simp [ways, month, day]⟩
  · exact ⟨Date.ofDayOfYear? date.year d, by simp [ways, day]⟩
  · exact ⟨Date.ofWeekFrom? 6 date.year w d, by simp [ways, week, day]⟩
  · exact ⟨Date.ofWeekFrom? 0 date.year w d, by simp [ways, week, day]⟩

end Parts

/-! ## Meeting parts -/

/-- A reader whose first step gives something goes on with that. -/
theorem bind_of_eq_some {α β : Type} {first : Option α} {a : α} {next : α → Option β}
    {result : Option β} (given : first = some a) (more : next a = result) :
    first >>= next = result := by
  rw [given]
  exact more

theorem Date.parts_in_range (date : Date) :
    (1 ≤ date.month ∧ date.month ≤ 12) ∧ 1 ≤ date.day ∧ date.day ≤ 31 := by
  obtain ⟨-, isMonth, positive, isDay⟩ := date.exists_day
  have short : daysInMonth date.year date.month ≤ 31 := by
    unfold daysInMonth
    split <;> split <;> decide
  exact ⟨isMonth, positive, Nat.le_trans isDay short⟩

namespace Parts

variable {parts : Parts}

theorem keepWithin?_of_fresh {least greatest n : Nat} {met : Option Nat}
    (within : least ≤ n ∧ n ≤ greatest) (fresh : met = none) :
    keepWithin? least greatest met n = some (some n) := by
  unfold keepWithin?
  rw [if_pos within, fresh]
  rfl

theorem withYear?_of_fresh {year : Int} (fresh : parts.year = none) :
    parts.withYear? year = some { parts with year := some year } := by
  unfold withYear?
  rw [fresh]
  rfl

theorem withMonth?_of_fresh {month : Nat} (isMonth : 1 ≤ month ∧ month ≤ 12)
    (fresh : parts.month = none) :
    parts.withMonth? month = some { parts with month := some month } := by
  unfold withMonth?
  rw [keepWithin?_of_fresh isMonth fresh]
  rfl

theorem withDay?_of_fresh {day : Nat} (isDay : 1 ≤ day ∧ day ≤ 31) (fresh : parts.day = none) :
    parts.withDay? day = some { parts with day := some day } := by
  unfold withDay?
  rw [keepWithin?_of_fresh isDay fresh]
  rfl

theorem withDayOfYear?_of_fresh {day : Nat} (isDay : 1 ≤ day ∧ day ≤ 366)
    (fresh : parts.dayOfYear = none) :
    parts.withDayOfYear? day = some { parts with dayOfYear := some day } := by
  unfold withDayOfYear?
  rw [keepWithin?_of_fresh isDay fresh]
  rfl

theorem withHour?_of_fresh {hour : Nat} (isHour : hour ≤ 23) (fresh : parts.half = none)
    (fresh' : parts.hourOfHalf = none) :
    parts.withHour? hour =
      some { parts with half := some (hour / 12), hourOfHalf := some (hour % 12) } := by
  unfold withHour? guard
  rw [if_pos isHour, fresh, fresh']
  rfl

theorem withMinute?_of_fresh {minute : Nat} (isMinute : minute ≤ 59)
    (fresh : parts.minute = none) :
    parts.withMinute? minute = some { parts with minute := some minute } := by
  unfold withMinute?
  rw [keepWithin?_of_fresh ⟨Nat.zero_le _, isMinute⟩ fresh]
  rfl

theorem withSecond?_of_fresh {second : Nat} (isSecond : second ≤ 60)
    (fresh : parts.second = none) :
    parts.withSecond? second = some { parts with second := some second } := by
  unfold withSecond?
  rw [keepWithin?_of_fresh ⟨Nat.zero_le _, isSecond⟩ fresh]
  rfl

theorem withUnixSeconds?_of_fresh {seconds : Nat} (short : seconds ≤ Nat.pow 2 63 - 1)
    (fresh : parts.unixSeconds = none) :
    parts.withUnixSeconds? seconds = some { parts with unixSeconds := some seconds } := by
  unfold withUnixSeconds?
  rw [keepWithin?_of_fresh ⟨Nat.zero_le _, short⟩ fresh]
  rfl

theorem withNano?_of_fresh {nano : Nat} (isNano : nano ≤ 999999999) (fresh : parts.nano = none) :
    parts.withNano? nano = some { parts with nano := some nano } := by
  unfold withNano?
  rw [keepWithin?_of_fresh ⟨Nat.zero_le _, isNano⟩ fresh]
  rfl

/-- The parts that a date shows. -/
def ofDate (date : Date) : Parts :=
  { year := some date.year, month := some date.month, day := some date.day }

/-- The parts that a date and time shows. A fraction of a second is shown unless it is zero. -/
def ofMoment (moment : DateTime) : Parts :=
  let second := moment.time.second.val
  let nano := moment.time.nano.val
  { ofDate moment.date with
    half := some (second / 3600 / 12)
    hourOfHalf := some (second / 3600 % 12)
    minute := some (second / 60 % 60)
    second := some (second % 60 + nano / 1000000000)
    nano := if nano % 1000000000 = 0 then none else some (nano % 1000000000) }

theorem shownBy_ofDate (date : Date) : (ofDate date).ShownBy date :=
  agrees_iff.1 (by simp [agrees, hasDigits, ofDate])

theorem date_ofDate (date : Date) : (ofDate date).date = .ok date :=
  date_of_shownBy (shownBy_ofDate date) (Or.inl rfl) (Or.inr rfl) (Or.inl ⟨rfl, rfl⟩)

end Parts

/-- A time on the clock is the one with its hour, minute, second and fraction. -/
theorem Time.ofParts?_parts {time : Time} (onClock : time.IsOnClock) :
    ofParts? (time.second.val / 3600) (time.second.val / 60 % 60)
      (time.second.val % 60 + time.nano.val / 1000000000) (time.nano.val % 1000000000) =
      some time := by
  obtain ⟨⟨second, secondBound⟩, ⟨nano, nanoBound⟩⟩ := time
  have ranges : second / 3600 ≤ 23 ∧ second / 60 % 60 ≤ 59 ∧
      second % 60 + nano / 1000000000 ≤ 60 ∧ nano % 1000000000 ≤ 999999999 := by omega
  have onClock : nano < 1000000000 ∨ second % 60 = 59 := onClock
  unfold ofParts?
  rw [dif_pos ranges]
  dsimp only
  split
  · rename_i leap
    simp only [Option.some.injEq, mk.injEq, Fin.mk.injEq]
    omega
  · rename_i plain
    rw [dif_pos (by omega)]
    simp only [Option.some.injEq, mk.injEq, Fin.mk.injEq]
    omega

namespace Parts

variable {parts : Parts} {moment : DateTime}

/-- Parts that a time on the clock shows make that time, if all of them were met, or all but a
fraction of zero. -/
theorem time?_of_shown {time : Time} (onClock : time.IsOnClock)
    (half : parts.half = some (time.second.val / 3600 / 12))
    (hour : parts.hourOfHalf = some (time.second.val / 3600 % 12))
    (minute : parts.minute = some (time.second.val / 60 % 60))
    (second : parts.second = some (time.second.val % 60 + time.nano.val / 1000000000))
    (nano : parts.nano.getD 0 = time.nano.val % 1000000000) : parts.time? = some time := by
  unfold time?
  rw [half, hour, minute, second]
  change Time.ofParts? (time.second.val / 3600 / 12 * 12 + time.second.val / 3600 % 12) _ _
    (parts.nano.getD 0) = _
  rw [Nat.div_add_mod', nano]
  exact Time.ofParts?_parts onClock

theorem dateTime?_ofMoment (onClock : moment.time.IsOnClock) :
    (ofMoment moment).dateTime? = some moment := by
  have date : (ofMoment moment).date = .ok moment.date := date_ofDate moment.date
  have fraction : (ofMoment moment).nano.getD 0 = moment.time.nano.val % 1000000000 := by
    unfold ofMoment
    dsimp only
    split
    · rename_i zero
      exact zero.symm
    · rfl
  have time : (ofMoment moment).time? = some moment.time :=
    time?_of_shown onClock rfl rfl rfl rfl fraction
  unfold dateTime?
  rw [date, time]
  rfl

end Parts

/-! ## Seconds since 1970 -/

theorem DateTime.unixSeconds_lt (moment : DateTime) :
    moment.unixSeconds < 9223372036854775808 := by
  have inRange := moment.date.exists_day.1
  have short := moment.date.dayOfYear_le_daysInYear
  have second := moment.time.second.isLt
  have epoch : Date.epoch.number = 719162 := by decide
  have year := daysInYear_eq_or moment.date.year
  unfold unixSeconds
  rw [epoch]
  unfold Date.number daysBeforeYear
  omega

namespace Parts

/-- The parts that the seconds since the beginning of 1970 supply to a moment. -/
def ofSeconds (moment : DateTime) (seconds : Nat) : Parts :=
  let second := moment.time.second.val
  { year := some moment.date.year
    dayOfYear := some moment.date.dayOfYear
    half := some (second / 3600 / 12)
    hourOfHalf := some (second / 3600 % 12)
    minute := some (second / 60 % 60)
    second := some (second % 60)
    unixSeconds := some seconds }

variable {moment : DateTime} (whole : moment.time.nano = 0) {seconds : Nat}
  (counted : moment.unixSeconds = seconds)

include whole counted

theorem withMoment?_seconds :
    withMoment? { unixSeconds := some seconds } seconds = some (ofSeconds moment seconds) := by
  have second := moment.time.second.isLt
  have positive := moment.date.dayOfYear_pos
  have within := moment.date.dayOfYear_le_daysInYear
  have year := daysInYear_eq_or moment.date.year
  have noLeap : ¬ (none : Option Nat) = some 60 := nofun
  unfold withMoment?
  rw [← counted]
  refine bind_of_eq_some (DateTime.ofUnixSeconds?_unixSeconds whole) ?_
  simp only [noLeap, false_and, if_false]
  refine bind_of_eq_some rfl (bind_of_eq_some (withSecond?_of_fresh (by omega) rfl) ?_)
  refine bind_of_eq_some (withYear?_of_fresh rfl) ?_
  refine bind_of_eq_some (withDayOfYear?_of_fresh ⟨positive, by omega⟩ rfl) ?_
  refine bind_of_eq_some (withHour?_of_fresh (by omega) rfl rfl) ?_
  exact withMinute?_of_fresh (by omega) rfl

/-- A moment at a whole second is made from its seconds since the beginning of 1970 alone. -/
theorem dateTime?_seconds : dateTime? { unixSeconds := some seconds } = some moment := by
  have date : (ofSeconds moment seconds).date = .ok moment.date := by
    refine date_of_shownBy ?_ (Or.inl rfl) (Or.inr rfl) (Or.inr (Or.inl rfl))
    exact agrees_iff.1 (by simp [agrees, hasDigits, ofSeconds])
  have onClock : moment.time.IsOnClock := Or.inl (by rw [whole]; decide)
  have second : moment.time.second.val % 60 =
      moment.time.second.val % 60 + moment.time.nano.val / 1000000000 := by
    rw [whole]
    rfl
  have nano : (ofSeconds moment seconds).nano.getD 0 = moment.time.nano.val % 1000000000 := by
    rw [whole]
    rfl
  have time : (ofSeconds moment seconds).time? = some moment.time :=
    time?_of_shown onClock rfl rfl rfl (congrArg some second) nano
  have lacking : Parts.date { unixSeconds := some seconds } = .error .lacking := rfl
  unfold dateTime?
  rw [lacking]
  refine bind_of_eq_some rfl (bind_of_eq_some (withMoment?_seconds whole counted) ?_)
  exact bind_of_eq_some (congrArg Except.toOption date) (bind_of_eq_some time rfl)

end Parts

end TextQuery
