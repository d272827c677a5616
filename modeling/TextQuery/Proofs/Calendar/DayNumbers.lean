import TextQuery.Calendar.DayCount

/-!
Dates found again from what counts them. Months follow one another in a year (`daysOfMonths_mono`),
and years follow one another (`daysBeforeYear_succ`), so the month or year with a given day is found
first. Main statements: a date is found from its day of the year (`Date.ofDayOfYear?_dayOfYear`),
from its number (`Date.ofNumber?_number`), and from its week and day of the week in either kind of
year (`Date.ofWeekFrom?_weekFrom`, `Date.ofWeek?_week`); and the next day has the next number
(`Date.number_of_next?`).
-/

namespace TextQuery

/-! ## Months and years -/

theorem daysOfMonths_mono (year : Int) {months more : Nat} (fewer : months ≤ more) :
    daysOfMonths year months ≤ daysOfMonths year more := by
  induction fewer with
  | refl => exact Nat.le_refl _
  | step fewer ih => exact Nat.le_trans ih (Nat.le_add_right _ _)

/-- The number of days of a year. -/
def daysInYear (year : Int) : Nat :=
  if isLeapYear year then 366 else 365

theorem daysOfMonths_twelve (year : Int) : daysOfMonths year 12 = daysInYear year := by
  unfold daysInYear
  cases leap : isLeapYear year <;> simp [daysOfMonths, daysInMonth, leap]

theorem daysBeforeYear_succ (year : Int) :
    daysBeforeYear (year + 1) = daysBeforeYear year + daysInYear year := by
  unfold daysBeforeYear daysInYear
  cases leap : isLeapYear year with
  | true =>
    unfold isLeapYear at leap
    simp only [Bool.and_eq_true, Bool.or_eq_true, decide_eq_true_eq] at leap
    rw [if_pos rfl]
    omega
  | false =>
    unfold isLeapYear at leap
    simp only [Bool.and_eq_false_iff, Bool.or_eq_false_iff, decide_eq_false_iff_not,
      Decidable.not_not] at leap
    rw [if_neg Bool.false_ne_true]
    omega

theorem daysInYear_eq_or (year : Int) : daysInYear year = 365 ∨ daysInYear year = 366 := by
  unfold daysInYear
  split
  · exact Or.inr rfl
  · exact Or.inl rfl

namespace Date

variable {date : Date}

theorem dayOfYear_pos (date : Date) : 1 ≤ date.dayOfYear :=
  Nat.le_trans date.exists_day.2.2.1 (Nat.le_add_left _ _)

theorem daysOfMonths_month (date : Date) :
    daysOfMonths date.year date.month =
      daysOfMonths date.year (date.month - 1) + daysInMonth date.year date.month := by
  obtain ⟨earlier, month⟩ := Nat.exists_eq_add_of_le' date.exists_day.2.1.1
  rw [month]
  rfl

theorem dayOfYear_le_daysOfMonths (date : Date) :
    date.dayOfYear ≤ daysOfMonths date.year date.month := by
  rw [daysOfMonths_month]
  exact Nat.add_le_add_left date.exists_day.2.2.2 _

theorem dayOfYear_le_daysInYear (date : Date) : date.dayOfYear ≤ daysInYear date.year := by
  rw [← daysOfMonths_twelve]
  exact Nat.le_trans date.dayOfYear_le_daysOfMonths
    (daysOfMonths_mono date.year date.exists_day.2.1.2)

theorem ofParts?_self (date : Date) : ofParts? date.year date.month date.day = some date :=
  dif_pos date.exists_day

theorem eq_of_ofParts? {year : Int} {month day : Nat}
    (made : ofParts? year month day = some date) :
    date.year = year ∧ date.month = month ∧ date.day = day := by
  unfold ofParts? at made
  split at made
  · cases made
    exact ⟨rfl, rfl, rfl⟩
  · cases made

/-- A date is found from its year and the number of its day in it. -/
theorem ofDayOfYear?_dayOfYear (date : Date) :
    ofDayOfYear? date.year date.dayOfYear = some date := by
  obtain ⟨-, ⟨positive, isMonth⟩, isDay, -⟩ := date.exists_day
  have month : (List.range' 1 12).find?
      (fun month => date.dayOfYear ≤ daysOfMonths date.year month) = some date.month := by
    refine List.find?_range'_eq_some.2 ⟨?_, List.mem_range'_1.2 (by omega), ?_⟩
    · exact decide_eq_true date.dayOfYear_le_daysOfMonths
    · intro earlier _ before
      have ended := daysOfMonths_mono date.year (Nat.le_sub_one_of_lt before)
      have passed : daysOfMonths date.year earlier < date.dayOfYear :=
        Nat.lt_of_le_of_lt ended (Nat.lt_add_of_pos_right isDay)
      rw [decide_eq_false (Nat.not_le_of_lt passed)]
      rfl
  have day : date.dayOfYear - daysOfMonths date.year (date.month - 1) = date.day :=
    Nat.add_sub_cancel_left _ _
  unfold ofDayOfYear?
  rw [month, Option.bind_eq_bind, Option.bind_some, day]
  exact date.ofParts?_self

/-- The day of a year with a number has this number, and no other day of the year has it. -/
theorem ofDayOfYear?_eq_some_iff {year : Int} {day : Nat} :
    ofDayOfYear? year day = some date ↔ date.year = year ∧ date.dayOfYear = day := by
  refine ⟨?_, ?_⟩
  · intro found
    unfold ofDayOfYear? at found
    obtain ⟨month, -, made⟩ := Option.bind_eq_some_iff.1 found
    obtain ⟨rfl, rfl, within⟩ := eq_of_ofParts? made
    have positive := date.exists_day.2.2.1
    exact ⟨rfl, by unfold dayOfYear; omega⟩
  · rintro ⟨rfl, rfl⟩
    exact date.ofDayOfYear?_dayOfYear

end Date

/-! ## Numbers of days -/

/-- The year with a day is the one that begins no later and ends after it. -/
theorem yearOfDay_eq {year number : Int} (begun : daysBeforeYear year ≤ number)
    (unended : number < daysBeforeYear (year + 1)) : yearOfDay number = year := by
  have near : year - 1 ≤ 400 * number / 146097 + 1 ∧ 400 * number / 146097 + 1 ≤ year + 1 := by
    unfold daysBeforeYear at begun unended
    omega
  have before := daysBeforeYear_succ (year - 1)
  have within := daysBeforeYear_succ year
  rw [Int.sub_add_cancel] at before
  unfold yearOfDay
  dsimp only
  generalize 400 * number / 146097 + 1 = guess at near ⊢
  obtain rfl | rfl | rfl : guess = year - 1 ∨ guess = year ∨ guess = year + 1 := by omega
  · rw [if_neg (by omega), Int.sub_add_cancel, if_pos begun]
  · rw [if_neg (Int.not_lt.2 begun), if_neg (Int.not_le.2 unended)]
  · rw [if_pos unended, Int.add_sub_cancel]

namespace Date

variable {date : Date}

/-- The number of a date is in the range of its year. -/
theorem number_bounds (date : Date) :
    daysBeforeYear date.year ≤ date.number ∧ date.number < daysBeforeYear (date.year + 1) := by
  have positive := date.dayOfYear_pos
  have within := date.dayOfYear_le_daysInYear
  rw [daysBeforeYear_succ]
  unfold number
  omega

/-- A date is found from its number. -/
theorem ofNumber?_number (date : Date) : ofNumber? date.number = some date := by
  have year : yearOfDay date.number = date.year :=
    yearOfDay_eq date.number_bounds.1 date.number_bounds.2
  have day : (date.number - daysBeforeYear date.year + 1).toNat = date.dayOfYear := by
    unfold number
    omega
  unfold ofNumber?
  dsimp only
  rw [year, day]
  exact date.ofDayOfYear?_dayOfYear

/-- The next day has the next number. -/
theorem number_of_next? {later : Date} (next : date.next? = some later) :
    later.number = date.number + 1 := by
  obtain ⟨-, ⟨positive, isMonth⟩, -, isDay⟩ := date.exists_day
  have month := date.daysOfMonths_month
  unfold next? at next
  unfold number dayOfYear
  split at next
  · obtain ⟨sameYear, sameMonth, day⟩ := eq_of_ofParts? next
    rw [sameYear, sameMonth, day]
    omega
  · rename_i last
    split at next
    · obtain ⟨sameYear, nextMonth, day⟩ := eq_of_ofParts? next
      rw [sameYear, nextMonth, day, Nat.add_sub_cancel, month]
      omega
    · obtain ⟨nextYear, january, day⟩ := eq_of_ofParts? next
      have december : date.month = 12 := by omega
      have newYear : daysOfMonths (date.year + 1) (1 - 1) = 0 := rfl
      have year := daysBeforeYear_succ date.year
      rw [december] at month isDay last
      rw [← daysOfMonths_twelve, month] at year
      rw [nextYear, january, day, newYear, year, december]
      omega

/-! ## Weeks -/

/-- A date is found from its year, its week and its day of the week, whatever day weeks begin on. -/
theorem ofWeekFrom?_weekFrom {start : Nat} (isWeekday : start < 7) (date : Date) :
    ofWeekFrom? start date.year (date.weekFrom start) date.weekday = some date := by
  have positive := date.dayOfYear_pos
  have day : 1 + (weekdaysBetween (daysBeforeYear date.year % 7).toNat start : Int) +
      ((date.weekFrom start : Int) - 1) * 7 + weekdaysBetween start date.weekday =
        date.dayOfYear := by
    unfold weekFrom weekday number weekdaysBetween
    omega
  unfold ofWeekFrom?
  dsimp only
  rw [day, if_pos (by omega), Int.toNat_natCast]
  exact date.ofDayOfYear?_dayOfYear

/-- A year of weeks begins on a Monday, at most three days before or after the year. -/
theorem weekYearStart_bounds (year : Int) :
    weekYearStart year % 7 = 0 ∧ daysBeforeYear year - 3 ≤ weekYearStart year ∧
      weekYearStart year ≤ daysBeforeYear year + 3 := by
  unfold weekYearStart
  dsimp only
  omega

/-- A date is in the range of the year of weeks that it belongs to. -/
theorem weekYear_bounds (date : Date) :
    weekYearStart date.weekYear ≤ date.number ∧
      date.number < weekYearStart (date.weekYear + 1) := by
  obtain ⟨begun, unended⟩ := date.number_bounds
  have before := daysBeforeYear_succ (date.year - 1)
  have after := daysBeforeYear_succ (date.year + 1)
  have beforeDays := daysInYear_eq_or (date.year - 1)
  have afterDays := daysInYear_eq_or (date.year + 1)
  rw [Int.sub_add_cancel] at before
  unfold weekYear
  split
  · rename_i early
    have start := weekYearStart_bounds (date.year - 1)
    rw [Int.sub_add_cancel]
    exact ⟨by omega, early⟩
  · rename_i begun
    split
    · rename_i late
      have nextStart := weekYearStart_bounds (date.year + 1 + 1)
      exact ⟨late, by omega⟩
    · rename_i unended
      exact ⟨Int.not_lt.1 begun, Int.not_le.1 unended⟩

/-- A date is found from its year of weeks, its week in it and its day of the week. -/
theorem ofWeek?_week (date : Date) :
    ofWeek? date.weekYear date.week date.weekday = some date := by
  obtain ⟨begun, unended⟩ := date.weekYear_bounds
  have monday := (weekYearStart_bounds date.weekYear).1
  have number : weekYearStart date.weekYear + ((date.week : Int) - 1) * 7 + date.weekday =
      date.number := by
    unfold week weekday
    omega
  have positive : 1 ≤ date.week := by
    unfold week
    omega
  unfold ofWeek?
  dsimp only
  rw [number, if_pos ⟨positive, unended⟩]
  exact date.ofNumber?_number

/-- The first day of 1970 was a Thursday in the first week. -/
example : epoch.weekday = 3 ∧ epoch.week = 1 := by decide

end Date

/-- A moment at a whole second is found from the seconds since the beginning of 1970. -/
theorem DateTime.ofUnixSeconds?_unixSeconds {moment : DateTime} (whole : moment.time.nano = 0) :
    ofUnixSeconds? moment.unixSeconds = some moment := by
  have second := moment.time.second.isLt
  have day : moment.unixSeconds / 86400 + Date.epoch.number = moment.date.number := by
    unfold unixSeconds
    omega
  have rest : (moment.unixSeconds % 86400).toNat = moment.time.second.val := by
    unfold unixSeconds
    omega
  have nano : Time.midnight.nano = moment.time.nano := whole.symm
  unfold ofUnixSeconds?
  rw [day, Date.ofNumber?_number]
  simp only [rest, Option.map_some, nano]

end TextQuery
