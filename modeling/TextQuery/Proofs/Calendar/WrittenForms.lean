import TextQuery.Calendar.Instant
import TextQuery.Calendar.Written
import TextQuery.Proofs.Calendar.AgreeingParts
import TextQuery.Proofs.Calendar.LeapSeconds
import TextQuery.Proofs.Number.Numerals
import TextQuery.Proofs.Text.BareTexts

/-!
The written forms of dates, times and instants read back. Reading goes part by part, so for each
part it is enough that its digits are read up to the mark behind them: numbers of a fixed width end
by themselves (`Pattern.number?_fixed`), and signed years and fractions of a second end where no
digit comes next (`Pattern.year?_yearText`, `PatternItem.read?_fractionText`). A date and a time
then show their own parts (`Pattern.readAll?_dateText`, `Pattern.readAll?_timeText`), and these make
the same date and time again; so does the number of seconds since 1970
(`Pattern.readDateTime?_seconds`). The characters of the written forms are bare ones
(`Timestamp.isBare_text`).
-/

namespace TextQuery

open Numeral (Denotes)

/-! ## Where digits end -/

/-- No digit comes first in the text, so digits in front of it end where it begins. -/
def Text.EndsDigits (text : Text) : Prop :=
  ∀ c, text.head? = some c → c.isDigit = false

theorem Text.EndsDigits.take {text : Text} (ends : text.EndsDigits) (count : Nat) :
    Text.EndsDigits (text.take count) := by
  intro c first
  rw [List.head?_take] at first
  split at first
  · cases first
  · exact ends c first

theorem Text.EndsDigits.takeWhile {text : Text} (ends : text.EndsDigits) :
    text.takeWhile Char.isDigit = [] := by
  cases text with
  | nil => rfl
  | cons c rest => rw [List.takeWhile_cons, ends c rfl, if_neg Bool.false_ne_true]

namespace Numeral.Denotes

variable {digits rest : Text} {n : Nat} (denotes : Denotes digits n)

include denotes

theorem takeWhile_append (ends : rest.EndsDigits) :
    (digits ++ rest).takeWhile Char.isDigit = digits := by
  rw [List.takeWhile_append_of_pos fun c => denotes.isDigit_of_mem, ends.takeWhile,
    List.append_nil]

theorem trimStart_append : Text.trimStart (digits ++ rest) = digits ++ rest := by
  obtain ⟨c, more, rfl, isDigit⟩ := denotes.exists_cons
  unfold Text.trimStart
  have visible := Text.isWhiteSpace_of_bare (Text.mem_bareCharacters_of_isDigit isDigit)
  rw [List.cons_append, List.dropWhile_cons, visible,
    if_neg Bool.false_ne_true]

/-- Digits are read up to where they end, or up to the greatest width. -/
theorem digits?_append {width : Nat} (fits : digits.length ≤ width)
    (ends : digits.length = width ∨ rest.EndsDigits) :
    Pattern.digits? width (digits ++ rest) = some (n, rest) := by
  have taken : ((digits ++ rest).take width).takeWhile Char.isDigit = digits := by
    rw [List.take_append, List.take_of_length_le fits]
    refine denotes.takeWhile_append ?_
    rcases ends with full | ends
    · rw [full, Nat.sub_self]
      exact nofun
    · exact ends.take _
  obtain ⟨nonempty, -, value⟩ := denotes_iff.1 denotes
  unfold Pattern.digits?
  dsimp only
  rw [taken, if_neg nonempty, value, List.drop_left]

theorem number?_append {width : Nat} (fits : digits.length ≤ width)
    (ends : digits.length = width ∨ rest.EndsDigits) :
    Pattern.number? width (digits ++ rest) = some (n, rest) := by
  unfold Pattern.number?
  rw [denotes.trimStart_append]
  exact denotes.digits?_append fits ends

end Numeral.Denotes

/-! ## Numbers -/

namespace Pattern

variable {rest : Text}

/-- A number of a fixed width is read, whatever follows. -/
theorem number?_fixed {width n : Nat} (positive : 0 < width) (small : n < Nat.pow 10 width) :
    number? width (Numeral.fixed width n ++ rest) = some (n, rest) := by
  have length := Numeral.length_fixed positive small
  exact (Numeral.denotes_fixed width n).number?_append (Nat.le_of_eq length) (Or.inl length)

/-- Four digits are a year, whatever follows. -/
theorem year?_append {digits : Text} {n : Nat} (denotes : Denotes digits n)
    (full : digits.length = 4) : year? (digits ++ rest) = some ((n : Int), rest) := by
  have read : digits? 4 (digits ++ rest) = some (n, rest) :=
    denotes.digits?_append (Nat.le_of_eq full) (Or.inl full)
  have trimmed : Text.trimStart (digits ++ rest) = digits ++ rest := denotes.trimStart_append
  obtain ⟨c, more, rfl, isDigit⟩ := denotes.exists_cons
  unfold year?
  rw [trimmed]
  split
  · rename_i sign
    cases List.head_eq_of_cons_eq sign
    exact absurd isDigit (by decide)
  · rename_i sign
    cases List.head_eq_of_cons_eq sign
    exact absurd isDigit (by decide)
  · rw [read]
    rfl

theorem year?_minus {text : Text} {n : Nat} (read : digits? text.length text = some (n, rest)) :
    year? ('-' :: text) = some (-(n : Int), rest) := by
  change (digits? text.length text).map _ = _
  rw [read]
  rfl

theorem year?_plus {text : Text} {n : Nat} (read : digits? text.length text = some (n, rest)) :
    year? ('+' :: text) = some ((n : Int), rest) := by
  change (digits? text.length text).map _ = _
  rw [read]
  rfl

/-- The text of a year is read up to where its digits end. -/
theorem year?_yearText (year : Int) (ends : rest.EndsDigits) :
    year? (yearText year ++ rest) = some (year, rest) := by
  unfold yearText
  split
  · rename_i unsigned
    have full : (Numeral.fixed 4 year.toNat).length = 4 :=
      Numeral.length_fixed (by decide) (show year.toNat < 10000 by omega)
    rw [year?_append (Numeral.denotes_fixed 4 year.toNat) full, Int.toNat_of_nonneg unsigned.1]
  · have read : digits? (Numeral.fixed 4 year.natAbs ++ rest).length
        (Numeral.fixed 4 year.natAbs ++ rest) = some (year.natAbs, rest) := by
      refine (Numeral.denotes_fixed 4 year.natAbs).digits?_append ?_ (Or.inr ends)
      rw [List.length_append]
      exact Nat.le_add_right _ _
    split
    · rename_i negative
      rw [List.cons_append, year?_minus read,
        Int.ofNat_natAbs_of_nonpos (Int.le_of_lt negative), Int.neg_neg]
    · rename_i positive
      rw [List.cons_append, year?_plus read, Int.natAbs_of_nonneg (Int.not_lt.1 positive)]

/-- Up to nine digits count nanoseconds, as if zeros filled them up to nine. -/
theorem nano?_append {digits : Text} {n : Nat} (denotes : Denotes digits n)
    (short : digits.length ≤ 9) (ends : rest.EndsDigits) :
    nano? (digits ++ rest) = some (n * Nat.pow 10 (9 - digits.length), rest) := by
  obtain ⟨nonempty, -, value⟩ := Numeral.denotes_iff.1 denotes
  unfold nano?
  dsimp only
  rw [denotes.takeWhile_append ends, if_neg nonempty, List.take_of_length_le short, value,
    List.drop_left]

theorem exactDigits?_fixed {count n : Nat} (positive : 0 < count) (small : n < Nat.pow 10 count)
    (rest : Text) : exactDigits? count (Numeral.fixed count n ++ rest) = some (n, rest) := by
  obtain ⟨-, digits, value⟩ := Numeral.denotes_iff.1 (Numeral.denotes_fixed count n)
  have full := Numeral.length_fixed positive small
  unfold exactDigits?
  dsimp only
  rw [List.take_left' full, List.drop_left' full, value]
  exact if_pos ⟨full, digits⟩

theorem afterMark?_mark : afterMark? ('T' :: rest) = some rest :=
  rfl

end Pattern

/-! ## Items of patterns -/

namespace PatternItem

variable {parts parts' : Parts} {rest : Text}

theorem read?_fixed (part : NumberPart) {n : Nat} (narrow : part.width = 2) (small : n < 100)
    (met : part.meet? parts n = some parts') :
    (number part).read? parts (Numeral.fixed 2 n ++ rest) = some (parts', rest) := by
  have read : Pattern.number? part.width (Numeral.fixed 2 n ++ rest) = some (n, rest) := by
    rw [narrow]
    exact Pattern.number?_fixed (by decide) small
  simp only [read?, read, met, Option.bind_eq_bind, Option.bind_some, Option.pure_def]

theorem read?_literal (c : Char) : (literal c).read? parts (c :: rest) = some (parts, rest) :=
  if_pos rfl

theorem read?_yearText (year : Int) (ends : rest.EndsDigits) (fresh : parts.year = none) :
    PatternItem.year.read? parts (yearText year ++ rest) =
      some ({ parts with year := some year }, rest) := by
  simp only [read?, Pattern.year?_yearText year ends, Parts.withYear?_of_fresh fresh,
    Option.bind_eq_bind, Option.bind_some, Option.pure_def]

theorem read?_of_noPoint (noPoint : rest.head? ≠ some '.') :
    fraction.read? parts rest = some (parts, rest) := by
  simp only [read?]
  split
  · exact absurd rfl noPoint
  · rfl

/-- A fraction is read to its end, and none where there is no point. -/
theorem read?_fractionText {nano : Nat} (small : nano < 1000000000) (fresh : parts.nano = none)
    (ends : rest.EndsDigits) (noPoint : rest.head? ≠ some '.') :
    fraction.read? parts (fractionText nano ++ rest) =
      some ({ parts with nano := if nano = 0 then none else some nano }, rest) := by
  have pointed : ∀ (width n : Nat), 0 < width → width ≤ 9 → n < Nat.pow 10 width →
      n * Nat.pow 10 (9 - width) = nano →
      fraction.read? parts ('.' :: Numeral.fixed width n ++ rest) =
        some ({ parts with nano := some nano }, rest) := by
    intro width n positive short fits same
    have full := Numeral.length_fixed positive fits
    have read := Pattern.nano?_append (Numeral.denotes_fixed width n)
      (Nat.le_trans (Nat.le_of_eq full) short) ends
    rw [full, same] at read
    change (Pattern.nano? (Numeral.fixed width n ++ rest) >>= fun read =>
      parts.withNano? read.1 >>= fun parts => some (parts, read.2)) = _
    rw [read]
    change (parts.withNano? nano >>= fun parts => some (parts, rest)) = _
    rw [Parts.withNano?_of_fresh (by omega) fresh]
    rfl
  unfold fractionText
  split
  · rw [List.nil_append, read?_of_noPoint noPoint, ← fresh]
  · split
    · exact pointed 3 (nano / 1000000) (by decide) (by decide)
        (show nano / 1000000 < 1000 by omega) (show nano / 1000000 * 1000000 = nano by omega)
    · split
      · exact pointed 6 (nano / 1000) (by decide) (by decide)
          (show nano / 1000 < 1000000 by omega) (show nano / 1000 * 1000 = nano by omega)
      · exact pointed 9 nano (by decide) (by decide) small (Nat.mul_one nano)

end PatternItem

namespace Pattern

variable {items : Pattern} {rest : Text}

theorem readAll?_cons {item : PatternItem} {parts parts' : Parts} {text : Text}
    (read : item.read? parts text = some (parts', rest)) :
    readAll? (item :: items) parts text = readAll? items parts' rest := by
  rw [readAll?, read]
  rfl

/-- The items of a time with a fraction of a second. -/
def timeItems : Pattern :=
  clockItems ++ [.fraction]

/-- The text of a date shows its parts. -/
theorem readAll?_dateText (date : Date) :
    readAll? (dateItems ++ items) {} (date.text ++ rest) = readAll? items (.ofDate date) rest := by
  obtain ⟨isMonth, isDay⟩ := date.parts_in_range
  unfold Date.text
  simp only [List.append_assoc, List.singleton_append]
  refine (readAll?_cons (PatternItem.read?_yearText _ ?_ rfl)).trans ?_
  · rintro c ⟨⟩
    rfl
  refine (readAll?_cons (PatternItem.read?_literal '-')).trans ?_
  refine (readAll?_cons (PatternItem.read?_fixed .month rfl (by omega)
    (Parts.withMonth?_of_fresh isMonth rfl))).trans ?_
  refine (readAll?_cons (PatternItem.read?_literal '-')).trans ?_
  exact readAll?_cons (PatternItem.read?_fixed .day rfl (by omega)
    (Parts.withDay?_of_fresh isDay rfl))

/-- Behind the text of its date, the text of a time shows the parts of the time. -/
theorem readAll?_timeText (moment : DateTime) (ends : rest.EndsDigits)
    (noPoint : rest.head? ≠ some '.') :
    readAll? (timeItems ++ items) (.ofDate moment.date) (moment.time.text ++ rest) =
      readAll? items (.ofMoment moment) rest := by
  have second := moment.time.second.isLt
  have nano := moment.time.nano.isLt
  unfold Time.text
  simp only [List.append_assoc, List.singleton_append]
  refine (readAll?_cons (PatternItem.read?_fixed .hour rfl (by omega)
    (Parts.withHour?_of_fresh (by omega) rfl rfl))).trans ?_
  refine (readAll?_cons (PatternItem.read?_literal ':')).trans ?_
  refine (readAll?_cons (PatternItem.read?_fixed .minute rfl (by omega)
    (Parts.withMinute?_of_fresh (by omega) rfl))).trans ?_
  refine (readAll?_cons (PatternItem.read?_literal ':')).trans ?_
  refine (readAll?_cons (PatternItem.read?_fixed .second rfl (by omega)
    (Parts.withSecond?_of_fresh (by omega) rfl))).trans ?_
  exact readAll?_cons (PatternItem.read?_fractionText (by omega) rfl ends noPoint)

end Pattern

/-! ## Whole texts -/

namespace Pattern

theorem readDate?_text (date : Date) : readDate? dateItems date.text = some date := by
  have shown : readAll? (dateItems ++ []) {} (date.text ++ []) = some (.ofDate date) :=
    readAll?_dateText date
  rw [List.append_nil, List.append_nil] at shown
  unfold readDate? read?
  rw [shown]
  exact congrArg Except.toOption (Parts.date_ofDate date)

theorem readDateTime?_text {moment : DateTime} (onClock : moment.time.IsOnClock) :
    readDateTime? (dateItems ++ .literal 'T' :: timeItems) moment.text = some moment := by
  have shown : readAll? (timeItems ++ []) (.ofDate moment.date) (moment.time.text ++ []) =
      some (.ofMoment moment) := readAll?_timeText moment nofun nofun
  rw [List.append_nil, List.append_nil] at shown
  unfold readDateTime? read? DateTime.text
  rw [List.append_assoc, readAll?_dateText, List.singleton_append,
    readAll?_cons (PatternItem.read?_literal 'T'), shown]
  exact Parts.dateTime?_ofMoment onClock

/-- A moment at a whole second from the beginning of 1970 on is read from the number of seconds
since then. -/
theorem readDateTime?_seconds {moment : DateTime} (whole : moment.time.nano = 0) {seconds : Nat}
    (counted : moment.unixSeconds = seconds) :
    readDateTime? [.unixSeconds] (Numeral.ofNat seconds) = some moment := by
  have short : seconds ≤ Nat.pow 2 63 - 1 := by
    have below := moment.unixSeconds_lt
    have limit : Nat.pow 2 63 = 9223372036854775808 := by decide
    omega
  have number : number? (Numeral.ofNat seconds).length (Numeral.ofNat seconds ++ []) =
      some (seconds, []) :=
    (Numeral.denotes_ofNat seconds).number?_append (Nat.le_refl _) (Or.inl rfl)
  rw [List.append_nil] at number
  have item : PatternItem.unixSeconds.read? {} (Numeral.ofNat seconds) =
      some ({ unixSeconds := some seconds }, []) :=
    bind_of_eq_some number (bind_of_eq_some (Parts.withUnixSeconds?_of_fresh short rfl) rfl)
  have shown : readAll? [.unixSeconds] {} (Numeral.ofNat seconds) =
      some { unixSeconds := some seconds } := readAll?_cons item
  unfold readDateTime? read?
  rw [shown, Option.bind_some, Parts.dateTime?_seconds whole counted]

end Pattern

namespace Timestamp

variable {rest : Text}

theorem afterChar?_self (c : Char) : afterChar? c (c :: rest) = some rest :=
  if_pos rfl

theorem ofLocal?_zero (moment : DateTime) : ofLocal? moment 0 = some ⟨moment⟩ := by
  have second := moment.time.second.isLt
  have same : (((moment.time.second.val : Int) - 0) % 86400).toNat = moment.time.second.val := by
    omega
  unfold ofLocal? DateTime.earlier?
  simp only [same]
  rw [if_neg (by omega), if_neg (by omega)]
  rfl

/-- The text of an instant of a year with four digits is read as this instant. -/
theorem read?_text {date : Date} {time : Time} (onClock : time.IsOnClock)
    (era : 0 ≤ date.year ∧ date.year ≤ 9999) :
    read? (text ⟨⟨date, time⟩⟩) = some ⟨⟨date, time⟩⟩ := by
  obtain ⟨isMonth, isDay⟩ := date.parts_in_range
  have second := time.second.isLt
  have nano := time.nano.isLt
  have isHour : time.second.val / 3600 ≤ 23 := by omega
  have isMinute : time.second.val / 60 % 60 ≤ 59 := by omega
  have isSecond : time.second.val % 60 + time.nano.val / 1000000000 ≤ 60 := by omega
  have year : Parts.withYear? {} (date.year.toNat : Int) = some { year := some date.year } := by
    rw [Int.toNat_of_nonneg era.1]
    exact Parts.withYear?_of_fresh rfl
  have fraction : PatternItem.fraction.read? { Parts.ofMoment ⟨date, time⟩ with nano := none }
      (fractionText (time.nano.val % 1000000000) ++ "+00:00".toList) =
        some (Parts.ofMoment ⟨date, time⟩, "+00:00".toList) :=
    PatternItem.read?_fractionText (by omega) rfl (by rintro c ⟨⟩; rfl) nofun
  have offset : offset? "+00:00".toList = some (0, []) := by decide
  have shown : (Parts.ofMoment ⟨date, time⟩).dateTime? = some ⟨date, time⟩ :=
    Parts.dateTime?_ofMoment onClock
  have twoDigits : ∀ n ≤ 60, ∀ rest,
      Pattern.exactDigits? 2 (Numeral.fixed 2 n ++ rest) = some (n, rest) :=
    fun n small => Pattern.exactDigits?_fixed (by decide) (show n < 100 by omega)
  unfold text DateTime.text Date.text Time.text yearText
  dsimp only
  rw [if_pos era]
  simp only [List.append_assoc, List.cons_append, List.nil_append]
  unfold read?
  -- the marks between the parts are passed, and each part meets its number
  refine bind_of_eq_some
    (Pattern.exactDigits?_fixed (by decide) (show date.year.toNat < 10000 by omega) _) ?_
  refine bind_of_eq_some year ?_
  refine bind_of_eq_some (afterChar?_self '-') (bind_of_eq_some (twoDigits _ (by omega) _) ?_)
  refine bind_of_eq_some (Parts.withMonth?_of_fresh isMonth rfl) ?_
  refine bind_of_eq_some (afterChar?_self '-') (bind_of_eq_some (twoDigits _ (by omega) _) ?_)
  refine bind_of_eq_some (Parts.withDay?_of_fresh isDay rfl) ?_
  refine bind_of_eq_some Pattern.afterMark?_mark (bind_of_eq_some (twoDigits _ (by omega) _) ?_)
  refine bind_of_eq_some (Parts.withHour?_of_fresh isHour rfl rfl) ?_
  refine bind_of_eq_some (afterChar?_self ':') (bind_of_eq_some (twoDigits _ (by omega) _) ?_)
  refine bind_of_eq_some (Parts.withMinute?_of_fresh isMinute rfl) ?_
  refine bind_of_eq_some (afterChar?_self ':') (bind_of_eq_some (twoDigits _ isSecond _) ?_)
  refine bind_of_eq_some (Parts.withSecond?_of_fresh isSecond rfl) ?_
  refine bind_of_eq_some fraction (bind_of_eq_some offset ?_)
  refine bind_of_eq_some rfl (bind_of_eq_some shown ?_)
  exact ofLocal?_zero _

end Timestamp

/-! ## Bare characters only -/

theorem Numeral.Denotes.isBare {digits : Text} {n : Nat} (denotes : Denotes digits n) :
    digits.IsBare :=
  fun _ member => Text.mem_bareCharacters_of_isDigit (denotes.isDigit_of_mem member)

theorem Numeral.isBare_ofInt (n : Int) : Text.IsBare (ofInt n) := by
  unfold ofInt
  split
  · exact Text.isBare_cons.2 ⟨by decide, (denotes_ofNat _).isBare⟩
  · exact (denotes_ofNat _).isBare

theorem isBare_yearText (year : Int) : (yearText year).IsBare := by
  unfold yearText
  split
  · exact (Numeral.denotes_fixed _ _).isBare
  · refine Text.isBare_cons.2 ⟨?_, (Numeral.denotes_fixed _ _).isBare⟩
    split <;> decide

theorem isBare_fractionText (nano : Nat) : (fractionText nano).IsBare := by
  have pointed : ∀ width n, Text.IsBare ('.' :: Numeral.fixed width n) :=
    fun width n => Text.isBare_cons.2 ⟨by decide, (Numeral.denotes_fixed width n).isBare⟩
  unfold fractionText
  split
  · exact nofun
  · split
    · exact pointed _ _
    · split <;> exact pointed _ _

theorem Date.isBare_text (date : Date) : date.text.IsBare := by
  have hyphen : Text.IsBare ['-'] := by decide
  have fixed := fun width n => (Numeral.denotes_fixed width n).isBare
  unfold text
  simp only [Text.isBare_append]
  exact ⟨⟨⟨⟨isBare_yearText _, hyphen⟩, fixed _ _⟩, hyphen⟩, fixed _ _⟩

theorem DateTime.isBare_text (moment : DateTime) : moment.text.IsBare := by
  have mark : Text.IsBare ['T'] := by decide
  have colon : Text.IsBare [':'] := by decide
  have fixed := fun width n => (Numeral.denotes_fixed width n).isBare
  unfold text Time.text
  simp only [Text.isBare_append]
  exact ⟨⟨moment.date.isBare_text, mark⟩,
    ⟨⟨⟨⟨fixed _ _, colon⟩, fixed _ _⟩, colon⟩, fixed _ _⟩, isBare_fractionText _⟩

theorem Timestamp.isBare_text (instant : Timestamp) : instant.text.IsBare := by
  have offset : Text.IsBare "+00:00".toList := by decide
  exact Text.isBare_append.2 ⟨instant.utc.isBare_text, offset⟩

end TextQuery
