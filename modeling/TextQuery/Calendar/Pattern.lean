import TextQuery.Calendar.Parts
import TextQuery.Number.Numeral

/-!
Patterns that say how a date or time is written. A pattern is a text in which `%` and a specifier
stand for a part; white space stands for any amount of it, none included, and every other character
for itself. A specifier is a letter, or one of a few longer ones, and a letter for a number may have
a flag that says how the number is filled up when it is written. `Pattern.readDate?` and
`Pattern.readDateTime?` read a whole text by a pattern.
-/

namespace TextQuery

/-- The numbers of a date and time that are written in a limited number of digits. -/
inductive NumberPart where
  | century
  | yearOfCentury
  | quarter
  | month
  | day
  | dayOfYear
  | sundayWeek
  | mondayWeek
  | weekYearOfCentury
  | week
  | weekdayFromSunday
  | weekdayFromMonday
  | hour
  | hour12
  | minute
  | second
  /-- Nanoseconds, as a whole number. -/
  | nano
deriving DecidableEq, Repr

namespace NumberPart

/-- The greatest number of digits that are read. -/
def width : NumberPart → Nat
  | quarter | weekdayFromSunday | weekdayFromMonday => 1
  | dayOfYear => 3
  | nano => 9
  | _ => 2

/-- What the number is met as. -/
def meet? : NumberPart → Parts → Nat → Option Parts
  | century => Parts.withCentury?
  | yearOfCentury => Parts.withYearOfCentury?
  | quarter => Parts.withQuarter?
  | month => Parts.withMonth?
  | day => Parts.withDay?
  | dayOfYear => Parts.withDayOfYear?
  | sundayWeek => Parts.withSundayWeek?
  | mondayWeek => Parts.withMondayWeek?
  | weekYearOfCentury => Parts.withWeekYearOfCentury?
  | week => Parts.withWeek?
  | weekdayFromSunday => Parts.withWeekdayFromSunday?
  | weekdayFromMonday => Parts.withWeekdayFromMonday?
  | hour => Parts.withHour?
  | hour12 => Parts.withHour12?
  | minute => Parts.withMinute?
  | second => Parts.withSecond?
  | nano => Parts.withNano?

end NumberPart

/-- How an offset from UTC may be written, other than by a sign, hours and minutes. -/
inductive OffsetForm where
  /-- In no other way. -/
  | plain
  /-- By the letter `Z`, or at the end of a text without the minutes. -/
  | lenient
  /-- By the letter `Z` or as `UTC`. -/
  | named
deriving DecidableEq, Repr

/-- One item of a pattern. -/
inductive PatternItem where
  /-- Any amount of white space. -/
  | space
  /-- The character itself. -/
  | literal (c : Char)
  | number (part : NumberPart)
  | year
  /-- A year of weeks. -/
  | weekYear
  /-- Seconds since the beginning of 1970. -/
  | unixSeconds
  /-- The first three letters of a month. -/
  | shortMonthName
  /-- The name of a month, or its first three letters. -/
  | monthName
  /-- The first three letters of a day of the week. -/
  | shortWeekdayName
  /-- The name of a day of the week, or its first three letters. -/
  | weekdayName
  /-- The half of the day, `am` or `pm`. -/
  | half
  /-- Nothing, or a point and the digits of a fraction of a second. -/
  | fraction
  /-- Nothing, or a point and this many digits of a fraction of a second. -/
  | pointedDigits (count : Nat)
  /-- This many digits of a fraction of a second. -/
  | fractionDigits (count : Nat)
  /-- The offset from UTC in hours and minutes. -/
  | offset (form : OffsetForm)
  /-- The name of a time zone: anything without white space in it, which is not looked at. -/
  | zoneName
  /-- The mark between date and time: a letter `T` in either case, or a space. -/
  | mark
  /-- There is no such specifier, so no text matches. -/
  | unknown
deriving DecidableEq, Repr

/-- Whether the item is a number, so that it may have a flag in a pattern. -/
def PatternItem.isNumber : PatternItem → Bool
  | number _ | year | weekYear | unixSeconds => true
  | _ => false

/-- A pattern: its items in order. -/
abbrev Pattern := List PatternItem

namespace Pattern

/-! ## Specifiers -/

/-- A date with its parts from the greatest down. -/
def dateItems : Pattern :=
  [.year, .literal '-', .number .month, .literal '-', .number .day]

/-- A date in numbers, as it is written in the United States. -/
def slashedDate : Pattern :=
  [.number .month, .literal '/', .number .day, .literal '/', .number .yearOfCentury]

/-- A time of day in hours, minutes and seconds. -/
def clockItems : Pattern :=
  [.number .hour, .literal ':', .number .minute, .literal ':', .number .second]

/-- A time on a clock of twelve hours. -/
def clock12Items : Pattern :=
  [.number .hour12, .literal ':', .number .minute, .literal ':', .number .second, .space, .half]

/-- A date and time in words and numbers. -/
def localMoment : Pattern :=
  [.shortWeekdayName, .space, .shortMonthName, .space, .number .day, .space] ++ clockItems ++
    [.space, .year]

/-- A date, a time and the offset from UTC, with white space in front of the marks within them. -/
def internetMoment : Pattern :=
  [ .year, .space, .literal '-', .number .month, .space, .literal '-', .number .day, .mark,
    .number .hour, .space, .literal ':', .number .minute, .space, .literal ':', .number .second,
    .fraction, .space, .offset .named ]

/-- The items that `%` and a letter stand for. -/
def directive : Char → Pattern
  | 'Y' => [.year]
  | 'C' => [.number .century]
  | 'y' => [.number .yearOfCentury]
  | 'q' => [.number .quarter]
  | 'm' => [.number .month]
  | 'b' => [.shortMonthName]
  | 'B' => [.monthName]
  | 'h' => [.shortMonthName]
  | 'd' => [.number .day]
  | 'e' => [.number .day]
  | 'a' => [.shortWeekdayName]
  | 'A' => [.weekdayName]
  | 'w' => [.number .weekdayFromSunday]
  | 'u' => [.number .weekdayFromMonday]
  | 'U' => [.number .sundayWeek]
  | 'W' => [.number .mondayWeek]
  | 'G' => [.weekYear]
  | 'g' => [.number .weekYearOfCentury]
  | 'V' => [.number .week]
  | 'j' => [.number .dayOfYear]
  | 'D' => slashedDate
  | 'x' => slashedDate
  | 'F' => dateItems
  | 'v' => [.number .day, .literal '-', .shortMonthName, .literal '-', .year]
  | 'H' => [.number .hour]
  | 'k' => [.number .hour]
  | 'I' => [.number .hour12]
  | 'l' => [.number .hour12]
  | 'P' => [.half]
  | 'p' => [.half]
  | 'M' => [.number .minute]
  | 'S' => [.number .second]
  | 'f' => [.number .nano]
  | 'R' => [.number .hour, .literal ':', .number .minute]
  | 'T' => clockItems
  | 'X' => clockItems
  | 'r' => clock12Items
  | 'Z' => [.zoneName]
  | 'z' => [.offset .plain]
  | 'c' => localMoment
  | '+' => internetMoment
  | 's' => [.unixSeconds]
  | 't' => [.space]
  | 'n' => [.space]
  | '%' => [.literal '%']
  | _ => [.unknown]

/-- The items that `%`, a flag and a letter stand for. A single number may have a flag, which does
not matter when it is read. -/
def flaggedDirective (c : Char) : Pattern :=
  match directive c with
  | [item] => if item.isNumber then [item] else [.unknown]
  | _ => [.unknown]

/-- The pattern that a text describes. -/
def ofText : Text → Pattern
  | [] => []
  | '%' :: '.' :: 'f' :: rest => .fraction :: ofText rest
  | '%' :: '.' :: '3' :: 'f' :: rest => .pointedDigits 3 :: ofText rest
  | '%' :: '.' :: '6' :: 'f' :: rest => .pointedDigits 6 :: ofText rest
  | '%' :: '.' :: '9' :: 'f' :: rest => .pointedDigits 9 :: ofText rest
  | '%' :: '3' :: 'f' :: rest => .fractionDigits 3 :: ofText rest
  | '%' :: '6' :: 'f' :: rest => .fractionDigits 6 :: ofText rest
  | '%' :: '9' :: 'f' :: rest => .fractionDigits 9 :: ofText rest
  | '%' :: ':' :: 'z' :: rest => .offset .plain :: ofText rest
  | '%' :: ':' :: ':' :: 'z' :: rest => .offset .plain :: ofText rest
  | '%' :: ':' :: ':' :: ':' :: 'z' :: rest => .offset .plain :: ofText rest
  | '%' :: '#' :: 'z' :: rest => .offset .lenient :: ofText rest
  | '%' :: '-' :: c :: rest => flaggedDirective c ++ ofText rest
  | '%' :: '_' :: c :: rest => flaggedDirective c ++ ofText rest
  | '%' :: '0' :: c :: rest => flaggedDirective c ++ ofText rest
  | '%' :: c :: rest => directive c ++ ofText rest
  | ['%'] => [.unknown]
  | c :: rest => (if Text.isWhiteSpace c then .space else .literal c) :: ofText rest

/-! ## Reading one item -/

/-- A number of one to `width` digits, and what follows it. -/
def digits? (width : Nat) (text : Text) : Option (Nat × Text) :=
  let digits := (text.take width).takeWhile Char.isDigit
  if digits = [] then none else some (Numeral.value digits, text.drop digits.length)

/-- A number of one to `width` digits after any white space, and what follows it. -/
def number? (width : Nat) (text : Text) : Option (Nat × Text) :=
  digits? width text.trimStart

/-- A year after any white space: up to four digits, or a sign and any number of them. -/
def year? (text : Text) : Option (Int × Text) :=
  match text.trimStart with
  | '-' :: rest => (digits? rest.length rest).map fun (n, rest) => (-(n : Int), rest)
  | '+' :: rest => (digits? rest.length rest).map fun (n, rest) => ((n : Int), rest)
  | text => (digits? 4 text).map fun (n, rest) => ((n : Int), rest)

/-- The months in order. -/
def monthNames : List Text :=
  [ "january".toList, "february".toList, "march".toList, "april".toList, "may".toList,
    "june".toList, "july".toList, "august".toList, "september".toList, "october".toList,
    "november".toList, "december".toList ]

/-- What follows `lead` in `text`, where the case of ASCII letters does not matter. -/
def afterIgnoringCase? (lead text : Text) : Option Text :=
  if Text.eqIgnoreAsciiCase lead (text.take lead.length) then some (text.drop lead.length)
  else none

/-- The days of the week in order. -/
def weekdayNames : List Text :=
  [ "monday".toList, "tuesday".toList, "wednesday".toList, "thursday".toList, "friday".toList,
    "saturday".toList, "sunday".toList ]

/-- The position of the name whose first three letters begin the text, and what follows them. -/
def shortName? (names : List Text) (text : Text) : Option (Nat × Text) :=
  names.zipIdx.findSome? fun (name, index) =>
    (afterIgnoringCase? (name.take 3) text).map (index, ·)

/-- The position of the name that begins the text, in full or by its first three letters. -/
def name? (names : List Text) (text : Text) : Option (Nat × Text) := do
  let (index, rest) ← shortName? names text
  let ending := ((names[index]?).getD []).drop 3
  return (index, (afterIgnoringCase? ending rest).getD rest)

/-- The half of the day that begins the text. -/
def half? (text : Text) : Option (Nat × Text) :=
  match afterIgnoringCase? "am".toList text with
  | some rest => some (0, rest)
  | none => (afterIgnoringCase? "pm".toList text).map (1, ·)

/-- Nanoseconds written as digits after a point: the first nine count. -/
def nano? (text : Text) : Option (Nat × Text) :=
  let digits := text.takeWhile Char.isDigit
  if digits = [] then none
  else
    let kept := digits.take 9
    some (Numeral.value kept * Nat.pow 10 (9 - kept.length), text.drop digits.length)

/-- Exactly `count` digits and what follows them. -/
def exactDigits? (count : Nat) (text : Text) : Option (Nat × Text) :=
  let digits := text.take count
  if digits.length = count ∧ digits.all Char.isDigit then
    some (Numeral.value digits, text.drop count)
  else
    none

/-- Nanoseconds written as the first `count` of nine digits. -/
def nanoDigits? (count : Nat) (text : Text) : Option (Nat × Text) :=
  (exactDigits? count text).map fun (n, rest) => (n * Nat.pow 10 (9 - count), rest)

/-- What follows the mark between date and time: a letter `T` in either case, or a space. -/
def afterMark? : Text → Option Text
  | c :: rest => if c = 'T' || c = 't' || c = ' ' then some rest else none
  | [] => none

/-- A sign, which may also be the minus sign U+2212; `true` for a negative one. -/
def sign? (text : Text) : Option (Bool × Text) :=
  match text with
  | '+' :: rest => some (false, rest)
  | '-' :: rest => some (true, rest)
  | '\u2212' :: rest => some (true, rest)
  | _ => none

/-- The minutes of an offset, at most 59; at the end of a text they may be missing if `bare` holds.
-/
def offsetMinutes? (bare : Bool) (text : Text) : Option (Nat × Text) :=
  if bare ∧ text = [] then some (0, [])
  else (exactDigits? 2 text).filter fun (minutes, _) => minutes ≤ 59

/-- Seconds ahead of UTC, written as a sign, two digits of hours and two of minutes; `between` says
what may stand between hours and minutes, and `bare` whether minutes may be missing. -/
def signedOffset? (between : Text → Option Text) (bare : Bool) (text : Text) :
    Option (Int × Text) := do
  let (negative, rest) ← sign? text
  let (hours, rest) ← exactDigits? 2 rest
  let (minutes, rest) ← offsetMinutes? bare (← between rest)
  let seconds : Int := hours * 3600 + minutes * 60
  return (if negative then -seconds else seconds, rest)

/-- Drops colons and white space. -/
def skipColons (text : Text) : Text :=
  text.dropWhile fun c => c = ':' || Text.isWhiteSpace c

/-- A name of UTC at the front of a text means no offset. -/
def namedOffset? (name text : Text) : Option (Int × Text) :=
  (afterIgnoringCase? name text).map (0, ·)

/-- An offset from UTC after any white space. -/
def offset? (form : OffsetForm) (text : Text) : Option (Int × Text) :=
  let text := text.trimStart
  match form with
  | .plain => signedOffset? (some ∘ skipColons) false text
  | .lenient => (namedOffset? "z".toList text).or (signedOffset? (some ∘ skipColons) true text)
  | .named => ((namedOffset? "utc".toList text).or (namedOffset? "z".toList text)).or
      (signedOffset? (some ∘ skipColons) false text)

end Pattern

/-- Reads one item at the front of a text: the parts met so far and the rest of the text. -/
def PatternItem.read? (item : PatternItem) (parts : Parts) (text : Text) :
    Option (Parts × Text) :=
  match item with
  | space => some (parts, text.trimStart)
  | literal c =>
    match text with
    | d :: rest => if c = d then some (parts, rest) else none
    | [] => none
  | number part => do
    let (n, rest) ← Pattern.number? part.width text
    return (← part.meet? parts n, rest)
  | year => do
    let (n, rest) ← Pattern.year? text
    return (← parts.withYear? n, rest)
  | weekYear => do
    let (n, rest) ← Pattern.year? text
    return (← parts.withWeekYear? n, rest)
  | unixSeconds => do
    let (n, rest) ← Pattern.number? text.length text
    return (← parts.withUnixSeconds? n, rest)
  | shortMonthName => do
    let (index, rest) ← Pattern.shortName? Pattern.monthNames text
    return (← parts.withMonth? (index + 1), rest)
  | monthName => do
    let (index, rest) ← Pattern.name? Pattern.monthNames text
    return (← parts.withMonth? (index + 1), rest)
  | shortWeekdayName => do
    let (index, rest) ← Pattern.shortName? Pattern.weekdayNames text
    return (← parts.withWeekday? index, rest)
  | weekdayName => do
    let (index, rest) ← Pattern.name? Pattern.weekdayNames text
    return (← parts.withWeekday? index, rest)
  | half => do
    let (n, rest) ← Pattern.half? text
    return (← parts.withHalf? n, rest)
  | fraction =>
    match text with
    | '.' :: digits => do
      let (n, rest) ← Pattern.nano? digits
      return (← parts.withNano? n, rest)
    | _ => some (parts, text)
  | pointedDigits count =>
    match text with
    | '.' :: digits => do
      let (n, rest) ← Pattern.nanoDigits? count digits
      return (← parts.withNano? n, rest)
    | _ => some (parts, text)
  | fractionDigits count => do
    let (n, rest) ← Pattern.nanoDigits? count text
    return (← parts.withNano? n, rest)
  | offset form => do
    let (n, rest) ← Pattern.offset? form text
    return (← parts.withOffset? n, rest)
  | zoneName => some (parts, text.dropWhile (!Text.isWhiteSpace ·))
  | mark => (Pattern.afterMark? text).map (parts, ·)
  | unknown => none

namespace Pattern

/-- Reads the items in order, to the end of the text. -/
def readAll? : Pattern → Parts → Text → Option Parts
  | [], parts, [] => some parts
  | [], _, _ :: _ => none
  | item :: items, parts, text => do
    let (parts, rest) ← item.read? parts text
    readAll? items parts rest

/-- The parts that a text shows under a pattern. -/
def read? (pattern : Pattern) (text : Text) : Option Parts :=
  pattern.readAll? {} text

/-- Reads a whole text as a date. -/
def readDate? (pattern : Pattern) (text : Text) : Option Date :=
  (pattern.read? text).bind Parts.date?

/-- Reads a whole text as a date and time. -/
def readDateTime? (pattern : Pattern) (text : Text) : Option DateTime :=
  (pattern.read? text).bind Parts.dateTime?

end Pattern

end TextQuery
