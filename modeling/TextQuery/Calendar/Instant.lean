import TextQuery.Calendar.Pattern

/-!
Instants in the Internet date and time format (RFC 3339): a date and a time in digits of fixed
width, an optional fraction of a second, and the offset from UTC. The instant is held in UTC.
-/

namespace TextQuery.Timestamp

open Pattern (exactDigits? afterMark?)

/-- What follows the character `c`. -/
def afterChar? (c : Char) : Text → Option Text
  | d :: rest => if c = d then some rest else none
  | [] => none

/-- The offset from UTC: a letter `Z` in either case, or a sign, hours, a colon and minutes, less
than a day in all. -/
def offset? (text : Text) : Option (Int × Text) :=
  match text with
  | 'Z' :: rest => some (0, rest)
  | 'z' :: rest => some (0, rest)
  | _ => (Pattern.signedOffset? (afterChar? ':') false text).filter fun (seconds, _) =>
      seconds.natAbs ≤ (23 * 60 + 59) * 60

/-- Reads a whole text as an instant. -/
def read? (text : Text) : Option Timestamp := do
  let (year, rest) ← exactDigits? 4 text
  let parts ← Parts.withYear? {} year
  let (month, rest) ← exactDigits? 2 (← afterChar? '-' rest)
  let parts ← parts.withMonth? month
  let (day, rest) ← exactDigits? 2 (← afterChar? '-' rest)
  let parts ← parts.withDay? day
  let (hour, rest) ← exactDigits? 2 (← afterMark? rest)
  let parts ← parts.withHour? hour
  let (minute, rest) ← exactDigits? 2 (← afterChar? ':' rest)
  let parts ← parts.withMinute? minute
  let (second, rest) ← exactDigits? 2 (← afterChar? ':' rest)
  let parts ← parts.withSecond? second
  let (parts, rest) ← PatternItem.fraction.read? parts rest
  let (offset, rest) ← offset? rest
  guard (rest = [])
  ofLocal? (← parts.dateTime?) offset

end TextQuery.Timestamp
