import TextQuery.Guid
import TextQuery.Calendar.Written
import TextQuery.Number.Shortest
import TextQuery.Text.Quoted

/-!
Values of fields and literals. Integers of every width are held as signed ones, those of the two
widest unsigned types as unsigned ones, and floats with 64 bits. A value has a text, by which it is
searched, and values are compared: of one kind as their contents are, of different kinds by kind.
-/

namespace TextQuery

/-- The value of a field, or a literal read for a field. -/
inductive Value where
  | bool (b : Bool)
  | char (c : Char)
  | signed (n : Int)
  | unsigned (n : Nat)
  | float (x : Double)
  | string (content : Text)
  | date (day : Date)
  | dateTime (moment : DateTime)
  | timestamp (instant : Timestamp)
  | guid (id : Guid)
  /-- A member of an enumeration, by its position and name. -/
  | member (ordinal : Nat) (name : Text)
deriving DecidableEq, Repr

namespace Value

/-- The text of a value, by which it is searched. -/
def text : Value → Text
  | bool b => if b then "true".toList else "false".toList
  | char c => [c]
  | signed n => Numeral.ofInt n
  | unsigned n => Numeral.ofNat n
  | float x => x.text
  | string content => content
  | date day => day.text
  | dateTime moment => moment.text
  | timestamp instant => instant.text
  | guid id => id.text
  | member _ name => name

/-- The text of a value in renderings: strings and characters are quoted. -/
def display : Value → Text
  | string content => Text.quote content
  | char c => Text.quoteChar c
  | value => value.text

/-- The position of the value's kind among the kinds. -/
def kind : Value → Nat
  | bool _ => 0
  | char _ => 1
  | signed _ => 2
  | unsigned _ => 3
  | float _ => 4
  | string _ => 5
  | date _ => 6
  | dateTime _ => 7
  | timestamp _ => 8
  | guid _ => 9
  | member _ _ => 10

/-- The order of two values; none if one of two floats is a NaN. -/
def compare? : Value → Value → Option Ordering
  | bool a, bool b => some (compare a b)
  | char a, char b => some (compare a b)
  | signed a, signed b => some (compare a b)
  | unsigned a, unsigned b => some (compare a b)
  | float a, float b => a.compare? b
  | string a, string b => some (compare a b)
  | date a, date b => some (compare a b)
  | dateTime a, dateTime b => some (compare a b)
  | timestamp a, timestamp b => some (compare a b)
  | guid a, guid b => some (compare a b)
  | member i a, member j b => some ((compare i j).then (compare a b))
  | left, right => some (compare left.kind right.kind)

/-- Equality of values: floats are equal as numbers, and values of different kinds never are. -/
def equal : Value → Value → Bool
  | float a, float b => a.equal b
  | left, right => left = right

/-- Whether the value is a NaN. -/
def isNaN : Value → Bool
  | float x => x.isNaN
  | _ => false

end Value

end TextQuery
