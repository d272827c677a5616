import TextQuery.Number.Numeral

/-!
Integer types of a declared width, and integer literals. A literal has an optional sign, where a
minus is for the signed types only, then one or more decimal digits; `IntegerType.read?` refuses a
number outside the type's range.
-/

namespace TextQuery

/-- The integer types a field can be declared with. -/
inductive IntegerType where
  | i8 | i16 | i32 | i64 | isize
  | u8 | u16 | u32 | u64 | usize
deriving DecidableEq, Repr

namespace IntegerType

/-- The name of the type in messages and renderings. -/
def name : IntegerType → Text
  | i8 => "i8".toList
  | i16 => "i16".toList
  | i32 => "i32".toList
  | i64 => "i64".toList
  | isize => "isize".toList
  | u8 => "u8".toList
  | u16 => "u16".toList
  | u32 => "u32".toList
  | u64 => "u64".toList
  | usize => "usize".toList

/-- Whether the type has negative numbers. -/
def isSigned : IntegerType → Bool
  | i8 | i16 | i32 | i64 | isize => true
  | u8 | u16 | u32 | u64 | usize => false

/-- The width of the type in bits; the machine-sized types have 64. -/
def bits : IntegerType → Nat
  | i8 | u8 => 8
  | i16 | u16 => 16
  | i32 | u32 => 32
  | i64 | u64 | isize | usize => 64

/-- The least number of the type. -/
def low (type : IntegerType) : Int :=
  if type.isSigned then -Int.pow 2 (type.bits - 1) else 0

/-- The greatest number of the type. -/
def high (type : IntegerType) : Int :=
  if type.isSigned then Int.pow 2 (type.bits - 1) - 1 else Int.pow 2 type.bits - 1

/-- Whether numbers of the type are held unsigned: their range reaches past the signed one. -/
def isWide : IntegerType → Bool
  | u64 | usize => true
  | _ => false

/-- The integer that `text` stands for, of any size; a minus sign only where `signed` allows it. -/
def readAny? (signed : Bool) : Text → Option Int
  | '+' :: digits => (Numeral.read? digits).map Int.ofNat
  | '-' :: digits => if signed then (Numeral.read? digits).map fun n => -(n : Int) else none
  | digits => (Numeral.read? digits).map Int.ofNat

/-- The number of the type that `text` stands for. -/
def read? (type : IntegerType) (text : Text) : Option Int :=
  (readAny? type.isSigned text).filter fun n => type.low ≤ n && n ≤ type.high

end IntegerType

end TextQuery
