import TextQuery.Number.BinaryFormat

/-!
Floating-point numbers of 64 bits, by sign and magnitude code. Two numbers are equal, or one is
less, as the numbers they stand for are: the two zeros are equal, and a NaN is unordered to
everything, itself included.
-/

namespace TextQuery

/-- A floating-point number of 64 bits. The code of a magnitude runs from zero to infinity. -/
inductive Double where
  | nan
  | number (negative : Bool) (code : Fin (BinaryFormat.binary64.infinityCode + 1))
deriving DecidableEq, Repr

namespace Double

/-- The number with the given sign whose magnitude is nearest to a quotient. -/
def ofRatio (negative : Bool) (numerator denominator : Nat) : Double :=
  number negative ⟨BinaryFormat.binary64.round numerator denominator,
    Nat.lt_succ_of_le (BinaryFormat.round_le_infinityCode _ _ _)⟩

/-- Positive zero. -/
def zero : Double :=
  number false 0

/-- Infinity with the given sign. -/
def infinity (negative : Bool) : Double :=
  number negative ⟨BinaryFormat.binary64.infinityCode, Nat.lt_succ_self _⟩

/-- Whether the number is a NaN. -/
def isNaN : Double → Bool
  | nan => true
  | number _ _ => false

/-- The position of a number that is not a NaN among all numbers; the two zeros share theirs. -/
def rank? : Double → Option Int
  | nan => none
  | number negative code => some (if negative then -(code.val : Int) else code.val)

/-- The order of two numbers, none if one is a NaN. -/
def compare? (left right : Double) : Option Ordering := do
  return compare (← left.rank?) (← right.rank?)

/-- Equality of numbers: a NaN is equal to nothing. -/
def equal (left right : Double) : Bool :=
  left.compare? right == some .eq

end Double

end TextQuery
