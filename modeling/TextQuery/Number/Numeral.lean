import TextQuery.Text.Basic

/-!
Decimal numerals: how numbers are written with the digits `0` to `9`, and how digits are read.
-/

namespace TextQuery.Numeral

/-- The decimal digits of `n`, without leading zeros. -/
def ofNat (n : Nat) : Text :=
  Nat.toDigits 10 n

/-- The decimal digits of `n` behind a minus sign if it is negative. -/
def ofInt (n : Int) : Text :=
  if n < 0 then '-' :: ofNat n.natAbs else ofNat n.natAbs

/-- The text filled up on its left side with zeros to `width` characters. -/
def padLeft (width : Nat) (digits : Text) : Text :=
  List.replicate (width - digits.length) '0' ++ digits

/-- The decimal digits of `n`, with leading zeros up to `width` digits. -/
def fixed (width n : Nat) : Text :=
  padLeft width (ofNat n)

/-- The number that a run of decimal digits stands for. -/
def value (digits : Text) : Nat :=
  Nat.ofDigitChars 10 digits 0

/-- The number that `text` stands for, if it is one or more decimal digits and nothing else. -/
def read? (text : Text) : Option Nat :=
  if text ≠ [] ∧ text.all Char.isDigit then some (value text) else none

end TextQuery.Numeral
