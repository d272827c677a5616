/-!
Binary floating-point formats and rounding to them. A magnitude (a number without its sign) is held
by its *code*: the exponent field and the fraction bits read as one natural number. Codes count
the magnitudes of a format in increasing order from zero, and the code after the last finite one is
infinity, so magnitudes compare as their codes do. `BinaryFormat.round` takes a quotient of
natural numbers to the code of the nearest magnitude, a tie to the even code.
-/

namespace TextQuery

/-- A binary floating-point format: the number of fraction bits, the exponent of the least positive
magnitude, and the number of values of the exponent field. -/
structure BinaryFormat where
  fractionBits : Nat
  leastExponent : Int
  exponentValues : Nat
deriving DecidableEq, Repr

namespace BinaryFormat

/-- The format of 64 bits. -/
def binary64 : BinaryFormat :=
  ⟨52, -1074, 2048⟩

/-- The format of 32 bits. -/
def binary32 : BinaryFormat :=
  ⟨23, -149, 256⟩

/-- The code of infinity: the greatest exponent field over a zero fraction. -/
def infinityCode (format : BinaryFormat) : Nat :=
  (format.exponentValues - 1) * Nat.pow 2 format.fractionBits

/-- The finite magnitude with the given code, as `m` and `e` with the value `m * 2 ^ e`. -/
def decode (format : BinaryFormat) (code : Nat) : Nat × Int :=
  let unit := Nat.pow 2 format.fractionBits
  if code < unit then
    (code, format.leastExponent)
  else
    (unit + code % unit, format.leastExponent + (code / unit - 1 : Nat))

/-- The quotient of `numerator` by `denominator`, times `2 ^ exponent`, as a quotient. -/
def scale (numerator denominator : Nat) (exponent : Int) : Nat × Nat :=
  (numerator * Nat.pow 2 exponent.toNat, denominator * Nat.pow 2 (-exponent).toNat)

/-- The natural number nearest to a quotient, a tie to the even one. -/
def nearestEven (numerator denominator : Nat) : Nat :=
  let below := numerator / denominator
  let twice := 2 * (numerator % denominator)
  if twice < denominator then below
  else if twice > denominator then below + 1
  else below + below % 2

/-- The greatest `e` with `2 ^ e` not above the quotient of two positive numbers. -/
def floorLog2 (numerator denominator : Nat) : Int :=
  let guess : Int := (numerator.log2 : Int) - denominator.log2
  let (n, d) := scale numerator denominator (-guess)
  if n < d then guess - 1 else guess

/-- The code of the magnitude nearest to the quotient of `numerator` by `denominator`. -/
def round (format : BinaryFormat) (numerator denominator : Nat) : Nat :=
  if numerator = 0 then 0
  else
    let exponent :=
      max (floorLog2 numerator denominator - format.fractionBits) format.leastExponent
    let (n, d) := scale numerator denominator (-exponent)
    let code :=
      (exponent - format.leastExponent).toNat * Nat.pow 2 format.fractionBits +
        nearestEven n d
    min code format.infinityCode

theorem round_le_infinityCode (format : BinaryFormat) (numerator denominator : Nat) :
    format.round numerator denominator ≤ format.infinityCode := by
  unfold round
  split
  · exact Nat.zero_le _
  · exact Nat.min_le_right _ _

end BinaryFormat

end TextQuery
