import TextQuery.Number.Double
import TextQuery.Number.Numeral

/-!
The text of a floating-point number: the fewest decimal digits that read back as the same number,
of several such the nearest to it, written in full without an exponent. On the grid of `n` digits
only the two neighbours of the number can be its shortest form, so the grids of 1, 2, … 17 digits
are tried in turn.
-/

namespace TextQuery

namespace Shortest

/-- The numbers that round to one magnitude, as multiples of a common unit: the magnitude, the ends
of the interval around it, and whether the ends belong to it. -/
structure Interval where
  low : Nat
  middle : Nat
  high : Nat
  denominator : Nat
  closed : Bool
deriving DecidableEq, Repr

/-- The interval around the finite positive magnitude `m * 2 ^ e`: half way to its neighbours. The
lower neighbour of a power of two is nearer. -/
def Interval.around (m : Nat) (e : Int) : Interval :=
  let narrow := m = Nat.pow 2 52 && BinaryFormat.binary64.leastExponent < e
  let (unit, denominator) := BinaryFormat.scale 1 4 e
  { low := (4 * m - if narrow then 1 else 2) * unit
    middle := 4 * m * unit
    high := (4 * m + 2) * unit
    denominator := denominator
    closed := m % 2 = 0 }

/-- A quotient `numerator / denominator` times `10 ^ exponent`, as a quotient. -/
def scaleTen (numerator denominator : Nat) (exponent : Int) : Nat × Nat :=
  (numerator * Nat.pow 10 exponent.toNat, denominator * Nat.pow 10 (-exponent).toNat)

/-- Whether `digits * 10 ^ exponent` lies in the interval. -/
def Interval.holds (interval : Interval) (digits : Nat) (exponent : Int) : Bool :=
  let (n, d) := scaleTen digits 1 exponent
  let value := n * interval.denominator
  if interval.closed then interval.low * d ≤ value && value ≤ interval.high * d
  else interval.low * d < value && value < interval.high * d

/-- The number of digits that the magnitude has before its decimal point; zero or less if it is
below one. -/
def Interval.size (interval : Interval) : Int :=
  (Numeral.ofNat (interval.middle * Nat.pow 10 400 / interval.denominator)).length - 400

/-- The digits of the nearest number in the interval on the grid of multiples of `10 ^ exponent`;
a tie goes up. -/
def Interval.onGrid? (interval : Interval) (exponent : Int) : Option Nat :=
  let (n, d) := scaleTen interval.middle interval.denominator (-exponent)
  let below := n / d
  match interval.holds below exponent, interval.holds (below + 1) exponent with
  | true, true => some (if 2 * (n % d) < d then below else below + 1)
  | true, false => some below
  | false, true => some (below + 1)
  | false, false => none

/-- The first grid with a number in the interval, trying `count` digits, then one more up to `fuel`
times: digits and exponent of ten. -/
def Interval.search (interval : Interval) (size : Int) : (fuel count : Nat) → Nat × Int
  | 0, count => ((interval.onGrid? (size - count)).getD 0, size - count)
  | fuel + 1, count =>
    match interval.onGrid? (size - count) with
    | some digits => (digits, size - count)
    | none => interval.search size fuel (count + 1)

/-- The shortest decimal number in the interval. -/
def Interval.shortest (interval : Interval) : Nat × Int :=
  interval.search interval.size 16 1

end Shortest

namespace Double

/-- The number `digits * 10 ^ exponent` in full, without an exponent or needless zeros. -/
def positional (digits : Nat) (exponent : Int) : Text :=
  if 0 ≤ exponent then
    Numeral.ofNat digits ++ List.replicate exponent.toNat '0'
  else
    let places := (-exponent).toNat
    let all := Numeral.fixed (places + 1) digits
    let whole := all.take (all.length - places)
    let fraction := all.drop (all.length - places)
    let kept := (fraction.reverse.dropWhile (· = '0')).reverse
    if kept = [] then whole else whole ++ ['.'] ++ kept

/-- The text of a magnitude, by its code. -/
def magnitudeText (code : Nat) : Text :=
  if code = 0 then ['0']
  else if code = BinaryFormat.binary64.infinityCode then "inf".toList
  else
    let (m, e) := BinaryFormat.binary64.decode code
    let (digits, exponent) := (Shortest.Interval.around m e).shortest
    positional digits exponent

/-- The text of a number: its shortest form that reads back. -/
def text : Double → Text
  | nan => "NaN".toList
  | number negative code =>
    if negative then '-' :: magnitudeText code else magnitudeText code

end Double

end TextQuery
