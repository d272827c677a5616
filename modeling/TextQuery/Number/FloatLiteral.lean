import TextQuery.Number.Double
import TextQuery.Number.Numeral

/-!
Literals of floating-point types: an optional sign, then a word for infinity or NaN in any case, or
decimal digits with an optional point and an optional exponent. The number is rounded once, to the
width of the type that is read (`FloatType.read?`), and then held with 64 bits.
-/

namespace TextQuery

/-- The floating-point types a field can be declared with. -/
inductive FloatType where
  | f32
  | f64
deriving DecidableEq, Repr

/-- What a literal of a floating-point type says, its sign apart. -/
inductive FloatLiteral where
  | nan
  | infinity
  /-- The number `digits * 10 ^ exponent`. -/
  | decimal (digits : Nat) (exponent : Int)
deriving DecidableEq, Repr

namespace FloatLiteral

/-- The exponent that stands at the end of a literal: nothing, or `e` and an integer. -/
def readExponent? : Text → Option Int
  | [] => some 0
  | c :: rest =>
    if c = 'e' || c = 'E' then
      match rest with
      | '+' :: digits => (Numeral.read? digits).map Int.ofNat
      | '-' :: digits => (Numeral.read? digits).map fun n => -(n : Int)
      | digits => (Numeral.read? digits).map Int.ofNat
    else
      none

/-- A literal made of digits: at least one digit before or after the point. -/
def readDecimal? (text : Text) : Option FloatLiteral :=
  let whole := text.takeWhile Char.isDigit
  let rest := text.dropWhile Char.isDigit
  let (fraction, tail) :=
    match rest with
    | '.' :: more => (more.takeWhile Char.isDigit, more.dropWhile Char.isDigit)
    | _ => ([], rest)
  if whole = [] ∧ fraction = [] then none
  else (readExponent? tail).map fun exponent =>
    decimal (Numeral.value (whole ++ fraction)) (exponent - fraction.length)

/-- A literal without its sign. -/
def readMagnitude? (text : Text) : Option FloatLiteral :=
  if text.eqIgnoreAsciiCase "inf".toList || text.eqIgnoreAsciiCase "infinity".toList then
    some infinity
  else if text.eqIgnoreAsciiCase "nan".toList then
    some nan
  else
    readDecimal? text

/-- A literal and whether a minus sign stands before it. -/
def read? : Text → Option (Bool × FloatLiteral)
  | '+' :: rest => (readMagnitude? rest).map (false, ·)
  | '-' :: rest => (readMagnitude? rest).map (true, ·)
  | text => (readMagnitude? text).map (false, ·)

end FloatLiteral

namespace BinaryFormat

/-- A power of ten above every finite magnitude of the formats, and whose inverse is below the half
of every positive one. -/
def decimalReach : Nat :=
  400

/-- The code of the magnitude nearest to `digits * 10 ^ exponent`. Numbers out of reach are decided
by their size alone. -/
def roundDecimal (format : BinaryFormat) (digits : Nat) (exponent : Int) : Nat :=
  let size := exponent + (Numeral.ofNat digits).length
  if digits = 0 || size < -(decimalReach : Int) then 0
  else if decimalReach < size then format.infinityCode
  else format.round (digits * Nat.pow 10 exponent.toNat) (Nat.pow 10 (-exponent).toNat)

theorem roundDecimal_le_infinityCode (format : BinaryFormat) (digits : Nat) (exponent : Int) :
    format.roundDecimal digits exponent ≤ format.infinityCode := by
  unfold roundDecimal
  dsimp only
  split
  · exact Nat.zero_le _
  split
  · exact Nat.le_refl _
  · exact round_le_infinityCode _ _ _

end BinaryFormat

namespace FloatType

/-- The name of the type in messages and renderings. -/
def name : FloatType → Text
  | f32 => "f32".toList
  | f64 => "f64".toList

/-- The format that numbers of the type are rounded to. -/
def format : FloatType → BinaryFormat
  | f32 => .binary32
  | f64 => .binary64

/-- The number nearest to `digits * 10 ^ exponent` among those of the type. -/
def nearest (negative : Bool) (digits : Nat) (exponent : Int) : FloatType → Double
  | f64 => .number negative ⟨BinaryFormat.binary64.roundDecimal digits exponent,
      Nat.lt_succ_of_le (BinaryFormat.roundDecimal_le_infinityCode _ _ _)⟩
  | f32 =>
    let code := BinaryFormat.binary32.roundDecimal digits exponent
    if code = BinaryFormat.binary32.infinityCode then
      .infinity negative
    else
      let (m, e) := BinaryFormat.binary32.decode code
      let (n, d) := BinaryFormat.scale m 1 e
      .ofRatio negative n d

/-- The number that a literal stands for, rounded to the type. -/
def read? (type : FloatType) (text : Text) : Option Double :=
  (FloatLiteral.read? text).map fun
    | (_, .nan) => .nan
    | (negative, .infinity) => .infinity negative
    | (negative, .decimal digits exponent) => type.nearest negative digits exponent

end FloatType

end TextQuery
