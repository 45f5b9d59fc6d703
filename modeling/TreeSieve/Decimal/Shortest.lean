/-!
# Shortest decimal digits of a float

A positive finite float is a whole number times a power of two.  Its shortest
digits are the fewest decimal digits that lie nearer to it than to either
neighbouring float; among decimals of that length the nearest one is taken.
All tests are exact comparisons of natural numbers.
-/

namespace TreeSieve.Decimal

/-- The positive number `significand * 2 ^ exponent`. -/
structure Binary where
  significand : Nat
  exponent : Int

/-- The number of fractions that the 52 low bits of a float can hold. -/
def fractionCount : Nat := 4503599627370496

/-- The magnitude of a finite float, read off its bits. -/
def Binary.ofFloat (value : Float) : Binary :=
  let bits := value.toBits.toNat
  let fraction : Nat := bits % fractionCount
  let field : Nat := bits / fractionCount % 2048
  if field = 0 then ⟨fraction, -1074⟩ else ⟨fraction + fractionCount, (field : Int) - 1075⟩

/-- A positive rational number. -/
structure Ratio where
  numerator : Nat
  denominator : Nat

/-- The power `base ^ exponent`. -/
def Ratio.power (base : Nat) (exponent : Int) : Ratio :=
  if 0 ≤ exponent then ⟨base.pow exponent.toNat, 1⟩ else ⟨1, base.pow (-exponent).toNat⟩

/-- The product with a natural number. -/
def Ratio.scale (ratio : Ratio) (factor : Nat) : Ratio :=
  ⟨ratio.numerator * factor, ratio.denominator⟩

/-- The quotient of two rational numbers. -/
def Ratio.divide (dividend divisor : Ratio) : Ratio :=
  ⟨dividend.numerator * divisor.denominator, dividend.denominator * divisor.numerator⟩

/-- Compare two rational numbers. -/
def Ratio.compare (left right : Ratio) : Ordering :=
  Ord.compare (left.numerator * right.denominator) (right.numerator * left.denominator)

/-- The number of decimal digits of a natural number. -/
def digitCount (value : Nat) : Nat :=
  (Nat.toDigits 10 value).length

/-- The exponent of the greatest power of ten that does not exceed the number. -/
def Ratio.magnitude (ratio : Ratio) : Int :=
  if ratio.denominator ≤ ratio.numerator then
    (digitCount (ratio.numerator / ratio.denominator) : Int) - 1
  else
    -(digitCount ((ratio.denominator - 1) / ratio.numerator) : Int)

/-- The decimals that read back as one float: from `low` to `high`, the ends
included when `closed`. -/
structure Interval where
  low : Ratio
  high : Ratio
  closed : Bool

/-- The numbers that round to a float: up to half way to its neighbours.  The
lower neighbour of a power of two is twice as near. -/
def Interval.around (binary : Binary) : Interval :=
  let quarter := Ratio.power 2 (binary.exponent - 2)
  let narrow := binary.significand = fractionCount ∧ -1074 < binary.exponent
  { low := quarter.scale (4 * binary.significand - if narrow then 1 else 2)
    high := quarter.scale (4 * binary.significand + 2)
    closed := binary.significand % 2 = 0 }

/-- Whether a number lies in the interval. -/
def Interval.contains (interval : Interval) (number : Ratio) : Bool :=
  match interval.low.compare number, number.compare interval.high with
  | .lt, .lt => true
  | .eq, .lt => interval.closed
  | .lt, .eq => interval.closed
  | _, _ => false

/-- The decimal number `coefficient * 10 ^ exponent`. -/
structure Scientific where
  coefficient : Nat
  exponent : Int

/-- The decimal as a rational number. -/
def Scientific.toRatio (decimal : Scientific) : Ratio :=
  (Ratio.power 10 decimal.exponent).scale decimal.coefficient

/-- The nearest decimal with `digits` digits that lies in the interval, if one
of the two neighbours of the value does. -/
def candidate (value : Ratio) (interval : Interval) (digits : Nat) : Option Scientific :=
  let exponent := value.magnitude - (digits - 1)
  let quotient := value.divide (Ratio.power 10 exponent)
  let below := quotient.numerator / quotient.denominator
  let remainder := quotient.numerator % quotient.denominator
  let lower : Scientific := ⟨below, exponent⟩
  let upper : Scientific := ⟨below + 1, exponent⟩
  let lowerFits := 0 < below && interval.contains lower.toRatio
  let upperFits := interval.contains upper.toRatio
  if lowerFits && upperFits then
    match Ord.compare (2 * remainder) quotient.denominator with
    | .lt => some lower
    | .gt => some upper
    | .eq => some (if below % 2 = 0 then lower else upper)
  else if lowerFits then some lower
  else if upperFits then some upper
  else none

/-- Try one digit, two digits and so on; seventeen always suffice. -/
def shortestFrom (value : Ratio) (interval : Interval) : (tries digits : Nat) → Scientific
  | 0, _ => ⟨0, 0⟩
  | tries + 1, digits =>
      (candidate value interval digits).getD (shortestFrom value interval tries (digits + 1))

/-- Digits of a decimal number, `0.d₁d₂d₃… * 10 ^ point`, without trailing zeros. -/
structure Digits where
  digits : List Char
  point : Int

/-- Spell the coefficient and drop its trailing zeros. -/
def Digits.ofScientific (decimal : Scientific) : Digits :=
  let spelled := Nat.toDigits 10 decimal.coefficient
  { digits := (spelled.reverse.dropWhile (· = '0')).reverse
    point := decimal.exponent + spelled.length }

/-- The shortest digits of a positive finite float. -/
def shortest (value : Float) : Digits :=
  let binary := Binary.ofFloat value
  let ratio := (Ratio.power 2 binary.exponent).scale binary.significand
  Digits.ofScientific (shortestFrom ratio (Interval.around binary) 17 1)

/-! ## Layout -/

/-- How the shortest digits are laid out: plainly while the exponent of the
first digit lies between two bounds, in scientific notation beyond them. -/
structure Layout where
  leastPlain : Int
  mostPlain : Int
  /-- Whether a positive exponent carries a plus sign. -/
  signedExponent : Bool

/-- Digits with a decimal point and at least one digit on either side of it. -/
def Digits.plain (number : Digits) : List Char :=
  if number.point ≤ 0 then
    ['0', '.'] ++ List.replicate (-number.point).toNat '0' ++ number.digits
  else
    let whole := number.point.toNat
    let front := number.digits.take whole
    let back := number.digits.drop whole
    front ++ List.replicate (whole - front.length) '0' ++ ['.'] ++
      if back.isEmpty then ['0'] else back

/-- Digits with an exponent; a single digit has no decimal point. -/
def Digits.scientific (number : Digits) (signedExponent : Bool) : List Char :=
  let exponent := number.point - 1
  let significand :=
    match number.digits with
    | [] => ['0']
    | [digit] => [digit]
    | digit :: rest => digit :: '.' :: rest
  let sign := if exponent < 0 then ['-'] else if signedExponent then ['+'] else []
  significand ++ ['e'] ++ sign ++ Nat.toDigits 10 exponent.natAbs

/-- Write a finite float; zero keeps its sign. -/
def Layout.render (layout : Layout) (value : Float) : String :=
  let sign := if UInt64.size / 2 ≤ value.toBits.toNat then ['-'] else []
  if value == 0 then String.ofList (sign ++ ['0', '.', '0'])
  else
    let number := shortest value
    let exponent := number.point - 1
    String.ofList <| sign ++
      if layout.leastPlain ≤ exponent ∧ exponent ≤ layout.mostPlain then number.plain
      else number.scientific layout.signedExponent

end TreeSieve.Decimal
