/-!
# Reading decimal numbers

A number is spelled as whole digits, perhaps fraction digits and perhaps an
exponent.  Without fraction and exponent it is an integer as long as it fits
64 bits.  Otherwise as many leading digits as fit 64 bits are kept and scaled
by one power of ten, which is exact for short numbers and may be off in the
last place for long ones.
-/

namespace TreeSieve.Decimal

/-- A number as it is spelled, digit by digit. -/
structure Spelling where
  negative : Bool
  /-- Digits before the point. -/
  whole : List Nat
  /-- Digits after the point; `none` without a point. -/
  fraction : Option (List Nat)
  /-- The sign of the exponent, true when negative, and its digits. -/
  exponent : Option (Bool × List Nat)

/-- What a spelling denotes. -/
inductive Reading where
  | integer (value : Int)
  | float (value : Float)
  /-- Too large for a float. -/
  | outOfRange

/-- The greatest significand. -/
def maxSignificand : Nat := UInt64.size - 1

/-- The value of a list of digits, most significant first. -/
def digitsValue (digits : List Nat) : Nat :=
  digits.foldl (fun value digit => value * 10 + digit) 0

/-- Append whole digits to a significand while it fits, and count the digits
from the first one that does not. -/
def absorbWhole (significand : Nat) : List Nat → Nat × Nat
  | [] => (significand, 0)
  | digit :: rest =>
      if maxSignificand < significand * 10 + digit then (significand, rest.length + 1)
      else absorbWhole (significand * 10 + digit) rest

/-- Append fraction digits to a significand while it fits, and count those
appended. -/
def absorbFraction (significand : Nat) : List Nat → Nat × Nat
  | [] => (significand, 0)
  | digit :: rest =>
      if maxSignificand < significand * 10 + digit then (significand, 0)
      else
        let (final, count) := absorbFraction (significand * 10 + digit) rest
        (final, count + 1)

/-- The power of ten as a float, up to `10 ^ 308`. -/
def powerOfTen (exponent : Nat) : Float :=
  Float.ofScientific 1 false exponent

/-- Divide by a power of ten, by `10 ^ 308` at a time.  Three such divisions
bring every significand to zero, so no more are made. -/
def scaleDown (value : Float) (exponent : Nat) : Float :=
  let steps := (exponent - 1) / 308
  (Nat.repeat (· / powerOfTen 308) (min steps 3) value) / powerOfTen (exponent - 308 * steps)

/-- A significand times a power of ten; `none` when no float is large enough. -/
def scaled (significand : Nat) (exponent : Int) : Option Float :=
  let value := significand.toUInt64.toFloat
  if 0 ≤ exponent then
    if significand = 0 then some value
    else if 308 < exponent then none
    else
      let product := value * powerOfTen exponent.toNat
      if product.isInf then none else some product
  else
    some (scaleDown value (-exponent).toNat)

/-- What a spelling denotes. -/
def Spelling.read (spelling : Spelling) : Reading :=
  let (significand, dropped) := absorbWhole 0 spelling.whole
  match spelling.fraction, spelling.exponent, dropped with
  | none, none, 0 =>
      if !spelling.negative then .integer significand
      else if 0 < significand ∧ significand ≤ UInt64.size / 2 then .integer (-(significand : Int))
      else .float (-significand.toUInt64.toFloat)
  | fraction, exponent, _ =>
      let (significand, places) := absorbFraction significand (fraction.getD [])
      let shift : Int :=
        match exponent with
        | none => 0
        | some (true, digits) => -(digitsValue digits : Int)
        | some (false, digits) => digitsValue digits
      match scaled significand ((dropped : Int) - places + shift) with
      | none => .outOfRange
      | some magnitude => .float (if spelling.negative then -magnitude else magnitude)

end TreeSieve.Decimal
