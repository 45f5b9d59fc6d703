import TreeSieve.Text.CharSet

/-!
# Code points in hexadecimal

Characters that are given by the digits of their code points.
-/

namespace TreeSieve

/-- The value of a hexadecimal digit of either case. -/
def hexDigit? (digit : Char) : Option Nat :=
  let lower := digit.toLower
  if lower.isDigit || ('a' ≤ lower && lower ≤ 'f') then some (hexDigitValue lower) else none

/-- The character with a code point given by hexadecimal digits. -/
def charOfHex? (digits : List Char) : Option Char := do
  let values ← digits.mapM hexDigit?
  let code := values.foldl (fun code value => code * 16 + value) 0
  if digits ≠ [] ∧ code.isValidChar then some (Char.ofNat code) else none

end TreeSieve
