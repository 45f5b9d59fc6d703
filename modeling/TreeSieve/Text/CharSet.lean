/-!
# Sets of characters

A `CharSet` is an increasing table of code point ranges.  Character properties
are written as lines of text, `"41-5a 61-7a aa"`, and read once into such a table;
membership is a binary search.
-/

namespace TreeSieve

/-- The value of a lower-case hexadecimal digit; any other character counts as zero. -/
def hexDigitValue (digit : Char) : Nat :=
  let code := digit.toNat
  if 48 ≤ code ∧ code ≤ 57 then code - 48
  else if 97 ≤ code ∧ code ≤ 102 then code - 87
  else 0

/-- Read lower-case hexadecimal digits, most significant first. -/
def hexValue (digits : List Char) : Nat :=
  digits.foldl (fun value digit => value * 16 + hexDigitValue digit) 0

/-- An increasing table of inclusive code point ranges. -/
structure CharSet where
  ranges : Array (Nat × Nat)

namespace CharSet

/-- Read one table entry: a single code point or two joined by a hyphen. -/
def readRange (entry : String) : Nat × Nat :=
  let digits := entry.toList
  let first := hexValue (digits.takeWhile (· != '-'))
  match digits.dropWhile (· != '-') with
  | [] => (first, first)
  | _ :: last => (first, hexValue last)

/-- Read a table written as hexadecimal ranges, several to a line with one
blank between them. -/
def ofHex (lines : List String) : CharSet :=
  ⟨(lines.flatMap (·.splitOn " ")).toArray.map readRange⟩

/-- Narrow the index interval from `low` up to but not including `high` to the
last range that starts at or before `code`. -/
def locate (ranges : Array (Nat × Nat)) (code : Nat) : (fuel low high : Nat) → Option (Nat × Nat)
  | 0, _, _ => none
  | fuel + 1, low, high =>
      if low + 1 < high then
        let middle := (low + high) / 2
        match ranges[middle]? with
        | none => none
        | some range =>
            if range.1 ≤ code then locate ranges code fuel middle high
            else locate ranges code fuel low middle
      else
        ranges[low]?

/-- Whether the set holds the code point `code`. -/
def containsCode (set : CharSet) (code : Nat) : Bool :=
  match locate set.ranges code (set.ranges.size + 1) 0 set.ranges.size with
  | none => false
  | some (first, last) => first ≤ code && code ≤ last

/-- Whether the set holds the character. -/
def contains (set : CharSet) (character : Char) : Bool :=
  set.containsCode character.toNat

end CharSet

end TreeSieve
