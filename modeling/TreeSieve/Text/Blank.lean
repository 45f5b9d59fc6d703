/-!
# Blank characters

The characters that count as white space, and texts without blanks at their
ends.
-/

namespace TreeSieve

/-- White space: the tabs and line breaks of ASCII, the space, the next-line
and no-break characters, and the spaces and separators above them. -/
def isBlank (character : Char) : Bool :=
  let code := character.toNat
  (9 ≤ code && code ≤ 13) || code == 0x20 || code == 0x85 || code == 0xa0 || code == 0x1680 ||
    (0x2000 ≤ code && code ≤ 0x200a) || code == 0x2028 || code == 0x2029 || code == 0x202f ||
    code == 0x205f || code == 0x3000

/-- Drop the blanks at both ends of a list of characters. -/
def trimBlanks (characters : List Char) : List Char :=
  ((characters.dropWhile isBlank).reverse.dropWhile isBlank).reverse

/-- A text without the blanks at its ends. -/
def trimmed (text : String) : String :=
  String.ofList (trimBlanks text.toList)

/-- The parts of a text between commas, without blanks at their ends and
without empty parts. -/
def commaList (text : String) : List String :=
  ((text.splitOn ",").map trimmed).filter (· != "")

end TreeSieve
