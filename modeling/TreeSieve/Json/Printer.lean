import TreeSieve.Decimal.Shortest
import TreeSieve.Json.Value

/-!
# Writing JSON

A value is written in a style, which says what blanks stand between its tokens.
`Json.render` writes it without blanks; `Json.pretty` puts every item and every member on
a line of its own, two blanks further in.
-/

namespace TreeSieve.Json

/-- Floats in JSON text: plain from `0.00001` up to but not including `1e+16`. -/
def floatLayout : Decimal.Layout where
  leastPlain := -5
  mostPlain := 15
  signedExponent := true

/-- A lower-case hexadecimal digit. -/
def hexDigit (value : Nat) : Char :=
  if value < 10 then Char.ofNat (48 + value) else Char.ofNat (87 + value)

/-- Write one character of a text.  Quotes, backslashes and controls are
escaped, everything else stands for itself. -/
def escape (character : Char) : List Char :=
  if character = '"' then ['\\', '"']
  else if character = '\\' then ['\\', '\\']
  else if character = '\n' then ['\\', 'n']
  else if character = '\r' then ['\\', 'r']
  else if character = '\t' then ['\\', 't']
  else if character.toNat = 8 then ['\\', 'b']
  else if character.toNat = 12 then ['\\', 'f']
  else if character.toNat < 32 then
    ['\\', 'u', '0', '0', hexDigit (character.toNat / 16), hexDigit (character.toNat % 16)]
  else [character]

/-- A text in quotes. -/
def quote (text : String) : List Char :=
  '"' :: text.toList.flatMap escape ++ ['"']

/-- Decimal digits of an integer. -/
def spellInt (value : Int) : List Char :=
  if value < 0 then '-' :: Nat.toDigits 10 value.natAbs else Nat.toDigits 10 value.natAbs

/-- A float, or null when it is not finite. -/
def spellFloat (value : Float) : List Char :=
  if value.isNaN || value.isInf then ['n', 'u', 'l', 'l']
  else (floatLayout.render value).toList

/-- The blanks between the tokens of a written value. -/
structure Style where
  /-- What stands in front of an item, a member or the end of a container at a level. -/
  lineBreak : Nat → List Char
  /-- What stands between the colon of a member and its value. -/
  gap : List Char
  lineBreak_blank : ∀ level, ∀ character ∈ lineBreak level, character = ' ' ∨ character = '\n'
  gap_blank : ∀ character ∈ gap, character = ' ' ∨ character = '\n'
  /-- A line break that is not empty ends the number in front of it. -/
  lineBreak_head : ∀ level, ∀ character ∈ (lineBreak level).head?, character = '\n'

/-- No blanks at all. -/
def Style.compact : Style where
  lineBreak _ := []
  gap := []
  lineBreak_blank := by simp
  gap_blank := by simp
  lineBreak_head := by simp

/-- Every item and every member on a line of its own, two blanks further in for each
level. -/
def Style.indented : Style where
  lineBreak level := '\n' :: List.replicate (2 * level) ' '
  gap := [' ']
  lineBreak_blank := by simp +contextual [List.mem_replicate]
  gap_blank := by simp
  lineBreak_head := by simp

mutual

/-- The characters of a value that begins at a level. -/
def spell (style : Style) (level : Nat) : Json → List Char
  | .null => ['n', 'u', 'l', 'l']
  | .bool true => ['t', 'r', 'u', 'e']
  | .bool false => ['f', 'a', 'l', 's', 'e']
  | .int value => spellInt value
  | .float value => spellFloat value
  | .string text => quote text
  | .array items => '[' :: spellItems style level items
  | .object members => '\x7b' :: spellMembers style level members

/-- The items of an array and its closing bracket. -/
def spellItems (style : Style) (level : Nat) : List Json → List Char
  | [] => [']']
  | [item] =>
      style.lineBreak (level + 1) ++ spell style (level + 1) item ++
        style.lineBreak level ++ [']']
  | item :: rest =>
      style.lineBreak (level + 1) ++ spell style (level + 1) item ++
        ',' :: spellItems style level rest

/-- The members of an object and its closing brace. -/
def spellMembers (style : Style) (level : Nat) : List (String × Json) → List Char
  | [] => ['\x7d']
  | [(key, value)] =>
      style.lineBreak (level + 1) ++ quote key ++ ':' :: style.gap ++
        spell style (level + 1) value ++ style.lineBreak level ++ ['\x7d']
  | (key, value) :: rest =>
      style.lineBreak (level + 1) ++ quote key ++ ':' :: style.gap ++
        spell style (level + 1) value ++ ',' :: spellMembers style level rest

end

/-- Write a value in a style. -/
def write (style : Style) (value : Json) : String :=
  String.ofList (spell style 0 value)

/-- Write a value without blanks. -/
def render (value : Json) : String :=
  write .compact value

/-- Write a value over several lines. -/
def pretty (value : Json) : String :=
  write .indented value

end TreeSieve.Json
