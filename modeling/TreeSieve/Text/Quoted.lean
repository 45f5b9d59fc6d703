import TreeSieve.Text.CharProperty
import TreeSieve.Text.GeneralCategory

/-!
# Quoted text

A text in double quotes on one line.  Quotes and backslashes take a backslash,
four controls have letters of their own, and every character that would not
show by itself is given by its number.
-/

namespace TreeSieve.Quoted

/-- Lower-case hexadecimal digits of a number. -/
def hexDigits (value : Nat) : List Char :=
  Nat.toDigits 16 value

/-- Categories whose members do not show by themselves; the plain space is the
exception. -/
def hiddenCategories : List String :=
  ["cc", "cf", "cs", "co", "zl", "zp", "zs"]

/-- Whether a character stands for itself inside quotes. -/
def isShown (character : Char) : Bool :=
  if character.toNat < 127 then 32 ≤ character.toNat
  else
    !CharProperty.graphemeExtend.contains character &&
      GeneralCategory.isAssigned character &&
      !GeneralCategory.isIn hiddenCategories character

/-- Write one character inside quotes. -/
def escape (character : Char) : List Char :=
  if character = '"' then ['\\', '"']
  else if character = '\\' then ['\\', '\\']
  else if character = '\t' then ['\\', 't']
  else if character = '\n' then ['\\', 'n']
  else if character = '\r' then ['\\', 'r']
  else if character.toNat = 0 then ['\\', '0']
  else if isShown character then [character]
  else ['\\', 'u', '\x7b'] ++ hexDigits character.toNat ++ ['\x7d']

/-- Write a text in double quotes. -/
def render (text : String) : String :=
  String.ofList ('"' :: text.toList.flatMap escape ++ ['"'])

end TreeSieve.Quoted
