import TreeSieve.Text.Blank
import TreeSieve.Text.Case
import TreeSieve.Text.CharProperty
import TreeSieve.Text.GeneralCategory
import TreeSieve.Text.Script

/-!
# Character classes of regular expressions

A character class is a set expression over ranges and character properties.
`CharClass.contains` says which characters it holds.
-/

namespace TreeSieve.Regex

/-! ## Properties by name -/

/-- A property of characters that a regular expression can name. -/
inductive Property where
  | any
  | ascii
  | assigned
  | unassigned
  /-- One of the general categories with these two-letter names. -/
  | category (members : List String)
  | binary (name : String)
  | script (name : String)
  | scriptExtension (name : String)
  deriving DecidableEq

namespace Property

/-- Whether a character has the property. -/
def holds : Property → Char → Bool
  | any, _ => true
  | ascii, character => character.toNat < 128
  | assigned, character => GeneralCategory.isAssigned character
  | unassigned, character => !GeneralCategory.isAssigned character
  | category members, character =>
      GeneralCategory.isIn members character ||
        (members.contains "cn" && !GeneralCategory.isAssigned character)
  | binary name, character =>
      ((CharProperty.ofName? name).map (·.contains character)).getD false
  | script name, character =>
      ((Script.ofName? name).map (·.members.contains character)).getD false
  | scriptExtension name, character =>
      ((Script.ofName? name).map (·.extended.contains character)).getD false

/-- Groups of general categories by their names. -/
def categoryGroups : List (List String × List String) :=
  [ (["l", "letter"], ["lu", "ll", "lt", "lm", "lo"]),
    (["lc", "casedletter"], ["lu", "ll", "lt"]),
    (["m", "mark", "combiningmark"], ["mn", "mc", "me"]),
    (["n", "number"], ["nd", "nl", "no"]),
    (["p", "punctuation", "punct"], ["pc", "pd", "ps", "pe", "pi", "pf", "po"]),
    (["s", "symbol"], ["sm", "sc", "sk", "so"]),
    (["z", "separator"], ["zs", "zl", "zp"]),
    (["c", "other"], ["cc", "cf", "cs", "co", "cn"]),
    (["cntrl"], ["cc"]),
    (["digit"], ["nd"]) ]

/-- The general category or group of categories with a name in lower case
without separators. -/
def ofCategoryName? (name : String) : Option Property :=
  if name = "any" then some any
  else if name = "ascii" then some ascii
  else if name = "assigned" then some assigned
  else if name = "cn" ∨ name = "unassigned" then some unassigned
  else
    match categoryGroups.find? (·.1.contains name) with
    | some (_, members) => some (category members)
    | none =>
        (GeneralCategory.tables.find? fun (short, long, _) => short = name ∨ long = name).map
          fun (short, _, _) => category [short]

/-- The script with a name in lower case without separators. -/
def ofScriptName? (name : String) : Option Property :=
  (Script.ofName? name).map fun _ => script name

/-- Two-letter names that stand for a category although a property of
another kind has them too. -/
def categoryOnly : List String := ["cf", "sc", "lc"]

/-- A name in lower case without separators and without `is` in front of it. -/
def normalize (name : String) : String :=
  let characters := name.toList.map Char.toLower
  let bare := match characters with
    | 'i' :: 's' :: rest => rest
    | _ => characters
  let kept := bare.filter fun character =>
    character.toNat < 128 ∧ character ≠ ' ' ∧ character ≠ '_' ∧ character ≠ '-'
  if kept = ['c'] ∧ bare ≠ characters then "isc" else String.ofList kept

/-- The property with a name: a binary property, a general category or a
script. -/
def ofName? (name : String) : Option Property :=
  let name := normalize name
  let property :=
    if categoryOnly.contains name then none
    else (CharProperty.ofName? name).map fun _ => binary name
  property <|> ofCategoryName? name <|> ofScriptName? name

/-- The property that says that another property has a value. -/
def ofValue? (name value : String) : Option Property :=
  let value := normalize value
  match normalize name with
  | "gc" => ofCategoryName? value
  | "generalcategory" => ofCategoryName? value
  | "sc" => ofScriptName? value
  | "script" => ofScriptName? value
  | "scx" => (Script.ofName? value).map fun _ => scriptExtension value
  | "scriptextensions" => (Script.ofName? value).map fun _ => scriptExtension value
  | _ => none

end Property

/-! ## Classes -/

/-- Whether a character belongs to words: letters, marks, digits, connecting
punctuation and the two joiners. -/
def isWord (character : Char) : Bool :=
  CharProperty.alphabetic.contains character ||
    GeneralCategory.isIn ["mn", "mc", "me", "nd", "pc"] character ||
    CharProperty.joinControl.contains character

/-- Whether a character is an ASCII letter, digit or underscore. -/
def isAsciiWord (character : Char) : Bool :=
  character.isAlphanum || character = '_'

/-- A set of characters. -/
inductive CharClass where
  | none
  | range (first last : Char)
  | property (named : Property)
  /-- The characters of words. -/
  | word
  /-- White space. -/
  | blank
  | union (left right : CharClass)
  | intersection (left right : CharClass)
  | difference (left right : CharClass)
  | symmetricDifference (left right : CharClass)
  | complement (inner : CharClass)
  /-- With every character, those that differ from it only in case. -/
  | folded (inner : CharClass)
  /-- With every ASCII letter, the same letter in the other case. -/
  | asciiFolded (inner : CharClass)
  deriving DecidableEq

namespace CharClass

/-- The ASCII letter in the other case; any other character itself. -/
def asciiTwin (character : Char) : Char :=
  if character.isUpper then character.toLower
  else if character.isLower then character.toUpper
  else character

/-- Whether a character belongs to the class. -/
def contains : CharClass → Char → Bool
  | none, _ => false
  | range first last, character => first ≤ character && character ≤ last
  | property named, character => named.holds character
  | word, character => isWord character
  | blank, character => isBlank character
  | union left right, character => left.contains character || right.contains character
  | intersection left right, character => left.contains character && right.contains character
  | difference left right, character => left.contains character && !right.contains character
  | symmetricDifference left right, character =>
      left.contains character != right.contains character
  | complement inner, character => !inner.contains character
  | folded inner, character =>
      (Case.variants character.toNat).any fun code => inner.contains (Char.ofNat code)
  | asciiFolded inner, character =>
      inner.contains character || inner.contains (asciiTwin character)

/-- The class of one character. -/
def single (character : Char) : CharClass :=
  range character character

/-- The class of several ranges. -/
def ranges (pairs : List (Char × Char)) : CharClass :=
  pairs.foldr (fun (first, last) rest => union (range first last) rest) none

/-- The class that one of the bracketed ASCII names stands for. -/
def ofAsciiName? : String → Option CharClass
  | "alnum" => some (ranges [('0', '9'), ('A', 'Z'), ('a', 'z')])
  | "alpha" => some (ranges [('A', 'Z'), ('a', 'z')])
  | "ascii" => some (range '\x00' '\x7f')
  | "blank" => some (ranges [('\t', '\t'), (' ', ' ')])
  | "cntrl" => some (ranges [('\x00', '\x1f'), ('\x7f', '\x7f')])
  | "digit" => some (range '0' '9')
  | "graph" => some (range '!' '~')
  | "lower" => some (range 'a' 'z')
  | "print" => some (range ' ' '~')
  | "punct" => some (ranges [('!', '/'), (':', '@'), ('[', '\x60'), ('\x7b', '~')])
  | "space" => some (ranges [('\t', '\r'), (' ', ' ')])
  | "upper" => some (range 'A' 'Z')
  | "word" => some (ranges [('0', '9'), ('A', 'Z'), ('_', '_'), ('a', 'z')])
  | "xdigit" => some (ranges [('0', '9'), ('A', 'F'), ('a', 'f')])
  | _ => Option.none

end CharClass

end TreeSieve.Regex
