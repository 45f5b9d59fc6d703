import TreeSieve.Decimal.Spelling
import TreeSieve.Json.Value
import TreeSieve.Text.CodePoint

/-!
# Scalars of TOML

Texts, truth values, numbers, dates and times.  Reading gives what has been
read and the characters behind it.  A date or time is kept as an
object with one member that holds its text, because no setting is one.
-/

namespace TreeSieve.Toml

/-! ## Texts -/

/-- Whether a character may stand for itself in a text: no control but the tab. -/
def isPlain (character : Char) : Bool :=
  character = '\t' || (32 ≤ character.toNat && character.toNat != 127)

/-- Put a character in front of what is read. -/
def prepend (character : Char) : Option (List Char × List Char) → Option (List Char × List Char) :=
  Option.map fun (text, rest) => (character :: text, rest)

/-- The character that a letter behind a backslash stands for. -/
def shortEscape? : Char → Option Char
  | 'b' => some '\x08'
  | 't' => some '\t'
  | 'n' => some '\n'
  | 'f' => some '\x0c'
  | 'r' => some '\r'
  | '"' => some '"'
  | '\\' => some '\\'
  | _ => none

/-- Read a text up to its double quote. -/
def readBasic : List Char → Option (List Char × List Char)
  | [] => none
  | '"' :: rest => some ([], rest)
  | '\\' :: 'u' :: a :: b :: c :: d :: rest => do
      prepend (← charOfHex? [a, b, c, d]) (readBasic rest)
  | '\\' :: 'U' :: a :: b :: c :: d :: e :: f :: g :: h :: rest => do
      prepend (← charOfHex? [a, b, c, d, e, f, g, h]) (readBasic rest)
  | '\\' :: letter :: rest => do prepend (← shortEscape? letter) (readBasic rest)
  | character :: rest =>
      if character != '\\' && isPlain character then prepend character (readBasic rest) else none

/-- Read a text up to its single quote. -/
def readLiteral : List Char → Option (List Char × List Char)
  | [] => none
  | '\'' :: rest => some ([], rest)
  | character :: rest =>
      if isPlain character then prepend character (readLiteral rest) else none

/-- The end of a text between three quotes: two more quotes may belong to it. -/
def closeLong (quote : Char) : List Char → Option (List Char × List Char)
  | first :: second :: rest =>
      if first = quote ∧ second = quote then some ([quote, quote], rest)
      else if first = quote then some ([quote], second :: rest)
      else some ([], first :: second :: rest)
  | [first] => if first = quote then some ([quote], []) else some ([], [first])
  | [] => some ([], [])

/-- Whether a character is a blank within a line. -/
def isSpace (character : Char) : Bool :=
  character = ' ' || character = '\t'

/-- Whether a line ends here, blanks aside. -/
def atLineEnd (text : List Char) : Bool :=
  match text.dropWhile isSpace with
  | '\n' :: _ => true
  | '\r' :: '\n' :: _ => true
  | _ => false

/-- Read a text of several lines up to its three double quotes.  A backslash
at the end of a line drops the gap up to the next character; `inGap` tells
whether this is such a gap. -/
def readLongBasic : List Char → (inGap : Bool) → Option (List Char × List Char)
  | [], _ => none
  | '"' :: '"' :: '"' :: rest, _ => closeLong '"' rest
  | '\\' :: 'u' :: a :: b :: c :: d :: rest, _ => do
      prepend (← charOfHex? [a, b, c, d]) (readLongBasic rest false)
  | '\\' :: 'U' :: a :: b :: c :: d :: e :: f :: g :: h :: rest, _ => do
      prepend (← charOfHex? [a, b, c, d, e, f, g, h]) (readLongBasic rest false)
  | '\\' :: letter :: rest, _ =>
      if letter = '\n' then readLongBasic rest true
      else if atLineEnd (letter :: rest) then readLongBasic rest true
      else do prepend (← shortEscape? letter) (readLongBasic rest false)
  | '\r' :: '\n' :: rest, inGap =>
      if inGap then readLongBasic rest true else prepend '\n' (readLongBasic rest false)
  | character :: rest, inGap =>
      if inGap && (isSpace character || character = '\n') then readLongBasic rest true
      else if character = '\n' || (character != '\\' && isPlain character) then
        prepend character (readLongBasic rest false)
      else none

/-- Read a text of several lines up to its three single quotes. -/
def readLongLiteral : List Char → Option (List Char × List Char)
  | [] => none
  | '\'' :: '\'' :: '\'' :: rest => closeLong '\'' rest
  | '\r' :: '\n' :: rest => prepend '\n' (readLongLiteral rest)
  | character :: rest =>
      if character = '\n' || isPlain character then prepend character (readLongLiteral rest)
      else none

/-- Drop a line break. -/
def dropLineBreak : List Char → List Char
  | '\n' :: rest => rest
  | '\r' :: '\n' :: rest => rest
  | text => text

/-- Read a text in quotes of any form. -/
def readText : List Char → Option (String × List Char)
  | '"' :: '"' :: '"' :: rest => finish (readLongBasic (dropLineBreak rest) false)
  | '\'' :: '\'' :: '\'' :: rest => finish (readLongLiteral (dropLineBreak rest))
  | text => readLine text
where
  /-- The characters read as one text. -/
  finish : Option (List Char × List Char) → Option (String × List Char) :=
    Option.map fun (text, rest) => (String.ofList text, rest)
  /-- Read a text that stays on its line. -/
  readLine : List Char → Option (String × List Char)
    | '"' :: rest => finish (readBasic rest)
    | '\'' :: rest => finish (readLiteral rest)
    | _ => none

/-! ## Numbers -/

/-- The digits of a number; single underscores may stand between them. -/
def digits? (digit? : Char → Option Nat) : List Char → (afterDigit : Bool) → Option (List Nat)
  | [], afterDigit => if afterDigit then some [] else none
  | '_' :: rest, afterDigit => if afterDigit then digits? digit? rest false else none
  | character :: rest, _ => do
      return (← digit? character) :: (← digits? digit? rest true)

/-- The value of a digit below a base. -/
def digitBelow? (base : Nat) (character : Char) : Option Nat :=
  (hexDigit? character).filter (· < base)

/-- The decimal digits of a number. -/
def decimals? (text : List Char) : Option (List Nat) :=
  digits? (digitBelow? 10) text false

/-- The digits in front of the point: no zero leads them. -/
def wholeDigits? (text : List Char) : Option (List Nat) := do
  let digits ← decimals? text
  if digits.length > 1 ∧ digits.head? = some 0 then none else some digits

/-- Split a sign off a number; true when it is negative. -/
def splitSign : List Char → Bool × List Char
  | '+' :: rest => (false, rest)
  | '-' :: rest => (true, rest)
  | text => (false, text)

/-- An integer that fits 64 bits. -/
def integer? (value : Int) : Option Json :=
  if Int64.minValue.toInt ≤ value ∧ value ≤ Int64.maxValue.toInt then some (.int value) else none

/-- An integer without sign in a base other than ten. -/
def based? (base : Nat) (text : List Char) : Option Json := do
  let digits ← digits? (digitBelow? base) text false
  let value : Nat := digits.foldl (fun value digit => value * base + digit) 0
  integer? value

/-- A decimal integer. -/
def decimalInteger? (text : List Char) : Option Json := do
  let (negative, text) := splitSign text
  let value : Int := Decimal.digitsValue (← wholeDigits? text)
  integer? (if negative then -value else value)

/-- Split a text at the first character of a kind, which is dropped; `none`
behind it if there is none. -/
def splitAt (isMark : Char → Bool) (text : List Char) : List Char × Option (List Char) :=
  (text.takeWhile (!isMark ·), (text.dropWhile (!isMark ·)).tail?)

/-- A decimal number with a fraction, an exponent or both. -/
def decimalFloat? (text : List Char) : Option Json := do
  let (negative, text) := splitSign text
  let (mantissa, exponent) := splitAt (fun character => character = 'e' || character = 'E') text
  let (whole, fraction) := splitAt (· = '.') mantissa
  if fraction.isNone ∧ exponent.isNone then none
  let spelling : Decimal.Spelling := {
    negative
    whole := ← wholeDigits? whole
    fraction := ← fraction.mapM decimals?
    exponent := ← exponent.mapM fun power => do
      let (negative, power) := splitSign power
      return (negative, ← decimals? power) }
  match spelling.read with
  | .float value => some (.float value)
  | .integer value => some (.int value)
  | .outOfRange => none

/-- A number without finite value. -/
def specialFloat? (text : List Char) : Option Json :=
  let (negative, text) := splitSign text
  let sign : Float := if negative then -1 else 1
  if text = ['i', 'n', 'f'] then some (.float (sign / 0))
  else if text = ['n', 'a', 'n'] then some (.float (0 / 0))
  else none

/-! ## Dates and times -/

/-- The member that holds the text of a date or time. -/
def dateKey : String := "$moment"

/-- A number of exactly `count` digits between two bounds. -/
def field? (count least greatest : Nat) (text : List Char) : Option Nat := do
  let digits ← text.mapM (digitBelow? 10)
  let value := Decimal.digitsValue digits
  if digits.length = count ∧ least ≤ value ∧ value ≤ greatest then some value else none

/-- The number of days of a month. -/
def daysOfMonth (year month : Nat) : Nat :=
  if month = 2 then
    if year % 4 = 0 ∧ (year % 100 ≠ 0 ∨ year % 400 = 0) then 29 else 28
  else if month = 4 ∨ month = 6 ∨ month = 9 ∨ month = 11 then 30
  else 31

/-- Whether a text is a date. -/
def isDate (text : List Char) : Bool :=
  match text with
  | [a, b, c, d, '-', e, f, '-', g, h] => Option.isSome do
      let year ← field? 4 0 9999 [a, b, c, d]
      let month ← field? 2 1 12 [e, f]
      field? 2 1 (daysOfMonth year month) [g, h]
  | _ => false

/-- Whether a text is a number of hours and minutes. -/
def isHourMinute (text : List Char) : Bool :=
  match text with
  | [a, b, ':', c, d] => (field? 2 0 23 [a, b]).isSome && (field? 2 0 59 [c, d]).isSome
  | _ => false

/-- Whether a text is a time of day, perhaps with a fraction of a second. -/
def isTime (text : List Char) : Bool :=
  let (clock, fraction) := splitAt (· = '.') text
  isHourMinute (clock.take 5) && (clock.drop 5).head? = some ':' &&
    (field? 2 0 60 (clock.drop 6)).isSome &&
    fraction.all fun digits => !digits.isEmpty && digits.all Char.isDigit

/-- Whether a text is a time of day, perhaps with its distance from UTC. -/
def isZonedTime (text : List Char) : Bool :=
  let (time, zone) := splitAt (fun character => character = '+' || character = '-') text
  match zone with
  | some offset => isTime time && isHourMinute offset
  | none =>
      isTime text ||
        ((text.getLast? = some 'Z' || text.getLast? = some 'z') && isTime text.dropLast)

/-- Whether a text is a date, a time or both, divided by the letter T. -/
def isMoment (text : List Char) : Bool :=
  isDate text || isTime text ||
    (isDate (text.take 10) && ((text.drop 10).head?.any fun mark => mark = 'T' || mark = 't') &&
      isZonedTime (text.drop 11))

/-- A date or time. -/
def moment? (text : List Char) : Option Json :=
  if isMoment text then some (.object [(dateKey, .string (String.ofList text))]) else none

/-! ## Words -/

/-- Whether a character can be part of a scalar without quotes. -/
def isWordPart (character : Char) : Bool :=
  character.isAlphanum || character = '+' || character = '-' || character = '_' ||
    character = '.' || character = ':'

/-- The scalar that a word without quotes stands for. -/
def word? : List Char → Option Json
  | ['t', 'r', 'u', 'e'] => some (.bool true)
  | ['f', 'a', 'l', 's', 'e'] => some (.bool false)
  | '0' :: 'x' :: digits => based? 16 digits
  | '0' :: 'o' :: digits => based? 8 digits
  | '0' :: 'b' :: digits => based? 2 digits
  | word =>
      moment? word <|> decimalInteger? word <|> decimalFloat? word <|> specialFloat? word

/-- Read a scalar without quotes.  A blank may stand between date and time. -/
def readWord (text : List Char) : Option (Json × List Char) := do
  let word := text.takeWhile isWordPart
  let rest := text.dropWhile isWordPart
  match rest with
  | ' ' :: behind =>
      let time := behind.takeWhile isWordPart
      if isDate word && isZonedTime time then
        return (← moment? (word ++ 'T' :: time), behind.dropWhile isWordPart)
      else
        return (← word? word, rest)
  | _ => return (← word? word, rest)

end TreeSieve.Toml
