import TreeSieve.Decimal.Spelling

/-!
# JSON tokens

A text is cut into tokens by a machine that reads one character at a time.
Where the text stops being JSON the token list ends with `broken`.  Two tokens
are spelled correctly and still denote nothing: a number beyond the floats and
a text with half of a surrogate pair.
-/

namespace TreeSieve.Json

/-- A token of JSON text. -/
inductive Token where
  | openBracket
  | closeBracket
  | openBrace
  | closeBrace
  | colon
  | comma
  | null
  | bool (value : Bool)
  | int (value : Int)
  | float (value : Float)
  | text (value : String)
  /-- A number that no float can hold. -/
  | hugeNumber
  /-- A text that holds half of a surrogate pair. -/
  | brokenText
  /-- The text is not JSON from here on. -/
  | broken

/-! ## Numbers -/

/-- How far the spelling of a number has come. -/
inductive NumberStage where
  /-- After the minus sign. -/
  | sign
  /-- After a leading zero. -/
  | zero
  | whole
  /-- After the decimal point. -/
  | point
  | fraction
  /-- After the letter of the exponent. -/
  | mark
  /-- After the sign of the exponent. -/
  | markSign
  | exponent

/-- A number being spelled; the digits are held last first. -/
structure NumberState where
  stage : NumberStage
  negative : Bool
  whole : List Nat
  fraction : List Nat
  exponentNegative : Bool
  exponent : List Nat

/-- What one more character makes of a number. -/
inductive NumberStep where
  | more (state : NumberState)
  /-- The character does not belong to the number. -/
  | done
  /-- The character cannot stand here. -/
  | wrong

/-- The value of a decimal digit. -/
def digitValue? (character : Char) : Option Nat :=
  if 48 ≤ character.toNat ∧ character.toNat ≤ 57 then some (character.toNat - 48) else none

namespace NumberState

/-- Begin a number with its first character. -/
def start? (character : Char) : Option NumberState :=
  if character = '-' then some ⟨.sign, true, [], [], false, []⟩
  else
    (digitValue? character).map fun digit =>
      ⟨if digit = 0 then .zero else .whole, false, [digit], [], false, []⟩

/-- Whether the character begins an exponent. -/
def isMark (character : Char) : Bool :=
  character = 'e' || character = 'E'

/-- Read one more character. -/
def step (state : NumberState) (character : Char) : NumberStep :=
  match state.stage, digitValue? character with
  | .sign, some digit =>
      .more { state with stage := if digit = 0 then .zero else .whole, whole := [digit] }
  | .sign, none => .wrong
  | .zero, some _ => .wrong
  | .zero, none => afterWhole
  | .whole, some digit => .more { state with whole := digit :: state.whole }
  | .whole, none => afterWhole
  | .point, some digit => .more { state with stage := .fraction, fraction := [digit] }
  | .point, none => .wrong
  | .fraction, some digit => .more { state with fraction := digit :: state.fraction }
  | .fraction, none => if isMark character then .more { state with stage := .mark } else .done
  | .mark, some digit => .more { state with stage := .exponent, exponent := [digit] }
  | .mark, none =>
      if character = '+' then .more { state with stage := .markSign }
      else if character = '-' then
        .more { state with stage := .markSign, exponentNegative := true }
      else .wrong
  | .markSign, some digit => .more { state with stage := .exponent, exponent := [digit] }
  | .markSign, none => .wrong
  | .exponent, some digit => .more { state with exponent := digit :: state.exponent }
  | .exponent, none => .done
where
  /-- After the whole digits a point or an exponent may follow. -/
  afterWhole : NumberStep :=
    if character = '.' then .more { state with stage := .point }
    else if isMark character then .more { state with stage := .mark }
    else .done

/-- The spelling gathered so far. -/
def spelling (state : NumberState) : Decimal.Spelling where
  negative := state.negative
  whole := state.whole.reverse
  fraction := if state.fraction.isEmpty then none else some state.fraction.reverse
  exponent :=
    if state.exponent.isEmpty then none
    else some (state.exponentNegative, state.exponent.reverse)

/-- The token of a number that ends here. -/
def finish (state : NumberState) : Token :=
  match state.stage with
  | .zero | .whole | .fraction | .exponent =>
      match state.spelling.read with
      | .integer value => .int value
      | .float value => .float value
      | .outOfRange => .hugeNumber
  | _ => .broken

end NumberState

/-! ## Texts -/

/-- Where inside a quoted text the machine stands. -/
inductive TextStage where
  | plain
  /-- After a backslash. -/
  | escape
  /-- Inside a four-digit escape: the digits to come and the value so far. -/
  | hex (missing value : Nat)

/-- A text being read; its characters are held last first. -/
structure TextState where
  stage : TextStage
  characters : List Char
  /-- The first half of a surrogate pair that waits for the second. -/
  pending : Option Nat
  /-- Whether every surrogate so far came in a pair. -/
  sound : Bool

/-- What one more character makes of a text. -/
inductive TextStep where
  | more (state : TextState)
  | closed (token : Token)
  | wrong

namespace TextState

/-- An empty text. -/
def start : TextState := ⟨.plain, [], none, true⟩

/-- Append a character; a waiting surrogate half stays alone. -/
def push (state : TextState) (character : Char) : TextState :=
  { stage := .plain
    characters := character :: state.characters
    pending := none
    sound := state.sound && state.pending.isNone }

/-- Append the code unit of a four-digit escape. -/
def pushUnit (state : TextState) (unit : Nat) : TextState :=
  if 0xDC00 ≤ unit ∧ unit ≤ 0xDFFF then
    match state.pending with
    | some high =>
        { state with
          stage := .plain
          characters :=
            Char.ofNat (0x10000 + (high - 0xD800) * 0x400 + (unit - 0xDC00)) :: state.characters
          pending := none }
    | none => { state with stage := .plain, sound := false }
  else if 0xD800 ≤ unit ∧ unit ≤ 0xDBFF then
    { state with
      stage := .plain
      pending := some unit
      sound := state.sound && state.pending.isNone }
  else state.push (Char.ofNat unit)

/-- The value of a hexadecimal digit in either case. -/
def hexValue? (character : Char) : Option Nat :=
  let code := character.toNat
  if 48 ≤ code ∧ code ≤ 57 then some (code - 48)
  else if 97 ≤ code ∧ code ≤ 102 then some (code - 87)
  else if 65 ≤ code ∧ code ≤ 70 then some (code - 55)
  else none

/-- The character a one-letter escape stands for. -/
def escaped? (letter : Char) : Option Char :=
  if letter = '"' ∨ letter = '\\' ∨ letter = '/' then some letter
  else if letter = 'b' then some (Char.ofNat 8)
  else if letter = 'f' then some (Char.ofNat 12)
  else if letter = 'n' then some '\n'
  else if letter = 'r' then some '\r'
  else if letter = 't' then some '\t'
  else none

/-- The token of a text that ends here. -/
def finish (state : TextState) : Token :=
  if state.sound && state.pending.isNone then .text (String.ofList state.characters.reverse)
  else .brokenText

/-- Read one more character. -/
def step (state : TextState) (character : Char) : TextStep :=
  match state.stage with
  | .plain =>
      if character = '"' then .closed state.finish
      else if character = '\\' then .more { state with stage := .escape }
      else if character.toNat < 32 then .wrong
      else .more (state.push character)
  | .escape =>
      if character = 'u' then .more { state with stage := .hex 4 0 }
      else
        match escaped? character with
        | some plain => .more (state.push plain)
        | none => .wrong
  | .hex missing value =>
      match hexValue? character with
      | none => .wrong
      | some digit =>
          if missing ≤ 1 then .more (state.pushUnit (value * 16 + digit))
          else .more { state with stage := .hex (missing - 1) (value * 16 + digit) }

end TextState

/-! ## The machine -/

/-- What the machine is in the middle of. -/
inductive LexState where
  | between
  /-- Inside one of the three words: the letters to come and its token. -/
  | word (letters : List Char) (token : Token)
  | number (state : NumberState)
  | text (state : TextState)

/-- Blanks between tokens. -/
def isSpace (character : Char) : Bool :=
  character = ' ' || character = '\n' || character = '\t' || character = '\r'

/-- What the first character of a token begins. -/
inductive Opening where
  | token (token : Token)
  | state (state : LexState)
  | blank
  | wrong

/-- Begin a token. -/
def opening (character : Char) : Opening :=
  if isSpace character then .blank
  else if character = '[' then .token .openBracket
  else if character = ']' then .token .closeBracket
  else if character = '\x7b' then .token .openBrace
  else if character = '\x7d' then .token .closeBrace
  else if character = ':' then .token .colon
  else if character = ',' then .token .comma
  else if character = '"' then .state (.text .start)
  else if character = 'n' then .state (.word ['u', 'l', 'l'] .null)
  else if character = 't' then .state (.word ['r', 'u', 'e'] (.bool true))
  else if character = 'f' then .state (.word ['a', 'l', 's', 'e'] (.bool false))
  else
    match NumberState.start? character with
    | some state => .state (.number state)
    | none => .wrong

/-- Cut the remaining characters into tokens. -/
def lex : LexState → List Char → List Token
  | .between, [] => []
  | .word _ _, [] => [.broken]
  | .number state, [] => [state.finish]
  | .text _, [] => [.broken]
  | .between, character :: rest =>
      match opening character with
      | .token token => token :: lex .between rest
      | .state state => lex state rest
      | .blank => lex .between rest
      | .wrong => [.broken]
  | .word letters token, character :: rest =>
      match letters with
      | [] => [.broken]
      | [letter] => if character = letter then token :: lex .between rest else [.broken]
      | letter :: others =>
          if character = letter then lex (.word others token) rest else [.broken]
  | .number state, character :: rest =>
      match state.step character with
      | .more next => lex (.number next) rest
      | .wrong => [.broken]
      | .done =>
          state.finish ::
            match opening character with
            | .token token => token :: lex .between rest
            | .state next => lex next rest
            | .blank => lex .between rest
            | .wrong => [.broken]
  | .text state, character :: rest =>
      match state.step character with
      | .more next => lex (.text next) rest
      | .closed token => token :: lex .between rest
      | .wrong => [.broken]

/-- The tokens of a text. -/
def tokens (text : String) : List Token :=
  lex .between text.toList

end TreeSieve.Json
