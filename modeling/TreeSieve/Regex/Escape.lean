import TreeSieve.Regex.Expr
import TreeSieve.Text.CodePoint

/-!
# Flags and escapes of regular expressions

The flags that a regular expression sets for itself, and what a backslash
stands for under them.  Each reader takes the characters that are left and
gives what it has read with the characters behind it.
-/

namespace TreeSieve.Regex

/-! ## Flags -/

/-- A switch of the notation. -/
inductive Flag where
  | caseInsensitive
  | multiLine
  | dotMatchesNewline
  | lazy
  | unicode
  | carriageReturns
  | verbose
  deriving DecidableEq

/-- The flag that a letter stands for. -/
def Flag.ofChar? : Char → Option Flag
  | 'i' => some caseInsensitive
  | 'm' => some multiLine
  | 's' => some dotMatchesNewline
  | 'U' => some lazy
  | 'u' => some unicode
  | 'R' => some carriageReturns
  | 'x' => some verbose
  | _ => none

/-- The flags in force, those that are on. -/
structure Flags where
  on : List Flag

namespace Flags

/-- Whether a flag is on. -/
def has (flags : Flags) (flag : Flag) : Bool :=
  flags.on.contains flag

/-- The flags after switching some of them on or off. -/
def apply (flags : Flags) (changes : List (Flag × Bool)) : Flags :=
  changes.foldl (fun flags (flag, value) =>
    ⟨if value then flag :: flags.on else flags.on.filter (· != flag)⟩) flags

/-- The flags at the start of an expression. -/
def start (caseInsensitive : Bool) : Flags :=
  ⟨if caseInsensitive then [.unicode, .caseInsensitive] else [.unicode]⟩

end Flags

/-- Read flags up to the colon of a group or the parenthesis that ends a group
of flags alone; says which of the two it was.  A flag may be given once, one
minus may stand among them, and a flag must follow it. -/
def readFlags (negated dangling : Bool) (changes : List (Flag × Bool)) :
    List Char → Option (List (Flag × Bool) × Bool × List Char)
  | [] => none
  | ':' :: rest => if dangling then none else some (changes, true, rest)
  | ')' :: rest => if dangling then none else some (changes, false, rest)
  | '-' :: rest => if negated then none else readFlags true true changes rest
  | letter :: rest => do
      let flag ← Flag.ofChar? letter
      if changes.any (·.1 = flag) then none
      else readFlags negated false (changes ++ [(flag, !negated)]) rest

/-! ## Blanks -/

/-- Drop blanks and comments; a comment goes from a number sign to the end of
its line. -/
def dropBlanks : (inComment : Bool) → List Char → List Char
  | _, [] => []
  | true, character :: rest => dropBlanks (character != '\n') rest
  | false, character :: rest =>
      if isBlank character then dropBlanks false rest
      else if character = '#' then dropBlanks true rest
      else character :: rest

/-- Drop blanks and comments where they do not count. -/
def skipBlanks (flags : Flags) (text : List Char) : List Char :=
  if flags.has .verbose then dropBlanks false text else text

/-- The longest run of characters that pass a test, blanks and comments left
out where they do not count. -/
def readRun (verbose : Bool) (passes : Char → Bool) :
    (inComment : Bool) → List Char → List Char × List Char
  | _, [] => ([], [])
  | true, character :: rest => readRun verbose passes (character != '\n') rest
  | false, character :: rest =>
      if verbose && isBlank character then readRun verbose passes false rest
      else if verbose && character == '#' then readRun verbose passes true rest
      else if passes character then
        let (run, rest) := readRun verbose passes false rest
        (character :: run, rest)
      else ([], character :: rest)

/-- The text up to a closing brace. -/
def readBraced (flags : Flags) (text : List Char) : Option (List Char × List Char) :=
  match readRun (flags.has .verbose) (· != '\x7d') false text with
  | (run, '\x7d' :: rest) => some (run, rest)
  | _ => none

/-! ## Escapes -/

/-- What an escape or a plain character stands for. -/
inductive Primitive where
  /-- A character; `isByte` when it is given by exactly two digits. -/
  | literal (character : Char) (isByte : Bool)
  | set (set : CharClass)
  | assertion (condition : Assertion)

/-- The first `count` characters, blanks and comments left out where they do
not count. -/
def readCount (flags : Flags) : (count : Nat) → List Char → Option (List Char × List Char)
  | 0, text => some ([], text)
  | _ + 1, [] => none
  | count + 1, character :: rest => do
      let (run, rest) ← readCount flags count (skipBlanks flags rest)
      return (character :: run, rest)

/-- A character given by its code point, in braces or with a fixed number of
digits. -/
def readCodePoint (flags : Flags) (digits : Nat) (text : List Char) :
    Option (Primitive × List Char) := do
  match skipBlanks flags text with
  | '\x7b' :: rest =>
      let (run, rest) ← readBraced flags rest
      return (.literal (← charOfHex? run) false, rest)
  | text =>
      let (run, rest) ← readCount flags digits text
      return (.literal (← charOfHex? run) (digits == 2), rest)

/-- A class together with the characters that differ from its members only in
case, where case does not count. -/
def foldClass (flags : Flags) (set : CharClass) : CharClass :=
  if !flags.has .caseInsensitive then set
  else if flags.has .unicode then .folded set
  else .asciiFolded set

/-- Close a class: fold it and take its complement if it is negated.  A class
of bytes must not hold bytes that are no characters of their own. -/
def closeClass? (flags : Flags) (negated : Bool) (set : CharClass) : Option CharClass :=
  let set := foldClass flags set
  let set := if negated then .complement set else set
  if !flags.has .unicode && set.contains '\x80' then none else some set

/-- The words, digits and blanks that letters stand for. -/
def letterClass? (flags : Flags) (letter : Char) : Option CharClass :=
  let unicode := flags.has .unicode
  match letter with
  | 'd' => some (if unicode then .property (.category ["nd"]) else .range '0' '9')
  | 's' => if unicode then some .blank else CharClass.ofAsciiName? "space"
  | 'w' => if unicode then some .word else CharClass.ofAsciiName? "word"
  | _ => none

/-- Read the property that follows `\p`. -/
def readProperty (flags : Flags) (negated : Bool) (text : List Char) :
    Option (Primitive × List Char) := do
  let (negated, property, rest) ←
    match skipBlanks flags text with
    | '\x7b' :: rest => do
        let (run, rest) ← readBraced flags rest
        let name := String.ofList run
        match name.splitOn "!=" with
        | key :: value :: more =>
            let value := String.intercalate "!=" (value :: more)
            some (!negated, Property.ofValue? key value, rest)
        | _ =>
            let mark := if run.contains ':' then ':' else '='
            let key := String.ofList (run.takeWhile (· != mark))
            match run.dropWhile (· != mark) with
            | _ :: value => some (negated, Property.ofValue? key (String.ofList value), rest)
            | [] => some (negated, Property.ofName? name, rest)
    | letter :: rest =>
        if letter = '\\' then none
        else some (negated, Property.ofName? (String.ofList [letter]), rest)
    | [] => none
  let property ← property
  if !flags.has .unicode then none
  let set ← closeClass? flags negated (.property property)
  return (.set set, rest)

/-- A word boundary of the named kind in braces.  Braces that do not begin with
a letter or a hyphen are left alone, they count repetitions. -/
def readBoundary (flags : Flags) (text : List Char) : Option (Boundary × List Char) :=
  match text with
  | '\x7b' :: rest =>
      match skipBlanks flags rest with
      | [] => none
      | first :: _ =>
          if first.isAlpha || first == '-' then do
            let (run, rest) ← readBraced flags rest
            match String.ofList run with
            | "start" => some (.wordStart, rest)
            | "end" => some (.wordEnd, rest)
            | "start-half" => some (.wordStartHalf, rest)
            | "end-half" => some (.wordEndHalf, rest)
            | _ => none
          else some (.word, text)
  | _ => some (.word, text)

/-- A condition on words under the flags. -/
def boundary (flags : Flags) (kind : Boundary) : Primitive :=
  .assertion (.boundary kind (!flags.has .unicode))

/-- Characters that stand for something in the notation; a backslash takes
that away. -/
def metaCharacters : List Char :=
  "\\.+*?()|[]\x7b\x7d^$#&-~".toList

/-- Whether a backslash before the character stands for the character itself. -/
def isEscapable (character : Char) : Bool :=
  metaCharacters.contains character ||
    (character.toNat < 128 && !character.isAlphanum && character != '<' && character != '>')

/-- Read what follows a backslash. -/
def readEscape (flags : Flags) : List Char → Option (Primitive × List Char)
  | [] => none
  | 'x' :: rest => readCodePoint flags 2 rest
  | 'u' :: rest => readCodePoint flags 4 rest
  | 'U' :: rest => readCodePoint flags 8 rest
  | 'p' :: rest => readProperty flags false rest
  | 'P' :: rest => readProperty flags true rest
  | 'a' :: rest => some (.literal '\x07' false, rest)
  | 'f' :: rest => some (.literal '\x0c' false, rest)
  | 't' :: rest => some (.literal '\t' false, rest)
  | 'n' :: rest => some (.literal '\n' false, rest)
  | 'r' :: rest => some (.literal '\r' false, rest)
  | 'v' :: rest => some (.literal '\x0b' false, rest)
  | 'A' :: rest => some (.assertion .textStart, rest)
  | 'z' :: rest => some (.assertion .textEnd, rest)
  | 'b' :: rest => (readBoundary flags rest).map fun (kind, rest) => (boundary flags kind, rest)
  | 'B' :: rest => some (boundary flags .notWord, rest)
  | '<' :: rest => some (boundary flags .wordStart, rest)
  | '>' :: rest => some (boundary flags .wordEnd, rest)
  | letter :: rest =>
      if isEscapable letter then some (.literal letter false, rest)
      else
        match letterClass? flags letter.toLower with
        | some set =>
            if letter.isLower then some (.set set, rest)
            else if flags.has .unicode then some (.set (.complement set), rest)
            else none
        | none => none

end TreeSieve.Regex
