import TreeSieve.Toml.Scalar
import TreeSieve.Toml.Table

/-!
# Reading TOML

`Toml.parse` reads a whole document into a JSON object.  A document is a
sequence of lines: comments, headers that say which table the next lines fill,
and keys with their values.
-/

namespace TreeSieve.Toml

/-! ## Gaps and line ends -/

/-- Drop the blanks at the front. -/
def skipSpaces (text : List Char) : List Char :=
  text.dropWhile isSpace

/-- Drop blanks, line breaks and comments. -/
def skipGap : List Char → (inComment : Bool) → Option (List Char)
  | [], _ => some []
  | '\n' :: rest, _ => skipGap rest false
  | '\r' :: '\n' :: rest, _ => skipGap rest false
  | character :: rest, true => if isPlain character then skipGap rest true else none
  | character :: rest, false =>
      if character = '#' then skipGap rest true
      else if isSpace character then skipGap rest false
      else some (character :: rest)

/-- Drop what is left of a line: blanks, perhaps a comment, and the line break. -/
def endLine : List Char → (inComment : Bool) → Option (List Char)
  | [], _ => some []
  | '\n' :: rest, _ => some rest
  | '\r' :: '\n' :: rest, _ => some rest
  | character :: rest, true => if isPlain character then endLine rest true else none
  | character :: rest, false =>
      if character = '#' then endLine rest true
      else if isSpace character then endLine rest false
      else none

/-! ## Keys -/

/-- Whether a character may stand in a key without quotes. -/
def isKeyPart (character : Char) : Bool :=
  character.isAlphanum || character = '_' || character = '-'

/-- Read one part of a key. -/
def readKeyPart (text : List Char) : Option (String × List Char) :=
  match text.takeWhile isKeyPart with
  | [] => readText.readLine text
  | name => some (String.ofList name, text.dropWhile isKeyPart)

/-- Read the parts of a key, which points divide. -/
def readKeyParts : (fuel : Nat) → List Char → Option (List String × List Char)
  | 0, _ => none
  | fuel + 1, text => do
      let (part, rest) ← readKeyPart (skipSpaces text)
      match skipSpaces rest with
      | '.' :: rest =>
          let (parts, rest) ← readKeyParts fuel rest
          return (part :: parts, rest)
      | rest => return ([part], rest)

/-- How deep arrays, inline tables and the parts of keys may be nested. -/
def maxDepth : Nat := 79

/-- Read a key of at least one part. -/
def readKey (text : List Char) : Option (List String × List Char) := do
  let (parts, rest) ← readKeyParts text.length text
  if maxDepth < parts.length then none else some (parts, rest)

/-- Drop a character that has to come next. -/
def expect (character : Char) : List Char → Option (List Char)
  | first :: rest => if first = character then some rest else none
  | [] => none

/-! ## Values -/

mutual
/-- Read a value; arrays and inline tables may be nested `levels` deep. -/
def readValue : (fuel levels : Nat) → List Char → Option (Json × List Char)
  | 0, _, _ => none
  | fuel + 1, levels, text =>
      match levels, text with
      | levels + 1, '[' :: rest => do
          let (items, rest) ← readItems fuel levels rest
          return (.array items, rest)
      | levels + 1, '\x7b' :: rest => do
          match skipSpaces rest with
          | '\x7d' :: rest => return (.object [], rest)
          | rest =>
              let (entries, rest) ← readMembers fuel levels [] rest
              return (.object (entriesToJson entries), rest)
      | _, '"' :: rest => (readText ('"' :: rest)).map fun (text, rest) => (.string text, rest)
      | _, '\'' :: rest => (readText ('\'' :: rest)).map fun (text, rest) => (.string text, rest)
      | _, text => readWord text

/-- Read the items of an array and its closing bracket; a comma may stand
behind the last item. -/
def readItems : (fuel levels : Nat) → List Char → Option (List Json × List Char)
  | 0, _, _ => none
  | fuel + 1, levels, text => do
      match ← skipGap text false with
      | ']' :: rest => return ([], rest)
      | text =>
          let (item, rest) ← readValue fuel levels text
          match ← skipGap rest false with
          | ',' :: rest =>
              let (items, rest) ← readItems fuel levels rest
              return (item :: items, rest)
          | ']' :: rest => return ([item], rest)
          | _ => none

/-- Read the members of an inline table and its closing brace into a table. -/
def readMembers : (fuel levels : Nat) → Entries → List Char → Option (Entries × List Char)
  | 0, _, _, _ => none
  | fuel + 1, levels, entries, text => do
      let (key, rest) ← readKey text
      let rest ← expect '=' rest
      let (value, rest) ← readValue fuel levels (skipSpaces rest)
      let entries ← entries.defineDotted (.value value) key.dropLast (key.getLast?.getD "")
      match skipSpaces rest with
      | ',' :: rest => readMembers fuel levels entries rest
      | '\x7d' :: rest => return (entries, rest)
      | _ => none
end

/-! ## Documents -/

/-- A document that has been read in part. -/
structure Progress where
  entries : Entries := []
  /-- The way to the table that the next lines fill. -/
  current : List String := []

/-- Open the table of a header. -/
def Progress.enter (progress : Progress) (path : List String)
    (define : String → Entries → Option Entries) : Option Progress := do
  let entries ←
    progress.entries.alongHeader (define (path.getLast?.getD "")) path.dropLast
  return ⟨entries, path⟩

/-- Add a value to the table that is being filled. -/
def Progress.assign (progress : Progress) (key : List String) (value : Json) :
    Option Progress := do
  let entries ← progress.entries.alongHeader
    (fun entries => entries.defineDotted (.value value) key.dropLast (key.getLast?.getD ""))
    progress.current
  return { progress with entries }

/-- Read one header or one key with its value. -/
def readLine (progress : Progress) : List Char → Option (Progress × List Char)
  | '[' :: '[' :: rest => do
      let (path, rest) ← readKey rest
      let rest ← expect ']' rest
      let rest ← expect ']' rest
      return (← progress.enter path Entries.openNext, rest)
  | '[' :: rest => do
      let (path, rest) ← readKey rest
      let rest ← expect ']' rest
      return (← progress.enter path Entries.openTable, rest)
  | text => do
      let (key, rest) ← readKey text
      let rest ← expect '=' rest
      let (value, rest) ← readValue (2 * text.length) maxDepth (skipSpaces rest)
      return (← progress.assign key value, rest)

/-- Read the lines of a document. -/
def readLines : (fuel : Nat) → Progress → List Char → Option Progress
  | 0, _, _ => none
  | fuel + 1, progress, text => do
      match ← skipGap text false with
      | [] => return progress
      | text =>
          let (progress, rest) ← readLine progress text
          readLines fuel progress (← endLine rest false)

/-- The text without the mark that may stand at its front. -/
def skipMark : List Char → List Char
  | '\ufeff' :: rest => rest
  | text => text

/-- Read a whole document. -/
def parse (text : String) : Option Json := do
  let text := skipMark text.toList
  let progress ← readLines (text.length + 1) {} text
  return .object (entriesToJson progress.entries)

end TreeSieve.Toml
