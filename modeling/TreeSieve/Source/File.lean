import TreeSieve.Source.Span

/-!
# Source files

A source file is a path, a text and the offsets at which its lines start.
Offsets and columns count bytes of the text in UTF-8; lines and columns count
from one.  A file whose lines have not been indexed is one single line.
-/

namespace TreeSieve

/-- A line and column, both counted from one. -/
structure LineColumn where
  line : Nat
  column : Nat
  deriving DecidableEq

/-- The line and column that are left of these in 64 bits.  Only the column of the last
offset there is loses anything. -/
def LineColumn.wrapped (place : LineColumn) : LineColumn :=
  ⟨place.line % UInt64.size, place.column % UInt64.size⟩

/-- Where a span begins and ends. -/
structure LineColumns where
  first : LineColumn
  last : LineColumn
  deriving DecidableEq

/-- The two ends of a span as text. -/
def LineColumns.describe (place : LineColumns) : String :=
  toString place.first.line ++ ":" ++ toString place.first.column ++ "-" ++
    toString place.last.line ++ ":" ++ toString place.last.column

/-- A source text with its path and the offsets of its lines. -/
structure SourceFile where
  path : String
  code : String
  lineStarts : List Nat
  deriving DecidableEq, Inhabited

namespace SourceFile

/-- The offsets just after each line feed of a text that begins at `offset`. -/
def breaksFrom (offset : Nat) : List Char → List Nat
  | [] => []
  | character :: rest =>
      let next := offset + character.utf8Size
      if character = '\n' then next :: breaksFrom next rest else breaksFrom next rest

/-- The offsets at which the lines of a text start. -/
def startsOf (code : String) : List Nat :=
  0 :: breaksFrom 0 code.toList

/-- A file whose lines have not been indexed. -/
def unindexed (path code : String) : SourceFile :=
  ⟨path, code, []⟩

/-- The file with its lines indexed. -/
def indexed (file : SourceFile) : SourceFile :=
  { file with lineStarts := startsOf file.code }

/-- A file with its lines indexed. -/
def ofCode (path code : String) : SourceFile :=
  (unindexed path code).indexed

/-- Drop `count` bytes from the front of a text, if they end between two
characters. -/
def dropBytes? : (count : Nat) → List Char → Option (List Char)
  | 0, characters => some characters
  | _, [] => none
  | count, character :: rest =>
      if character.utf8Size ≤ count then dropBytes? (count - character.utf8Size) rest else none

/-- The first `count` bytes of a text, if they end between two characters. -/
def takeBytes? : (count : Nat) → List Char → Option (List Char)
  | 0, _ => some []
  | _, [] => none
  | count, character :: rest =>
      if character.utf8Size ≤ count then
        (takeBytes? (count - character.utf8Size) rest).map (character :: ·)
      else none

/-- The text of a span that lies inside the file and between characters. -/
def text? (file : SourceFile) (span : Span) : Option String := do
  let rest ← dropBytes? span.start.toNat file.code.toList
  let characters ← takeBytes? span.length.toNat rest
  return String.ofList characters

/-- The line and column of an offset: the last line that starts at or before
it, and the distance from there. -/
def lineColumn (file : SourceFile) (offset : Nat) : LineColumn :=
  let before := file.lineStarts.takeWhile (· ≤ offset)
  match before.getLast? with
  | none => ⟨1, offset + 1⟩
  | some start => ⟨before.length, offset - start + 1⟩

/-- The lines and columns at which a span begins and ends, in 64 bits each. -/
def lineColumns (file : SourceFile) (span : Span) : LineColumns :=
  ⟨(file.lineColumn span.start.toNat).wrapped, (file.lineColumn span.finish.toNat).wrapped⟩

end SourceFile

end TreeSieve
