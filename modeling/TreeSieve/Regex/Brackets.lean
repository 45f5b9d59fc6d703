import TreeSieve.Regex.Escape

/-!
# Bracketed classes of regular expressions

A class in brackets is a union of characters, ranges, escapes, named ASCII
classes and classes inside, with set operations between unions.  Operations
have one precedence and group to the left.
-/

namespace TreeSieve.Regex

/-- A part of a regular expression with how deep it is nested. -/
structure Nested (α : Type) where
  value : α
  depth : Nat

/-- An operation between two classes. -/
inductive SetOperation where
  | intersection
  | difference
  | symmetricDifference

/-- The class that an operation makes of two.  Both sides are folded first. -/
def SetOperation.apply (flags : Flags) (operation : SetOperation) (left right : CharClass) :
    CharClass :=
  let left := foldClass flags left
  let right := foldClass flags right
  match operation with
  | intersection => .intersection left right
  | difference => .difference left right
  | symmetricDifference => .symmetricDifference left right

/-- A bracket that has been opened and not closed. -/
structure OpenBracket where
  negated : Bool
  /-- The left side of an operation whose right side is being read. -/
  pending : Option (Nested CharClass × SetOperation) := none
  /-- What the union being read holds so far. -/
  items : List (Nested CharClass) := []

namespace OpenBracket

/-- Add an item to the union being read. -/
def push (bracket : OpenBracket) (item : Nested CharClass) : OpenBracket :=
  { bracket with items := item :: bracket.items }

/-- Add a character or an escape. -/
def pushSet (bracket : OpenBracket) (set : CharClass) : OpenBracket :=
  bracket.push ⟨set, 0⟩

/-- The union read so far; a union of several items is one level deeper. -/
def union (bracket : OpenBracket) : Nested CharClass :=
  let set := bracket.items.foldl (fun set item => .union item.value set) .none
  let depth := bracket.items.foldl (fun depth item => max depth item.depth) 0
  ⟨set, if bracket.items.length ≤ 1 then depth else depth + 1⟩

/-- What has been read, with the pending operation carried out. -/
def content (flags : Flags) (bracket : OpenBracket) : Nested CharClass :=
  match bracket.pending with
  | none => bracket.union
  | some (left, operation) =>
      let right := bracket.union
      ⟨operation.apply flags left.value right.value, max left.depth right.depth + 1⟩

/-- Go on with an operation. -/
def operate (flags : Flags) (operation : SetOperation) (bracket : OpenBracket) : OpenBracket :=
  { bracket with pending := some (bracket.content flags, operation), items := [] }

/-- Close the bracket. -/
def close? (flags : Flags) (bracket : OpenBracket) : Option (Nested CharClass) := do
  let content := bracket.content flags
  let set ← closeClass? flags bracket.negated content.value
  return ⟨set, content.depth + 1⟩

end OpenBracket

/-- Read the hyphens at the start of a class, which stand for themselves. -/
def readHyphens (flags : Flags) (bracket : OpenBracket) (fuel : Nat) (text : List Char) :
    OpenBracket × List Char :=
  match fuel, text with
  | fuel + 1, '-' :: rest =>
      readHyphens flags (bracket.pushSet (.single '-')) fuel (skipBlanks flags rest)
  | _, _ => (bracket, text)

/-- Read the start of a class behind its bracket: the mark of negation and the
characters that only stand for themselves there. -/
def openBracket (flags : Flags) (text : List Char) : OpenBracket × List Char :=
  let text := skipBlanks flags text
  let (negated, text) := match text with
    | '^' :: rest => (true, skipBlanks flags rest)
    | _ => (false, text)
  let (bracket, text) := readHyphens flags { negated } text.length text
  match bracket.items, text with
  | [], ']' :: rest => (bracket.pushSet (.single ']'), skipBlanks flags rest)
  | _, _ => (bracket, text)

/-- A named ASCII class such as `:alpha:]` behind an opening bracket. -/
def readAsciiClass (flags : Flags) (text : List Char) : Option (Option CharClass × List Char) :=
  match text with
  | ':' :: rest =>
      let (negated, rest) := match rest with
        | '^' :: rest => (true, rest)
        | _ => (false, rest)
      let name := String.ofList (rest.takeWhile (· != ':'))
      match rest.dropWhile (· != ':') with
      | ':' :: ']' :: rest =>
          (CharClass.ofAsciiName? name).map fun set => (closeClass? flags negated set, rest)
      | _ => none
  | _ => none

/-- One character or escape of a class. -/
def readClassItem (flags : Flags) : List Char → Option (Primitive × List Char)
  | [] => none
  | '\\' :: rest => readEscape flags rest
  | character :: rest => some (.literal character false, rest)

/-- The character that a literal stands for inside a class: any character, or
an ASCII character where classes hold bytes. -/
def classLiteral? (flags : Flags) : Primitive → Option Char
  | .literal character _ =>
      if flags.has .unicode || character.toNat < 128 then some character else none
  | _ => none

/-- The class of a single item. -/
def itemClass? (flags : Flags) : Primitive → Option CharClass
  | .set set => some set
  | item => (classLiteral? flags item).map .single

/-- Read one item or a range between two characters.  A hyphen before the end
of the class stands for itself, and two of them are an operation. -/
def readClassRange (flags : Flags) (text : List Char) : Option (CharClass × List Char) := do
  let (first, rest) ← readClassItem flags text
  let rest := skipBlanks flags rest
  let single := (itemClass? flags first).map (·, rest)
  match rest with
  | '-' :: behind =>
      let behind := skipBlanks flags behind
      match behind with
      | ']' :: _ => single
      | '-' :: _ => single
      | _ =>
          let (last, rest) ← readClassItem flags behind
          let low ← classLiteral? flags first
          let high ← classLiteral? flags last
          if low ≤ high then some (.range low high, rest) else none
  | _ => single

/-- Read a class whose outermost bracket has been opened.  `outer` holds the
brackets around the one being read. -/
def readClassBody (flags : Flags) : (fuel : Nat) → (bracket : OpenBracket) →
    (outer : List OpenBracket) → List Char → Option (Nested CharClass × List Char)
  | 0, _, _, _ => none
  | fuel + 1, bracket, outer, text =>
      match skipBlanks flags text with
      | [] => none
      | '[' :: rest =>
          match readAsciiClass flags rest with
          | some (set, rest) => do
              readClassBody flags fuel (bracket.pushSet (← set)) outer rest
          | none =>
              let (inner, rest) := openBracket flags rest
              readClassBody flags fuel inner (bracket :: outer) rest
      | ']' :: rest => do
          let closed ← bracket.close? flags
          match outer with
          | [] => some (closed, rest)
          | enclosing :: outer => readClassBody flags fuel (enclosing.push closed) outer rest
      | '&' :: '&' :: rest =>
          readClassBody flags fuel (bracket.operate flags .intersection) outer rest
      | '-' :: '-' :: rest =>
          readClassBody flags fuel (bracket.operate flags .difference) outer rest
      | '~' :: '~' :: rest =>
          readClassBody flags fuel (bracket.operate flags .symmetricDifference) outer rest
      | text => do
          let (set, rest) ← readClassRange flags text
          readClassBody flags fuel (bracket.pushSet set) outer rest

/-- Read a class behind its opening bracket. -/
def readClass (flags : Flags) (text : List Char) : Option (Nested CharClass × List Char) :=
  let (bracket, rest) := openBracket flags text
  readClassBody flags (text.length + 1) bracket [] rest

end TreeSieve.Regex
