import TreeSieve.Regex.Brackets

/-!
# Reading regular expressions

A regular expression is read from left to right.  Groups that are open lie on
a stack, and every step takes at least one character.
-/

namespace TreeSieve.Regex

/-- Expressions may be nested this deep. -/
def maxDepth : Nat := 250

/-- An item of a branch: an expression, or flags set in passing, which cannot
be repeated. -/
inductive Item where
  | expr (expr : Nested Expr)
  | flags

/-- The branches of a group read so far; the last item and the last branch come
first. -/
structure Branches where
  items : List Item := []
  finished : List (Nested Expr) := []

namespace Branches

/-- Add an expression to the current branch. -/
def push (branches : Branches) (expr : Nested Expr) : Branches :=
  { branches with items := .expr expr :: branches.items }

/-- The expressions of the current branch. -/
def exprs (branches : Branches) : List (Nested Expr) :=
  branches.items.reverse.filterMap fun
    | .expr expr => some expr
    | .flags => none

/-- The greatest depth of several expressions, one level deeper when there are
`count` of them and not only one. -/
def depthOf (count : Nat) (exprs : List (Nested Expr)) : Nat :=
  let depth := exprs.foldl (fun depth expr => max depth expr.depth) 0
  if count ≤ 1 then depth else depth + 1

/-- The current branch as one expression. -/
def branch (branches : Branches) : Nested Expr :=
  ⟨.ofSequence (branches.exprs.map (·.value)), depthOf branches.items.length branches.exprs⟩

/-- Begin another branch. -/
def next (branches : Branches) : Branches :=
  { items := [], finished := branches.branch :: branches.finished }

/-- All branches as one expression. -/
def close (branches : Branches) : Nested Expr :=
  let all := branches.next.finished.reverse
  ⟨.ofChoice (all.map (·.value)), depthOf all.length all⟩

end Branches

/-- A regular expression being read. -/
structure Progress where
  flags : Flags
  branches : Branches := {}
  /-- The groups around the current one, each with its own flags. -/
  outer : List (Flags × Branches) := []
  names : List String := []

namespace Progress

/-- Add an expression without depth to the current branch. -/
def push (progress : Progress) (expr : Expr) : Progress :=
  { progress with branches := progress.branches.push ⟨expr, 0⟩ }

/-- Open a group with changed flags. -/
def openGroup (progress : Progress) (changes : List (Flag × Bool)) : Progress :=
  { progress with
    flags := progress.flags.apply changes
    branches := {}
    outer := (progress.flags, progress.branches) :: progress.outer }

/-- Set flags for the rest of the current group. -/
def setFlags (progress : Progress) (changes : List (Flag × Bool)) : Progress :=
  { progress with
    flags := progress.flags.apply changes
    branches := { progress.branches with items := .flags :: progress.branches.items } }

/-- Close the current group. -/
def closeGroup? (progress : Progress) : Option Progress :=
  match progress.outer with
  | [] => none
  | (flags, branches) :: outer =>
      let group := progress.branches.close
      some { progress with
        flags, outer, branches := branches.push ⟨group.value, group.depth + 1⟩ }

/-- Repeat the last item of the current branch. -/
def repeatLast? (progress : Progress) (least : Nat) (greatest : Option Nat) : Option Progress :=
  match progress.branches.items with
  | .expr last :: items =>
      let repeated := ⟨.repetition last.value least greatest, last.depth + 1⟩
      some { progress with branches := { progress.branches with items := .expr repeated :: items } }
  | _ => none

end Progress

/-! ## Parts -/

/-- The expression of a literal. -/
def literalExpr? (flags : Flags) (character : Char) (isByte : Bool) : Option Expr :=
  if flags.has .unicode then
    if flags.has .caseInsensitive then
      let variants := (Case.variants character.toNat).map Char.ofNat
      some (.char (.ranges (variants.map fun variant => (variant, variant))))
    else some (.char (.single character))
  else if isByte && 128 ≤ character.toNat then none
  else if flags.has .caseInsensitive then
    if character.toNat < 128 then some (.char (.asciiFolded (.single character))) else none
  else some (.char (.single character))

/-- The expression of an escape. -/
def primitiveExpr? (flags : Flags) : Primitive → Option Expr
  | .literal character isByte => literalExpr? flags character isByte
  | .set set => some (.char set)
  | .assertion assertion => some (.assertion assertion)

/-- The characters that a dot stands for. -/
def dotExpr? (flags : Flags) : Option Expr :=
  if !flags.has .unicode then none
  else if flags.has .dotMatchesNewline then some (.char (.complement .none))
  else if flags.has .carriageReturns then
    some (.char (.complement (.ranges [('\n', '\n'), ('\r', '\r')])))
  else some (.char (.complement (.single '\n')))

/-- The assertions that a circumflex and a dollar sign stand for. -/
def edgeExpr (flags : Flags) (ofText ofLine ofAnyLine : Assertion) : Expr :=
  if !flags.has .multiLine then .assertion ofText
  else if flags.has .carriageReturns then .assertion ofAnyLine
  else .assertion ofLine

/-- Whether a character may stand in the name of a group. -/
def isNameChar (isFirst : Bool) (character : Char) : Bool :=
  character == '_' || CharProperty.alphabetic.contains character ||
    (!isFirst && (character == '.' || character == '[' || character == ']' ||
      GeneralCategory.isIn ["nd", "nl", "no"] character))

/-- Read the name of a group up to its closing bracket. -/
def readGroupName (text : List Char) : Option (String × List Char) :=
  let name := text.takeWhile (· != '>')
  match name, text.dropWhile (· != '>') with
  | first :: more, _ :: rest =>
      if isNameChar true first && more.all (isNameChar false) then
        some (String.ofList name, rest)
      else none
  | _, _ => none

/-- Read the start of a group behind its parenthesis. -/
def readGroup (progress : Progress) (text : List Char) : Option (Progress × List Char) :=
  let named := fun (text : List Char) => do
    let (name, rest) ← readGroupName text
    if progress.names.contains name then none
    else some ({ progress with names := name :: progress.names }.openGroup [], rest)
  match skipBlanks progress.flags text with
  | '?' :: '=' :: _ => none
  | '?' :: '!' :: _ => none
  | '?' :: '<' :: '=' :: _ => none
  | '?' :: '<' :: '!' :: _ => none
  | '?' :: 'P' :: '<' :: rest => named rest
  | '?' :: '<' :: rest => named rest
  | '?' :: rest => do
      let (changes, isGroup, rest) ← readFlags false false [] rest
      if isGroup then some (progress.openGroup changes, rest)
      else if changes.isEmpty then none
      else some (progress.setFlags changes, rest)
  | text => some (progress.openGroup [], text)

/-- Read a number below 2^32 with blanks around it. -/
def readDecimal (flags : Flags) (text : List Char) : Option (Nat × List Char) :=
  let (digits, rest) :=
    readRun (flags.has .verbose) Char.isDigit false (text.dropWhile isBlank)
  let value := digits.foldl (fun value digit => value * 10 + (digit.toNat - 48)) 0
  if digits.isEmpty || UInt32.size ≤ value then none
  else some (value, skipBlanks flags (rest.dropWhile isBlank))

/-- Read how often to repeat, behind an opening brace. -/
def readCounts (flags : Flags) (text : List Char) : Option (Nat × Option Nat × List Char) := do
  let (least, rest) ← readDecimal flags (skipBlanks flags text)
  let (greatest, rest) ←
    match rest with
    | ',' :: rest =>
        match skipBlanks flags rest with
        | '\x7d' :: rest => some (none, '\x7d' :: rest)
        | rest => (readDecimal flags rest).map fun (greatest, rest) => (some greatest, rest)
    | rest => some (some least, rest)
  match rest with
  | '\x7d' :: rest =>
      if greatest.all (least ≤ ·) then some (least, greatest, rest) else none
  | _ => none

/-- Drop the mark of a lazy repetition, which finds the same texts. -/
def dropLazyMark : List Char → List Char
  | '?' :: rest => rest
  | text => text

/-! ## The whole expression -/

/-- Read on from one character. -/
def step (progress : Progress) : Char → List Char → Option (Progress × List Char)
  | '(', rest => readGroup progress rest
  | ')', rest => progress.closeGroup?.map (·, rest)
  | '|', rest => some ({ progress with branches := progress.branches.next }, rest)
  | '[', rest => do
      let (set, rest) ← readClass progress.flags rest
      let expr := ⟨.char set.value, set.depth⟩
      return ({ progress with branches := progress.branches.push expr }, rest)
  | '?', rest => (progress.repeatLast? 0 (some 1)).map (·, dropLazyMark rest)
  | '*', rest => (progress.repeatLast? 0 none).map (·, dropLazyMark rest)
  | '+', rest => (progress.repeatLast? 1 none).map (·, dropLazyMark rest)
  | '\x7b', rest => do
      let (least, greatest, rest) ← readCounts progress.flags rest
      let progress' ← progress.repeatLast? least greatest
      return (progress', dropLazyMark (skipBlanks progress.flags rest))
  | '\\', rest => do
      let (primitive, rest) ← readEscape progress.flags rest
      let expr ← primitiveExpr? progress.flags primitive
      return (progress.push expr, rest)
  | '.', rest => (dotExpr? progress.flags).map fun expr => (progress.push expr, rest)
  | '^', rest =>
      some (progress.push (edgeExpr progress.flags .textStart .lineStart .anyLineStart), rest)
  | '$', rest =>
      some (progress.push (edgeExpr progress.flags .textEnd .lineEnd .anyLineEnd), rest)
  | character, rest =>
      (literalExpr? progress.flags character false).map fun expr => (progress.push expr, rest)

/-- Read to the end. -/
def readAll : (fuel : Nat) → Progress → List Char → Option Progress
  | 0, _, _ => none
  | fuel + 1, progress, text =>
      match skipBlanks progress.flags text with
      | [] => some progress
      | character :: rest => do
          let (progress, rest) ← step progress character rest
          readAll fuel progress rest

/-- The expression that a text spells, if it is one. -/
def compile (caseInsensitive : Bool) (source : String) : Option Expr := do
  let text := source.toList
  let progress ← readAll (text.length + 1) { flags := Flags.start caseInsensitive } text
  if !progress.outer.isEmpty then none
  let expr := progress.branches.close
  if maxDepth < expr.depth then none
  return expr.value

end TreeSieve.Regex
