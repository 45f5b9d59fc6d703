/-!
# File wildcards

A wildcard is a text in which a star stands for any characters, a question
mark for one, brackets for one of several, and a double star that is a whole
component of a path for any number of components.
-/

namespace TreeSieve

/-! ## Parts -/

/-- One or more characters inside brackets. -/
structure CharSpan where
  first : Char
  last : Char
  deriving DecidableEq

/-- A part of a wildcard. -/
inductive WildcardPart where
  | char (character : Char)
  /-- Any one character. -/
  | anyChar
  /-- Any characters, separators included. -/
  | anyText
  /-- Any number of whole components. -/
  | anyComponents
  /-- A character inside some span, or inside none when negated. -/
  | oneOf (negated : Bool) (spans : List CharSpan)
  deriving DecidableEq

/-- Why a text is not a wildcard. -/
inductive WildcardFault where
  | invalidRange
  | longStar
  | partialComponent
  deriving DecidableEq

/-- A fault with the place where it was noticed. -/
structure WildcardError where
  position : Nat
  fault : WildcardFault
  deriving DecidableEq

/-- The wording of a fault. -/
def WildcardFault.reason : WildcardFault → String
  | invalidRange => "invalid range pattern"
  | longStar => "wildcards are either regular `*` or recursive `**`"
  | partialComponent => "recursive wildcards must form a single path component"

/-- The wording of an error. -/
def WildcardError.message (error : WildcardError) : String :=
  "Pattern syntax error near position " ++ toString error.position ++ ": " ++ error.fault.reason

/-! ## Reading -/

namespace WildcardPart

/-- Read the inside of brackets: two characters joined by a hyphen are a span. -/
def readSpans : List Char → List CharSpan
  | first :: '-' :: last :: rest => ⟨first, last⟩ :: readSpans rest
  | character :: rest => ⟨character, character⟩ :: readSpans rest
  | [] => []

/-- The inside of brackets, which is never empty, and what follows them. -/
def splitBrackets : List Char → Option (List Char × List Char)
  | [] => none
  | first :: more =>
      match more.dropWhile (· != ']') with
      | [] => none
      | _ :: rest => some (first :: more.takeWhile (· != ']'), rest)

/-- Read what follows an opening bracket. -/
def readBrackets (text : List Char) : Option (WildcardPart × List Char) :=
  let (negated, text) := match text with
    | '!' :: rest => (true, rest)
    | _ => (false, text)
  (splitBrackets text).map fun (inside, rest) => (.oneOf negated (readSpans inside), rest)

/-- Read a run of `count` stars that begins at `position` behind `before`. -/
def readStars (position count : Nat) (before : Option Char) (rest : List Char) :
    Except WildcardError (WildcardPart × List Char) :=
  if count = 1 then .ok (.anyText, rest)
  else if count ≠ 2 then .error ⟨position + 2, .longStar⟩
  else if before.any (· != '/') then .error ⟨position - 1, .partialComponent⟩
  else
    match rest with
    | [] => .ok (.anyComponents, [])
    | '/' :: rest => .ok (.anyComponents, rest)
    | _ => .error ⟨position + 2, .partialComponent⟩

/-- Read the parts of a wildcard from a position on; `before` is the character
before it. -/
def readAll : (fuel position : Nat) → (before : Option Char) → List Char →
    Except WildcardError (List WildcardPart)
  | 0, _, _, _ => .ok []
  | _, _, _, [] => .ok []
  | fuel + 1, position, before, character :: rest => do
      let (part, rest') ←
        if character = '?' then .ok (anyChar, rest)
        else if character = '*' then
          readStars position ((rest.takeWhile (· == '*')).length + 1) before
            (rest.dropWhile (· == '*'))
        else if character = '[' then
          (readBrackets rest).elim (.error ⟨position, .invalidRange⟩) .ok
        else .ok (char character, rest)
      let taken := (character :: rest).take (rest.length + 1 - rest'.length)
      let parts ← readAll fuel (position + taken.length) taken.getLast? rest'
      return part :: parts

/-! ## Matching -/

/-- Every rest of a text, the text itself and the empty one included. -/
def suffixes : List Char → List (List Char)
  | [] => [[]]
  | character :: rest => (character :: rest) :: suffixes rest

/-- The rests of a text behind its separators. -/
def behindSeparators : List Char → List (List Char)
  | [] => []
  | character :: rest =>
      if character = '/' then rest :: behindSeparators rest else behindSeparators rest

/-- Whether a part stands for a single character. -/
def admits : WildcardPart → Char → Bool
  | char expected, character => expected == character
  | anyChar, _ => true
  | oneOf negated spans, character =>
      spans.any (fun span => span.first ≤ character && character ≤ span.last) != negated
  | _, _ => false

/-- Whether parts stand for a whole text. -/
def matchAll : List WildcardPart → List Char → Bool
  | [], text => text.isEmpty
  | anyText :: parts, text => (suffixes text).any (matchAll parts)
  | anyComponents :: parts, text =>
      (text :: behindSeparators text ++ [[]]).any (matchAll parts)
  | _ :: _, [] => false
  | part :: parts, character :: rest => part.admits character && matchAll parts rest

end WildcardPart

/-! ## Wildcards -/

/-- A wildcard with its text. -/
structure Wildcard where
  text : String
  parts : List WildcardPart
  parsed : WildcardPart.readAll text.length 0 none text.toList = .ok parts

namespace Wildcard

/-- Read a wildcard. -/
def ofText (text : String) : Except WildcardError Wildcard :=
  match parsed : WildcardPart.readAll text.length 0 none text.toList with
  | .ok parts => .ok ⟨text, parts, parsed⟩
  | .error error => .error error

/-- Whether a path matches the wildcard. -/
def admits (wildcard : Wildcard) (path : String) : Bool :=
  WildcardPart.matchAll wildcard.parts path.toList

theorem eq_of_text_eq {left right : Wildcard} (same : left.text = right.text) : left = right := by
  obtain ⟨text, parts, parsed⟩ := left
  obtain ⟨text', parts', parsed'⟩ := right
  cases same
  cases parsed.symm.trans parsed'
  rfl

end Wildcard

end TreeSieve
