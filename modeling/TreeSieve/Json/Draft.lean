import TreeSieve.Json.Token
import TreeSieve.Json.Value

/-!
# JSON text as far as it can be read

A `Draft` is the value a text spells, up to the place where the text stops
being JSON.  Readers of typed data walk a draft in document order, so they
meet the first fault of the text whatever its kind.  `Draft.toJson?` asks for
a value without any fault, and `Draft.isSpelled` only for one that is spelled
to its end.
-/

namespace TreeSieve.Json

/-- A JSON value as far as its text spells it. -/
inductive Draft where
  | null
  | bool (value : Bool)
  | int (value : Int)
  | float (value : Float)
  | string (value : String)
  | array (items : List Draft)
  /-- The members of an object; a key is absent when it cannot be read. -/
  | object (members : List (Option String × Draft))
  /-- Spelled to its end, but without a value: a number beyond the floats or a
  text with half of a surrogate pair. -/
  | unreadable
  /-- The text is not JSON from here on. -/
  | broken
  deriving Inhabited

/-! ## Building drafts from tokens -/

/-- An array or object whose end has not been reached; what it holds so far is
kept last first. -/
inductive Frame where
  | array (items : List Draft)
  | object (members : List (Option String × Draft)) (key : Option String)

/-- What may come next. -/
inductive Expected where
  | value
  /-- After an opening bracket: an item or the end. -/
  | firstItem
  /-- After an opening brace: a key or the end. -/
  | firstKey
  /-- After a comma inside an object. -/
  | key
  | colon
  /-- After a value: a comma or the end of what surrounds it. -/
  | separator

/-- Close every open frame around a fault. -/
def abandon (inner : Draft) : List Frame → Draft
  | [] => inner
  | .array items :: rest => abandon (.array (inner :: items).reverse) rest
  | .object members key :: rest => abandon (.object ((key, inner) :: members).reverse) rest

/-- The draft of a text that goes wrong while this is expected. -/
def fault : Expected → List Frame → Draft
  | .firstKey, .object members _ :: rest => abandon .broken (.object members none :: rest)
  | .key, .object members _ :: rest => abandon .broken (.object members none :: rest)
  | .separator, .object members _ :: rest => abandon .broken (.object members none :: rest)
  | _, frames => abandon .broken frames

/-- Put a complete value into the innermost frame. -/
def place (value : Draft) : List Frame → List Frame
  | [] => []
  | .array items :: rest => .array (value :: items) :: rest
  | .object members key :: rest => .object ((key, value) :: members) none :: rest

/-- The draft that a token by itself spells. -/
def scalar? : Token → Option Draft
  | .null => some .null
  | .bool value => some (.bool value)
  | .int value => some (.int value)
  | .float value => some (.float value)
  | .text value => some (.string value)
  | .hugeNumber => some .unreadable
  | .brokenText => some .unreadable
  | _ => none

/-- The key that a token spells: absent inside when it cannot be read. -/
def key? : Token → Option (Option String)
  | .text value => some (some value)
  | .brokenText => some none
  | _ => none

/-- What one token makes of the open frames. -/
inductive Progress where
  | next (expected : Expected) (frames : List Frame)
  /-- The outermost value ends with this token. -/
  | complete (value : Draft)
  /-- The token cannot stand here. -/
  | wrong

/-- A value ends here: the text ends with it or goes on in the frame around it. -/
def settle (value : Draft) : List Frame → Progress
  | [] => .complete value
  | frames => .next .separator (place value frames)

/-- Read a token that begins a value. -/
def beginValue (token : Token) (frames : List Frame) : Progress :=
  match token with
  | .openBracket => .next .firstItem (.array [] :: frames)
  | .openBrace => .next .firstKey (.object [] none :: frames)
  | _ =>
      match scalar? token with
      | some value => settle value frames
      | none => .wrong

/-- Read a token that spells a key. -/
def beginMember (token : Token) (frames : List Frame) : Progress :=
  match key? token, frames with
  | some key, .object members _ :: outer => .next .colon (.object members key :: outer)
  | _, _ => .wrong

/-- Read one token. -/
def advance (token : Token) (expected : Expected) (frames : List Frame) : Progress :=
  match expected with
  | .value => beginValue token frames
  | .firstItem =>
      match token, frames with
      | .closeBracket, .array items :: outer => settle (.array items.reverse) outer
      | _, _ => beginValue token frames
  | .firstKey =>
      match token, frames with
      | .closeBrace, .object members _ :: outer => settle (.object members.reverse) outer
      | _, _ => beginMember token frames
  | .key => beginMember token frames
  | .colon =>
      match token with
      | .colon => .next .value frames
      | _ => .wrong
  | .separator =>
      match token, frames with
      | .comma, .array _ :: _ => .next .value frames
      | .comma, .object _ _ :: _ => .next .key frames
      | .closeBracket, .array items :: outer => settle (.array items.reverse) outer
      | .closeBrace, .object members _ :: outer => settle (.object members.reverse) outer
      | _, _ => .wrong

/-- A draft together with whether anything follows it in the text. -/
structure Text where
  draft : Draft
  trailing : Bool

/-- Read tokens with these frames open. -/
def assemble : List Token → Expected → List Frame → Text
  | [], expected, frames => ⟨fault expected frames, false⟩
  | token :: rest, expected, frames =>
      match advance token expected frames with
      | .next expected frames => assemble rest expected frames
      | .complete value => ⟨value, !rest.isEmpty⟩
      | .wrong => ⟨fault expected frames, false⟩

/-- Read a text. -/
def draftOf (text : String) : Text :=
  assemble (tokens text) .value []

/-! ## Complete values -/

namespace Draft

/-- Containers may be nested this deep. -/
def maxDepth : Nat := 127

mutual

/-- The value of a draft that holds no fault and whose containers are nested
at most `levels` deep. -/
def toJson? : (levels : Nat) → Draft → Option Json
  | _, .null => some .null
  | _, .bool value => some (.bool value)
  | _, .int value => some (.int value)
  | _, .float value => some (.float value)
  | _, .string value => some (.string value)
  | 0, .array _ => none
  | levels + 1, .array items => (itemsToJson? levels items).map .array
  | 0, .object _ => none
  | levels + 1, .object members => (membersToJson? levels members).map .object
  | _, .unreadable => none
  | _, .broken => none

/-- The values of all items. -/
def itemsToJson? : (levels : Nat) → List Draft → Option (List Json)
  | _, [] => some []
  | levels, item :: rest => do
      let value ← toJson? levels item
      let values ← itemsToJson? levels rest
      return value :: values

/-- The values of all members. -/
def membersToJson? : (levels : Nat) → List (Option String × Draft) → Option (List (String × Json))
  | _, [] => some []
  | levels, (key, member) :: rest => do
      let key ← key
      let value ← toJson? levels member
      let values ← membersToJson? levels rest
      return (key, value) :: values

end

mutual

/-- Whether a draft is spelled to its end, readable or not. -/
def isSpelled : Draft → Bool
  | .array items => itemsSpelled items
  | .object members => membersSpelled members
  | .broken => false
  | _ => true

/-- Whether every item is spelled to its end. -/
def itemsSpelled : List Draft → Bool
  | [] => true
  | item :: rest => isSpelled item && itemsSpelled rest

/-- Whether every member is spelled to its end. -/
def membersSpelled : List (Option String × Draft) → Bool
  | [] => true
  | (_, member) :: rest => isSpelled member && membersSpelled rest

end

mutual

/-- A complete value as a draft. -/
def ofJson : Json → Draft
  | .null => .null
  | .bool value => .bool value
  | .int value => .int value
  | .float value => .float value
  | .string value => .string value
  | .array items => .array (ofItems items)
  | .object members => .object (ofMembers members)

/-- Complete items as drafts. -/
def ofItems : List Json → List Draft
  | [] => []
  | item :: rest => ofJson item :: ofItems rest

/-- Complete members as drafts. -/
def ofMembers : List (String × Json) → List (Option String × Draft)
  | [] => []
  | (key, value) :: rest => (some key, ofJson value) :: ofMembers rest

end

end Draft

end TreeSieve.Json
