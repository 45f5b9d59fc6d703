/-!
# JSON values

A JSON value with its object members in the order in which they are written.
Two views of an object matter: `field?` looks a key up, and `canonical` sorts
the members by key and keeps the last of those that share one.
-/

namespace TreeSieve

/-- A JSON value. -/
inductive Json where
  | null
  | bool (value : Bool)
  | int (value : Int)
  | float (value : Float)
  | string (value : String)
  | array (items : List Json)
  | object (members : List (String × Json))
  deriving Inhabited

namespace Json

/-- The value of the last member with this key. -/
def lookup? (members : List (String × Json)) (key : String) : Option Json :=
  (members.reverse.find? (·.1 == key)).map (·.2)

/-- The member of an object; `none` for any other value. -/
def field? : Json → String → Option Json
  | .object members, key => lookup? members key
  | _, _ => none

/-- Insert a member into a list sorted by key; a member with the same key
gives way. -/
def insertMember (key : String) (value : Json) :
    List (String × Json) → List (String × Json)
  | [] => [(key, value)]
  | (other, kept) :: rest =>
      if key < other then (key, value) :: (other, kept) :: rest
      else if key = other then (key, value) :: rest
      else (other, kept) :: insertMember key value rest

mutual

/-- Sort the members of every object by key and keep the last one of each key. -/
def canonical : Json → Json
  | .array items => .array (canonicalItems items)
  | .object members => .object (canonicalMembers members [])
  | value => value

/-- Bring every item into canonical form. -/
def canonicalItems : List Json → List Json
  | [] => []
  | item :: rest => canonical item :: canonicalItems rest

/-- Insert members in canonical form, one after the other, into a sorted list. -/
def canonicalMembers : List (String × Json) → List (String × Json) → List (String × Json)
  | [], sorted => sorted
  | (key, value) :: rest, sorted =>
      canonicalMembers rest (insertMember key (canonical value) sorted)

end

/-- A list of texts. -/
def strings (texts : List String) : Json :=
  .array (texts.map .string)

/-- A natural number. -/
def nat (value : Nat) : Json :=
  .int value

/-- A value or null. -/
def optional (value : Option Json) : Json :=
  value.getD .null

/-- A text or null. -/
def optionalString (text : Option String) : Json :=
  optional (text.map .string)

end Json

end TreeSieve
