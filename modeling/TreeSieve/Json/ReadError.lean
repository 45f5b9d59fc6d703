import TreeSieve.Json.Draft
import TreeSieve.Json.Printer
import TreeSieve.Text.Quoted

/-!
# Faults of JSON data

Why a text is not the data that was asked for.  A text that is not JSON at all
has one common message; every other fault says what it met.
-/

namespace TreeSieve.Json

/-- What stands in a place where something else was expected. -/
inductive Found where
  | null
  | bool (value : Bool)
  | int (value : Int)
  | float (value : Float)
  | string (value : String)
  | sequence
  | map

/-- Name what was found. -/
def Found.describe : Found → String
  | .null => "null"
  | .bool true => "boolean `true`"
  | .bool false => "boolean `false`"
  | .int value => "integer `" ++ String.ofList (spellInt value) ++ "`"
  | .float value => "floating point `" ++ floatLayout.render value ++ "`"
  | .string value => "string " ++ Quoted.render value
  | .sequence => "sequence"
  | .map => "map"

/-- What a complete value is when something else was expected. -/
def found : Json → Found
  | .null => .null
  | .bool value => .bool value
  | .int value => .int value
  | .float value => .float value
  | .string value => .string value
  | .array _ => .sequence
  | .object _ => .map

/-- Why JSON text cannot be read as the data asked for. -/
inductive ReadError where
  /-- Not JSON, or JSON without a value: numbers beyond the floats, half
  surrogate pairs, containers nested too deep, text after the value. -/
  | malformed
  | missingField (name : String)
  | duplicateField (name : String)
  | unknownVariant (name : String)
  | invalidType (found : Found)
  | invalidValue (found : Found)
  /-- An array that stands for a record has the wrong number of items. -/
  | invalidLength (count : Nat)
  | invalidRegex (source : String)

/-- The wording of an invalid regular expression. -/
def invalidRegexMessage (source : String) : String :=
  "Invalid regular expression " ++ Quoted.render source

/-- The wording of a fault. -/
def ReadError.message : ReadError → String
  | .malformed => "invalid JSON"
  | .missingField name => "missing field `" ++ name ++ "`"
  | .duplicateField name => "duplicate field `" ++ name ++ "`"
  | .unknownVariant name => "unknown variant `" ++ name ++ "`"
  | .invalidType found => "invalid type: " ++ found.describe
  | .invalidValue found => "invalid value: " ++ found.describe
  | .invalidLength count => "invalid length " ++ toString count
  | .invalidRegex source => invalidRegexMessage source

/-- The result of reading. -/
abbrev Read (α : Type) := Except ReadError α

/-- The fault of a draft that is not of the expected type. -/
def Draft.mismatch : Draft → ReadError
  | .null => .invalidType .null
  | .bool value => .invalidType (.bool value)
  | .int value => .invalidType (.int value)
  | .float value => .invalidType (.float value)
  | .string value => .invalidType (.string value)
  | .array _ => .invalidType .sequence
  | .object _ => .invalidType .map
  | .unreadable => .malformed
  | .broken => .malformed

/-- The fault of a value that is not of the expected type. -/
def mismatch (value : Json) : ReadError :=
  .invalidType (found value)

end TreeSieve.Json
