import TreeSieve.Json.ReadError

/-!
# Readers of simple data

Readers come in two kinds.  Those on `Json` work on values that have been read
to their end.  Those on `Draft` work on text as it goes, so they report a wrong
value before they notice that the text breaks off behind it.
-/

namespace TreeSieve.Json

/-! ## Complete values -/

/-- A text. -/
def readString : Json → Read String
  | .string value => .ok value
  | value => .error (mismatch value)

/-- A truth value. -/
def readBool : Json → Read Bool
  | .bool value => .ok value
  | value => .error (mismatch value)

/-- An integer between two bounds. -/
def readInt (least greatest : Int) : Json → Read Int
  | .int value =>
      if least ≤ value ∧ value ≤ greatest then .ok value
      else .error (.invalidValue (.int value))
  | value => .error (mismatch value)

/-- A signed 64-bit integer. -/
def readInt64 (value : Json) : Read Int64 :=
  (readInt Int64.minValue.toInt Int64.maxValue.toInt value).map Int64.ofInt

/-- An unsigned 32-bit integer. -/
def readUInt32 (value : Json) : Read UInt32 :=
  (readInt 0 (UInt32.size - 1) value).map fun number => UInt32.ofNat number.toNat

/-- An unsigned 64-bit integer. -/
def readUInt64 (value : Json) : Read UInt64 :=
  (readInt 0 (UInt64.size - 1) value).map fun number => UInt64.ofNat number.toNat

/-- The float nearest to an integer of 64 bits. -/
def floatOfInt (value : Int) : Float :=
  if value < 0 then -(UInt64.ofNat value.natAbs).toFloat else (UInt64.ofNat value.natAbs).toFloat

/-- A float; integers count as floats. -/
def readFloat : Json → Read Float
  | .float value => .ok value
  | .int value => .ok (floatOfInt value)
  | value => .error (mismatch value)

/-- Null or a value. -/
def readOption {α : Type} (read : Json → Read α) : Json → Read (Option α)
  | .null => .ok none
  | value => (read value).map some

/-- An array of values. -/
def readList {α : Type} (read : Json → Read α) : Json → Read (List α)
  | .array items => items.mapM read
  | value => .error (mismatch value)

/-- One of several names, or an object with that name as its only key and
nothing as its value. -/
def readName {α : Type} (ofName? : String → Option α) : Json → Read α
  | .string name => (ofName? name).elim (.error (.unknownVariant name)) .ok
  | .object [(name, value)] =>
      match ofName? name, value with
      | none, _ => .error (.unknownVariant name)
      | some found, .null => .ok found
      | some found, .object [] => .ok found
      | some _, other => .error (mismatch other)
  | .object _ => .error (.invalidValue .map)
  | value => .error (mismatch value)

/-! ## Text as it goes -/

namespace Draft

/-- A complete value whose containers are nested at most `levels` deep. -/
def readJson (levels : Nat) (draft : Draft) : Read Json :=
  (draft.toJson? levels).elim (.error .malformed) .ok

/-- Pass over a value that nobody asks for. -/
def skip (draft : Draft) : Read Unit :=
  if draft.isSpelled then .ok () else .error .malformed

/-- A text. -/
def readString : Draft → Read String
  | .string value => .ok value
  | draft => .error draft.mismatch

/-- A natural number up to a bound. -/
def readNat (greatest : Nat) : Draft → Read Nat
  | .int value =>
      if 0 ≤ value ∧ value ≤ greatest then .ok value.toNat
      else .error (.invalidValue (.int value))
  | draft => .error draft.mismatch

/-- An unsigned 32-bit integer. -/
def readUInt32 (draft : Draft) : Read UInt32 :=
  (readNat (UInt32.size - 1) draft).map UInt32.ofNat

/-- An unsigned 64-bit integer. -/
def readUInt64 (draft : Draft) : Read UInt64 :=
  (readNat (UInt64.size - 1) draft).map UInt64.ofNat

/-- An array of values. -/
def readList {α : Type} (read : Draft → Read α) : Draft → Read (List α)
  | .array items => items.mapM read
  | draft => .error draft.mismatch

/-- One of several names, or an object with that name as its only key and null
as its value. -/
def readName {α : Type} (ofName? : String → Option α) : Draft → Read α
  | .string name => (ofName? name).elim (.error (.unknownVariant name)) .ok
  | .object ((some name, value) :: rest) =>
      match ofName? name, value with
      | none, _ => .error (.unknownVariant name)
      | some found, .null => if rest.isEmpty then .ok found else .error .malformed
      | some _, other => .error other.mismatch
  | _ => .error .malformed

/-- Walk over the members of an object in document order.  `step` takes the
state, the key and the value of each one. -/
def foldMembers {σ : Type} (step : σ → String → Draft → Read σ) :
    σ → List (Option String × Draft) → Read σ
  | state, [] => .ok state
  | _, (none, _) :: _ => .error .malformed
  | state, (some key, value) :: rest => do
      let next ← step state key value
      foldMembers step next rest

/-- Read a field that has not been read before. -/
def readOnce {α : Type} (name : String) (known : Option α) (read : Draft → Read α)
    (value : Draft) : Read (Option α) :=
  match known with
  | some _ => .error (.duplicateField name)
  | none => (read value).map some

/-- A field that must be present. -/
def require {α : Type} (name : String) (known : Option α) : Read α :=
  known.elim (.error (.missingField name)) .ok

/-- An item of an array that stands for a record; `none` when the array has
ended before it. -/
def readItem {α : Type} (read : Draft → Read α) : List Draft → Read (Option α × List Draft)
  | [] => .ok (none, [])
  | item :: rest => (read item).map fun value => (some value, rest)

/-- An item that must be present; `count` items come before it. -/
def requireItem {α : Type} (count : Nat) (read : Draft → Read α) (items : List Draft) :
    Read (α × List Draft) := do
  match ← readItem read items with
  | (some value, rest) => return (value, rest)
  | (none, _) => throw (.invalidLength count)

/-- An array that stands for a record must end here. -/
def requireEnd (items : List Draft) : Read Unit :=
  if items.isEmpty then .ok () else .error .malformed

end Draft

/-- Read a whole text: nothing may follow the value. -/
def readText {α : Type} (read : Draft → Read α) (text : String) : Read α := do
  let text := draftOf text
  let value ← read text.draft
  if text.trailing then throw .malformed
  return value

/-- Read a whole text as a JSON value. -/
def parse (text : String) : Read Json :=
  readText (Draft.readJson Draft.maxDepth) text

end TreeSieve.Json
