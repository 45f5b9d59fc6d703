import TreeSieve.Json.Reader

/-!
# Tagged records

A tagged record is an object whose member `kind` names one of several variants;
the other members are the fields of that variant.  It may also be written as an
array: the tag first, then the fields in their order.  `FieldSpec` describes a
field, and the functions below put the fields of either form into slots, one
for each field of the variant.
-/

namespace TreeSieve.Json

/-- A field of a variant: its name, the shape of its value, and the value it
has when it is left out.  Without such a value it cannot be left out. -/
structure FieldSpec (σ ν : Type) where
  name : String
  shape : σ
  absent : Option ν := none

/-- The member that holds the tag. -/
def tagKey : String := "kind"

variable {σ ν : Type}

/-! ## Fields by name -/

/-- Put the value of a member into the slot of its field.  A member without a
field is passed over, and a field cannot be given twice. -/
def fillSlot (key : String) (read : σ → Read ν) :
    List (FieldSpec σ ν) → List (Option ν) → Read (List (Option ν))
  | spec :: specs, slot :: slots =>
      if spec.name = key then
        match slot with
        | some _ => .error (.duplicateField key)
        | none => (read spec.shape).map fun value => some value :: slots
      else (fillSlot key read specs slots).map (slot :: ·)
  | _, slots => .ok slots

/-- Fill the slots that are left with what their fields have by default. -/
def closeSlots : List (FieldSpec σ ν) → List (Option ν) → Read (List ν)
  | spec :: specs, slot :: slots =>
      match slot, spec.absent with
      | some value, _ => (closeSlots specs slots).map (value :: ·)
      | none, some value => (closeSlots specs slots).map (value :: ·)
      | none, none => .error (.missingField spec.name)
  | _, _ => .ok []

/-- One empty slot for each field. -/
def emptySlots (specs : List (FieldSpec σ ν)) : List (Option ν) :=
  specs.map fun _ => none

/-- Read members in document order. -/
def fillSlots (read : σ → Json → Read ν) (specs : List (FieldSpec σ ν)) :
    List (Option ν) → List (String × Json) → Read (List (Option ν))
  | slots, [] => .ok slots
  | slots, (key, value) :: rest => do
      let slots ← fillSlot key (fun shape => read shape value) specs slots
      fillSlots read specs slots rest

/-- Read the members of an object as fields. -/
def readMembers (read : σ → Json → Read ν) (specs : List (FieldSpec σ ν))
    (members : List (String × Json)) : Read (List ν) := do
  let slots ← fillSlots read specs (emptySlots specs) members
  closeSlots specs slots

/-! ## Fields by position -/

/-- The fields that an array leaves out; `count` fields come before them. -/
def closeItems (count : Nat) : List (FieldSpec σ ν) → Read (List ν)
  | [] => .ok []
  | spec :: specs =>
      match spec.absent with
      | some value => (closeItems (count + 1) specs).map (value :: ·)
      | none => .error (.invalidLength count)

/-- Read the items of an array as fields; `count` items come before them. -/
def readItems (read : σ → Json → Read ν) (count : Nat) :
    List (FieldSpec σ ν) → List Json → Read (List ν)
  | specs, [] => closeItems count specs
  | [], items => .error (.invalidLength (count + items.length))
  | spec :: specs, item :: rest => do
      let value ← read spec.shape item
      let values ← readItems read (count + 1) specs rest
      return value :: values

/-! ## Tags -/

/-- The fields of a tagged record. -/
inductive Content where
  | members (members : List (String × Json))
  | items (items : List Json)

/-- A tag inside a value that has been read to its end: the name of a variant
or its place in the list of variants. -/
def readTag (variants : List String) : Json → Read String
  | .string name => if variants.contains name then .ok name else .error (.unknownVariant name)
  | .int place =>
      if place < 0 then .error (.invalidType (.int place))
      else (variants[place.toNat]?).elim (.error (.invalidValue (.int place))) .ok
  | value => .error (mismatch value)

/-- A tag in running text: the name of a variant. -/
def Draft.readTag (variants : List String) : Draft → Read String
  | .string name => if variants.contains name then .ok name else .error (.unknownVariant name)
  | draft => .error draft.mismatch

/-- The tag among the members of an object. -/
def findTag (variants : List String) : Option String → List (String × Json) → Read String
  | known, [] => Draft.require tagKey known
  | known, (key, value) :: rest =>
      if key = tagKey then
        match known with
        | some _ => .error (.duplicateField tagKey)
        | none => do
            let tag ← readTag variants value
            findTag variants (some tag) rest
      else findTag variants known rest

/-- The members of an object without its tag. -/
def withoutTag (members : List (String × Json)) : List (String × Json) :=
  members.filter (·.1 != tagKey)

/-- The tag and the members of an object in running text.  The tag is looked at
as soon as it comes, the other values only have to be complete. -/
def Draft.splitMembers (variants : List String) (levels : Nat) :
    Option String → List (Option String × Draft) → Read (String × List (String × Json))
  | known, [] => (Draft.require tagKey known).map fun tag => (tag, [])
  | _, (none, _) :: _ => .error .malformed
  | known, (some key, value) :: rest =>
      if key = tagKey then
        match known with
        | some _ => .error (.duplicateField tagKey)
        | none => do
            let tag ← value.readTag variants
            splitMembers variants levels (some tag) rest
      else do
        let value ← value.readJson levels
        let (tag, members) ← splitMembers variants levels known rest
        return (tag, (key, value) :: members)

/-- The tag and the fields of a tagged record in running text whose containers
are nested at most `levels` deep. -/
def Draft.readTagged (variants : List String) (levels : Nat) : Draft → Read (String × Content)
  | .object members =>
      match levels with
      | 0 => .error .malformed
      | inner + 1 => do
          let (tag, members) ← splitMembers variants inner none members
          return (tag, .members members)
  | .array items =>
      match levels, items with
      | 0, _ => .error .malformed
      | _, [] => .error (.missingField tagKey)
      | inner + 1, tag :: rest => do
          let tag ← tag.readTag variants
          let items ← rest.mapM (Draft.readJson inner)
          return (tag, .items items)
  | draft => .error draft.mismatch

end TreeSieve.Json
