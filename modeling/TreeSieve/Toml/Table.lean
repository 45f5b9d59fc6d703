import TreeSieve.Json.Value

/-!
# Tables of TOML

A document is a table that grows line by line.  Each table remembers how it
came about, because a table may be defined only once: a header may still define
a table that was only passed through on the way to another one, and dotted keys
may only extend tables that dotted keys have made.
-/

namespace TreeSieve.Toml

/-- How a table came about. -/
inductive Origin where
  /-- Defined by a header, or a whole document. -/
  | header
  /-- Passed through on the way to the table of another header. -/
  | passed
  /-- Made by a dotted key. -/
  | dotted
  deriving DecidableEq

/-- What a key holds. -/
inductive Item where
  | value (value : Json)
  | table (origin : Origin) (entries : List (String × Item))
  /-- The tables of a repeated header, the last one first. -/
  | tables (items : List (List (String × Item)))

/-- The entries of a table. -/
abbrev Entries := List (String × Item)

namespace Entries

/-- What a key holds. -/
def get? (entries : Entries) (key : String) : Option Item :=
  (entries.find? (·.1 == key)).map (·.2)

/-- Let a key hold something. -/
def put (key : String) (item : Item) : Entries → Entries
  | [] => [(key, item)]
  | (other, kept) :: rest =>
      if other = key then (key, item) :: rest else (other, kept) :: put key item rest

/-- Change the entries of the table that a path of header keys leads to. -/
def alongHeader (change : Entries → Option Entries) : List String → Entries → Option Entries
  | [], entries => change entries
  | key :: path, entries =>
      match entries.get? key with
      | none => do
          let inner ← alongHeader change path []
          return entries.put key (.table .passed inner)
      | some (.value _) => none
      | some (.table origin inner) => do
          return entries.put key (.table origin (← alongHeader change path inner))
      | some (.tables []) => none
      | some (.tables (last :: before)) => do
          return entries.put key (.tables ((← alongHeader change path last) :: before))

/-- Let a key hold something for the first time. -/
def define (key : String) (item : Item) (entries : Entries) : Option Entries :=
  match entries.get? key with
  | none => some (entries.put key item)
  | some _ => none

/-- Define a dotted key.  The table that receives it has to be one that dotted
keys have made; on the way to it the key may pass through tables that headers
only passed through, and through the last table of a repeated header. -/
def defineDotted (item : Item) : List String → (key : String) → Entries → Option Entries
  | [], key, entries => entries.define key item
  | first :: path, key, entries =>
      match entries.get? first with
      | none => do
          return entries.put first (.table .dotted (← defineDotted item path key []))
      | some (.table .dotted inner) => do
          return entries.put first (.table .dotted (← defineDotted item path key inner))
      | some (.table .passed inner) =>
          if path.isEmpty then none
          else do return entries.put first (.table .passed (← defineDotted item path key inner))
      | some (.tables (last :: before)) =>
          if path.isEmpty then none
          else do
            return entries.put first (.tables ((← defineDotted item path key last) :: before))
      | some _ => none

/-- Define the table of a header.  A table that was only passed through so far
may be defined. -/
def openTable (key : String) (entries : Entries) : Option Entries :=
  match entries.get? key with
  | none => some (entries.put key (.table .header []))
  | some (.table .passed inner) => some (entries.put key (.table .header inner))
  | some _ => none

/-- Begin a further table of a repeated header. -/
def openNext (key : String) (entries : Entries) : Option Entries :=
  match entries.get? key with
  | none => some (entries.put key (.tables [[]]))
  | some (.tables items) => some (entries.put key (.tables ([] :: items)))
  | some _ => none

end Entries

mutual
/-- An item as a JSON value. -/
def Item.toJson : Item → Json
  | .value value => value
  | .table _ entries => .object (entriesToJson entries)
  | .tables items => .array (tablesToJson items [])

/-- The entries of a table as the members of an object. -/
def entriesToJson : List (String × Item) → List (String × Json)
  | [] => []
  | (key, item) :: rest => (key, item.toJson) :: entriesToJson rest

/-- Tables in reverse order as objects, put in front of `behind`. -/
def tablesToJson : List (List (String × Item)) → (behind : List Json) → List Json
  | [], behind => behind
  | entries :: rest, behind => tablesToJson rest (.object (entriesToJson entries) :: behind)
end

end TreeSieve.Toml
