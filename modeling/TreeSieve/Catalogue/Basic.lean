import TreeSieve.Catalogue.Record

/-!
# Catalogues of rules

A catalogue holds rules by their keys, in the order in which the keys first
came.  Records that do not become rules are left out and reported.
-/

namespace TreeSieve

/-- Rules in the order of their keys' first appearance. -/
structure Catalogue where
  rules : List Rule := []

/-- What came of loading records. -/
structure LoadReport where
  loaded : Nat := 0
  skipped : Nat := 0
  errors : List String := []

/-- Both reports, one after the other. -/
def LoadReport.append (first second : LoadReport) : LoadReport where
  loaded := first.loaded + second.loaded
  skipped := first.skipped + second.skipped
  errors := first.errors ++ second.errors

namespace Catalogue

/-- Put a rule in the place of the one with its key, or behind all others. -/
def insert (rule : Rule) : List Rule → List Rule
  | [] => [rule]
  | other :: rest => if other.key = rule.key then rule :: rest else other :: insert rule rest

/-- Add a rule. -/
def add (catalogue : Catalogue) (rule : Rule) : Catalogue :=
  ⟨insert rule catalogue.rules⟩

/-- Add several rules. -/
def addAll (catalogue : Catalogue) (rules : List Rule) : Catalogue :=
  rules.foldl add catalogue

/-- The rule with a key. -/
def get? (catalogue : Catalogue) (key : String) : Option Rule :=
  catalogue.rules.find? (·.key == key)

/-- The number of rules. -/
def size (catalogue : Catalogue) : Nat :=
  catalogue.rules.length

/-- The keys of the rules. -/
def keys (catalogue : Catalogue) : List String :=
  catalogue.rules.map Rule.key

/-- The rules meant for a language, and with one of the keys if keys are given. -/
def select (catalogue : Catalogue) (language : Language) (keys : Option (List String)) :
    List Rule :=
  catalogue.rules.filter fun rule =>
    rule.appliesTo language && keys.all (·.contains rule.key)

/-- The records of all rules. -/
def records (catalogue : Catalogue) : List Record :=
  catalogue.rules.map Record.ofRule

/-! ## Loading -/

/-- Add the rules of those records that describe one. -/
def addRecords (snippets : Option SnippetReader) :
    Catalogue → List Record → Catalogue × LoadReport
  | catalogue, [] => (catalogue, {})
  | catalogue, record :: rest =>
      match record.toRule snippets with
      | .ok rule =>
          let (catalogue, report) := addRecords snippets (catalogue.add rule) rest
          (catalogue, LoadReport.append { loaded := 1 } report)
      | .error failure =>
          let (catalogue, report) := addRecords snippets catalogue rest
          (catalogue, LoadReport.append { skipped := 1, errors := [failure.message] } report)

/-- The records among values, and a report of the values that are none;
`index` values come before them. -/
def readRecords : (index : Nat) → List Json → List Record × LoadReport
  | _, [] => ([], {})
  | index, value :: rest =>
      let (records, report) := readRecords (index + 1) rest
      match Record.ofJson value with
      | .ok record => (record :: records, report)
      | .error reason =>
          let message :=
            "Pattern record #" ++ toString index ++ " could not be read: " ++ reason
          (records, LoadReport.append { skipped := 1, errors := [message] } report)

/-- Add the rules of those values that describe one. -/
def addValues (snippets : Option SnippetReader) (catalogue : Catalogue) (values : List Json) :
    Catalogue × LoadReport :=
  let (records, unreadable) := readRecords 0 values
  let (catalogue, report) := addRecords snippets catalogue records
  (catalogue, unreadable.append report)

/-- Read a text that holds an array of values. -/
def readValues (text : String) : Json.Read (List Json) :=
  Json.readText
    (fun draft => draft.readList (Json.Draft.readJson (Json.Draft.maxDepth - 1))) text

/-- Load a text that holds an array of records into the catalogue at hand. -/
def loadText (snippets : Option SnippetReader) (text : String) :
    ExceptT Failure (StateM Catalogue) LoadReport := do
  let values ← (readValues text).mapError Failure.serialization
  modifyGet fun catalogue => (catalogue.addValues snippets values).swap

/-- Load a text that holds an array of records: the catalogue that is then at hand, with
the report. -/
def load (snippets : Option SnippetReader) (catalogue : Catalogue) (text : String) :
    Except Failure (Catalogue × LoadReport) :=
  let (outcome, next) := ((loadText snippets text).run.run catalogue).run
  outcome.map (next, ·)

/-- All records as text. -/
def render (catalogue : Catalogue) : String :=
  Json.render (.array (catalogue.records.map Record.toJson))

end Catalogue

end TreeSieve
