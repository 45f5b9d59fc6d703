import TreeSieve.Failure
import TreeSieve.Rule.Basic

/-!
# Records of rules

A record is the form in which rules are written and kept.  Reading a record is
tolerant: every object is one, whatever its members hold.  Only turning it into
a rule can fail.
-/

namespace TreeSieve

open Json (Read Draft)

/-- A rule as it is written down. -/
structure Record where
  key : String
  name : String
  languages : LanguageSet
  wildcard : String
  value : String
  cwe : String
  description : String
  format : ValueFormat
  deriving DecidableEq

/-- A reader of source snippets for a set of languages. -/
abbrev SnippetReader := String → LanguageSet → Except RuleFault Pattern

namespace Record

/-! ## Reading -/

/-- The members of a record in their order. -/
def fieldNames : List String :=
  ["Key", "Name", "Languages", "FilenameWildcard", "Value", "CweId", "Description", "DataFormat"]

/-- A text as it is, a number or truth value as JSON spells it, and nothing for
anything else. -/
def looseText : Option Json → String
  | some (.string text) => text
  | some (.bool value) => Json.render (.bool value)
  | some (.int value) => Json.render (.int value)
  | some (.float value) => Json.render (.float value)
  | _ => ""

/-- The names of languages: a list of them, or one text with commas.  Names
that are not texts count as unknown. -/
def languageNames : Option Json → List (Option String)
  | none => []
  | some .null => []
  | some (.array items) =>
      items.map fun
        | .string name => some name
        | _ => none
  | some (.string list) => (commaList list).map some
  | some _ => [none]

/-- The languages of a record: all that have patterns if none is named, else
those of the named ones that are known. -/
def readLanguages (value : Option Json) : LanguageSet :=
  match languageNames value with
  | [] => .patternLanguages
  | names => .ofList (names.filterMap (·.bind Language.ofName?))

/-- The record with these members. -/
def ofFields (field? : String → Option Json) : Record where
  key := looseText (field? "Key")
  name := looseText (field? "Name")
  languages := readLanguages (field? "Languages")
  wildcard := looseText (field? "FilenameWildcard")
  value := looseText (field? "Value")
  cwe := looseText (field? "CweId")
  description := looseText (field? "Description")
  format := ValueFormat.ofName (looseText (field? "DataFormat"))

/-- The wording for a value that is no record. -/
def notARecord (value : Json) : String :=
  "expected a pattern object, found " ++ value.canonical.render

/-- The record in a JSON value; anything but an object is refused. -/
def ofJson : Json → Except String Record
  | .object members => .ok (ofFields (Json.lookup? members))
  | value => .error (notARecord value)

/-- Read the members of a record in running text; a member given twice is a
fault. -/
def readMembers (levels : Nat) (members : List (Option String × Draft)) :
    Read (List (String × Json)) :=
  Draft.foldMembers (fun found key value => do
      if !fieldNames.contains key then
        value.skip
        return found
      else if found.any (·.1 == key) then throw (.duplicateField key)
      else
        let value ← value.readJson levels
        return found ++ [(key, value)])
    [] members

/-- Read the items of an array that stands for a record. -/
def readItems (levels : Nat) (items : List Draft) : Read (List (String × Json)) := do
  let values ← (items.take fieldNames.length).mapM (Draft.readJson levels)
  Draft.requireEnd (items.drop fieldNames.length)
  return fieldNames.zip values

/-- Read a record: an object, or an array of its members in their order. -/
def ofDraft : Draft → Read Record
  | .object members => do
      return ofFields (Json.lookup? (← readMembers (Draft.maxDepth - 1) members))
  | .array items => do
      return ofFields (Json.lookup? (← readItems (Draft.maxDepth - 1) items))
  | draft => .error draft.mismatch

/-- Read a record from a whole text. -/
def ofText (text : String) : Read Record :=
  Json.readText ofDraft text

/-! ## Writing -/

/-- A record as JSON. -/
def toJson (record : Record) : Json :=
  .object
    [ ("Key", .string record.key),
      ("Name", .string record.name),
      ("Languages", Json.strings record.languages.tags),
      ("FilenameWildcard", .string record.wildcard),
      ("Value", .string record.value),
      ("CweId", .string record.cwe),
      ("Description", .string record.description),
      ("DataFormat", .string record.format.name) ]

/-! ## Rules -/

/-- The record of a rule, in the format it was written in. -/
def ofRule (rule : Rule) : Record where
  key := rule.key
  name := rule.name
  languages := rule.languages
  wildcard := (rule.wildcard.map Wildcard.text).getD ""
  value := rule.value
  cwe := rule.cwe.getD ""
  description := rule.description
  format := rule.format

/-- Read the pattern of a record. -/
def readPattern (snippets : Option SnippetReader) (record : Record) : Except RuleFault Pattern :=
  match record.format, snippets with
  | .json, _ => (Pattern.ofText record.value).mapError .unreadablePattern
  | .code, some read => read record.value record.languages
  | .code, none =>
      .error (.unsupportedFormat (record.format.name ++ " (no snippet parser registered)"))

/-- The draft of the rule that a record describes. -/
def draft (record : Record) (pattern : Pattern) : RuleDraft where
  key := record.key
  name := record.name
  languages := record.languages
  wildcard := some record.wildcard
  pattern := pattern
  value := record.value
  format := record.format
  cwe := if record.cwe = "" then none else some record.cwe
  description := record.description

/-- What keeps a record from being a rule, or the rule. -/
def build (snippets : Option SnippetReader) (record : Record) : Except RuleFault Rule := do
  if trimmed record.key = "" then throw .missingKey
  if record.languages.isEmpty then throw .noKnownLanguage
  let pattern ← record.readPattern snippets
  (record.draft pattern).build.mapError .invalidWildcard

/-- The rule that a record describes. -/
def toRule (snippets : Option SnippetReader) (record : Record) : Except Failure Rule :=
  (record.build snippets).mapError (.ruleLoad record.key)

end Record

end TreeSieve
