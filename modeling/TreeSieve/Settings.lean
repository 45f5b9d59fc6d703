import TreeSieve.Failure
import TreeSieve.Json.Reader
import TreeSieve.Toml.Reader
import TreeSieve.Trail

/-!
# Settings

What a run looks for, where its rules come from, how it divides its work and
how it reports.  Settings are read from TOML or JSON; every part may be left
out, and unknown parts are ignored.
-/

namespace TreeSieve

open Json (Read)

/-- The form of a report. -/
inductive OutputFormat where
  | text
  | json
  | sarif
  deriving DecidableEq, Inhabited

namespace OutputFormat

/-- The name of a form. -/
def name : OutputFormat → String
  | text => "text"
  | json => "json"
  | sarif => "sarif"

/-- The form with a name. -/
def ofName? (name : String) : Option OutputFormat :=
  [text, json, sarif].find? (·.name == name)

end OutputFormat

/-- What to look for. -/
structure MatchSettings where
  findAll : Bool := false
  nonterminalSpans : Bool := false
  /-- The languages to search; none means all. -/
  languages : List Language := []
  /-- The keys of the rules to try; all rules if not given. -/
  ruleKeys : Option (List String) := none

/-- Where rules come from. -/
structure SourceSettings where
  paths : List String := []
  builtin : Bool := true

/-- How work is divided. -/
structure WorkSettings where
  /-- The number of workers; zero means one for each processor. -/
  threads : UInt64 := 0
  /-- The time for one file; zero means without limit. -/
  timeoutMs : UInt64 := 0
  /-- How many files are searched in one go. -/
  batchSize : UInt64 := 64

/-- How findings are reported. -/
structure OutputSettings where
  format : OutputFormat := .text
  /-- The file that receives the report; without it the report is printed. -/
  path : Option String := none
  colors : Bool := true

/-- All settings of a run. -/
structure Settings where
  matching : MatchSettings := {}
  sources : SourceSettings := {}
  work : WorkSettings := {}
  output : OutputSettings := {}
  deriving Inhabited

namespace MatchSettings

/-- The switches of a search. -/
def options (settings : MatchSettings) : Options :=
  ⟨settings.findAll, settings.nonterminalSpans⟩

/-- Whether files of a language are searched. -/
def accepts (settings : MatchSettings) (language : Language) : Bool :=
  settings.languages.isEmpty || settings.languages.contains language

end MatchSettings

namespace WorkSettings

/-- The size of a batch: at least one. -/
def batch (settings : WorkSettings) : Nat :=
  max 1 settings.batchSize.toNat

/-- The time for one file, if it is limited. -/
def timeout? (settings : WorkSettings) : Option UInt64 :=
  if settings.timeoutMs = 0 then none else some settings.timeoutMs

end WorkSettings

namespace Settings

/-- Refuse settings with which no rule would be tried. -/
def validate (settings : Settings) : Except SettingsFault Unit :=
  if settings.matching.ruleKeys.any (·.all (trimmed · == "")) then .error .noRuleKeys
  else if !settings.sources.builtin && settings.sources.paths.isEmpty then .error .noRuleSource
  else .ok ()

/-! ## Changes -/

/-- One change of settings. -/
inductive Change where
  | findAll (enabled : Bool)
  | nonterminalSpans (enabled : Bool)
  | languages (languages : List Language)
  | ruleKeys (keys : List String)
  | rulePath (path : String)
  | builtin (enabled : Bool)
  | threads (count : UInt64)
  | timeoutMs (time : UInt64)
  | batchSize (size : UInt64)
  | format (format : OutputFormat)
  | outputPath (path : String)
  | colors (enabled : Bool)

/-- Make one change.  A path to rules comes on top of those given before; every
other change replaces what was set. -/
def change (settings : Settings) : Change → Settings
  | .findAll enabled => { settings with matching.findAll := enabled }
  | .nonterminalSpans enabled => { settings with matching.nonterminalSpans := enabled }
  | .languages languages => { settings with matching.languages := languages }
  | .ruleKeys keys => { settings with matching.ruleKeys := some keys }
  | .rulePath path => { settings with sources.paths := settings.sources.paths ++ [path] }
  | .builtin enabled => { settings with sources.builtin := enabled }
  | .threads count => { settings with work.threads := count }
  | .timeoutMs time => { settings with work.timeoutMs := time }
  | .batchSize size => { settings with work.batchSize := size }
  | .format format => { settings with output.format := format }
  | .outputPath path => { settings with output.path := some path }
  | .colors enabled => { settings with output.colors := enabled }

/-- Make several changes, one after the other. -/
def changeAll (settings : Settings) (changes : List Change) : Settings :=
  changes.foldl change settings

/-! ## Reading -/

/-- The members of an object under their names.  An array gives its items the
names in their order; it needs at least `least` of them, and items without a
name are ignored. -/
def readFields (names : List String) (least : Nat) : Json → Read (List (String × Json))
  | .object members => .ok members
  | .array items =>
      if items.length < least then .error (.invalidLength items.length)
      else .ok (names.zip items)
  | value => .error (Json.mismatch value)

/-- Read one member; its default stands where it is missing. -/
def readField {α : Type} (fields : List (String × Json)) (name : String) (default : α)
    (read : Json → Read α) : Read α :=
  match Json.lookup? fields name with
  | none => .ok default
  | some value => read value

/-- Read what to look for. -/
def readMatch (value : Json) : Read MatchSettings := do
  let fields ← readFields
    ["find_all_alternatives", "include_nonterminal_text_spans", "languages", "pattern_ids"]
    0 value
  return {
    findAll := ← readField fields "find_all_alternatives" false Json.readBool
    nonterminalSpans := ← readField fields "include_nonterminal_text_spans" false Json.readBool
    languages :=
      ← readField fields "languages" [] (Json.readList (Json.readName Language.ofTag?))
    ruleKeys :=
      ← readField fields "pattern_ids" none (Json.readOption (Json.readList Json.readString)) }

/-- Read where rules come from. -/
def readSources (value : Json) : Read SourceSettings := do
  let fields ← readFields ["paths", "builtin"] 0 value
  return {
    paths := ← readField fields "paths" [] (Json.readList Json.readString)
    builtin := ← readField fields "builtin" true Json.readBool }

/-- Read how work is divided. -/
def readWork (value : Json) : Read WorkSettings := do
  let fields ← readFields ["threads", "file_timeout_ms", "batch_size"] 0 value
  return {
    threads := ← readField fields "threads" 0 Json.readUInt64
    timeoutMs := ← readField fields "file_timeout_ms" 0 Json.readUInt64
    batchSize := ← readField fields "batch_size" 64 Json.readUInt64 }

/-- Read how findings are reported. -/
def readOutput (value : Json) : Read OutputSettings := do
  let fields ← readFields ["format", "output_path", "colors"] 2 value
  return {
    format := ← readField fields "format" .text (Json.readName OutputFormat.ofName?)
    path := ← readField fields "output_path" none (Json.readOption Json.readString)
    colors := ← readField fields "colors" true Json.readBool }

/-- Read all settings. -/
def ofJson (value : Json) : Read Settings := do
  let fields ← readFields ["matching", "patterns", "concurrency", "output"] 0 value
  return {
    matching := ← readField fields "matching" {} readMatch
    sources := ← readField fields "patterns" {} readSources
    work := ← readField fields "concurrency" {} readWork
    output := ← readField fields "output" {} readOutput }

/-- Read settings from a TOML text. -/
def ofToml (text : String) : Except Failure Settings :=
  match Toml.parse text with
  | none => .error .toml
  | some value => (ofJson value).mapError fun _ => .toml

/-- Read settings from a TOML file. -/
def load {m : Type → Type} [Monad m] (disk : Disk m) (path : String) :
    m (Except Failure Settings) := do
  match ← disk.read path with
  | .error fault => return .error (.disk fault)
  | .ok text => return ofToml text

/-! ## Writing -/

/-- All settings as JSON. -/
def toJson (settings : Settings) : Json :=
  .object
    [ ("matching", .object
        [ ("find_all_alternatives", .bool settings.matching.findAll),
          ("include_nonterminal_text_spans", .bool settings.matching.nonterminalSpans),
          ("languages", Json.strings (settings.matching.languages.map Language.tag)),
          ("pattern_ids", Json.optional (settings.matching.ruleKeys.map Json.strings)) ]),
      ("patterns", .object
        [ ("paths", Json.strings settings.sources.paths),
          ("builtin", .bool settings.sources.builtin) ]),
      ("concurrency", .object
        [ ("threads", .nat settings.work.threads.toNat),
          ("file_timeout_ms", .nat settings.work.timeoutMs.toNat),
          ("batch_size", .nat settings.work.batchSize.toNat) ]),
      ("output", .object
        [ ("format", .string settings.output.format.name),
          ("output_path", Json.optionalString settings.output.path),
          ("colors", .bool settings.output.colors) ]) ]

end Settings

end TreeSieve
