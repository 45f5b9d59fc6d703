import TreeSieve.Json.Printer
import TreeSieve.Moment
import TreeSieve.Summary

/-!
# Reports in SARIF

The interchange format for results of static analysis.  The members of every
object are sorted by key.  Each rule with a finding is described once, in the
order of first findings.
-/

namespace TreeSieve.Report

/-- The name under which the tool reports. -/
def toolName : String := "ust-matcher"

/-- The version of the tool. -/
def toolVersion : String := "0.1.0"

/-- Where the format is described. -/
def sarifSchema : String :=
  "https://raw.githubusercontent.com/oasis-tcs/sarif-spec/master/Schemata/sarif-schema-2.1.0.json"

/-- The rule with a key; of several the last. -/
def ruleFor? (rules : List Rule) (key : String) : Option Rule :=
  rules.reverse.find? (·.key == key)

/-- A text as an object of its own. -/
def message (text : String) : Json :=
  .object [("text", .string text)]

/-- The description of a rule by its key. -/
def sarifRule (rules : List Rule) (key : String) : Json :=
  match ruleFor? rules key with
  | none => .object [("id", .string key)]
  | some rule =>
      .object
        ((if rule.description = "" then []
          else [("fullDescription", message rule.description)]) ++
        [("id", .string key), ("name", .string rule.label)] ++
        (rule.cwe.toList.map fun cwe =>
          ("properties", .object [("tags", Json.strings [cwe])])) ++
        [("shortDescription", message rule.label)])

/-- The keys of findings in the order of their first appearance; those `seen`
before are left out. -/
def firstKeys : (seen : List String) → List Finding → List String
  | _, [] => []
  | seen, finding :: rest =>
      if seen.contains finding.key then firstKeys seen rest
      else finding.key :: firstKeys (finding.key :: seen) rest

/-- A path with slashes only. -/
def uri (path : String) : String :=
  path.map fun character => if character = '\\' then '/' else character

/-- A span of a finding. -/
def sarifLocation (file : SourceFile) (span : Span) : Json :=
  let place := file.lineColumns span
  .object
    [ ("physicalLocation", .object
        [ ("artifactLocation", .object
            [ ("uri", .string (uri file.path)),
              ("uriBaseId", .string "%SRCROOT%") ]),
          ("region", .object
            [ ("charLength", .nat span.length.toNat),
              ("charOffset", .nat span.start.toNat),
              ("endColumn", .nat place.last.column),
              ("endLine", .nat place.last.line),
              ("startColumn", .nat place.first.column),
              ("startLine", .nat place.first.line) ]) ]) ]

/-- What is said about a finding. -/
def findingText (rules : List Rule) (key : String) : String :=
  ((ruleFor? rules key).map Rule.label).getD ("Pattern " ++ key ++ " matched")

/-- A finding. -/
def sarifResult (rules : List Rule) (finding : Finding) : Json :=
  .object
    [ ("level", .string "warning"),
      ("locations", .array (finding.spans.map (sarifLocation finding.file))),
      ("message", message (findingText rules finding.key)),
      ("ruleId", .string finding.key) ]

/-- Something that went wrong. -/
def sarifNotification (error : String) : Json :=
  .object [("level", .string "error"), ("message", message error)]

/-- The counts of a run. -/
def sarifStats (stats : RunStats) : Json :=
  .object
    [ ("durationMs", .nat stats.durationMs),
      ("filesFailed", .nat stats.filesFailed),
      ("filesInterrupted", .nat stats.filesInterrupted),
      ("filesMatched", .nat stats.filesMatched),
      ("filesTotal", .nat stats.filesTotal),
      ("patternsLoaded", .nat stats.rulesLoaded),
      ("patternsQuarantined", .nat stats.rulesQuarantined) ]

/-- A run as SARIF. -/
def sarifRun (rules : List Rule) (times : RunTimes) (summary : Summary) : Json :=
  .object
    [ ("invocations", .array
        [ .object
            [ ("endTimeUtc", .string times.completed),
              ("executionSuccessful", .bool summary.isComplete),
              ("startTimeUtc", .string times.started),
              ("toolExecutionNotifications", .array (summary.errors.map sarifNotification)) ] ]),
      ("properties", .object [("stats", sarifStats summary.stats)]),
      ("results", .array (summary.findings.map (sarifResult rules))),
      ("tool", .object
        [ ("driver", .object
            [ ("name", .string toolName),
              ("rules", .array ((firstKeys [] summary.findings).map (sarifRule rules))),
              ("version", .string toolVersion) ]) ]) ]

/-- A report in SARIF; `rules` describe what was looked for. -/
def sarifJson (rules : List Rule) (times : RunTimes) (summary : Summary) : Json :=
  .object
    [ ("$schema", .string sarifSchema),
      ("runs", .array [sarifRun rules times summary]),
      ("version", .string "2.1.0") ]

end TreeSieve.Report
