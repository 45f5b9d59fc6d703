import TreeSieve.Language
import TreeSieve.Pattern.Display
import TreeSieve.Pattern.Record
import TreeSieve.Rule.Wildcard

/-!
# Rules

A rule is a pattern with a key, the languages and files it is meant for, and
what is said about it in reports.  A rule also keeps the text its pattern was
written in.
-/

namespace TreeSieve

/-- How the text of a rule is to be read. -/
inductive ValueFormat where
  /-- A pattern in JSON. -/
  | json
  /-- A piece of source code. -/
  | code
  deriving DecidableEq, Inhabited

namespace ValueFormat

/-- The name of a format. -/
def name : ValueFormat → String
  | json => "Json"
  | code => "Code"

/-- The format with a name, whatever its case and the blanks around it; an
unknown name stands for JSON. -/
def ofName (name : String) : ValueFormat :=
  if Case.lower (trimmed name) = "code" then code else json

end ValueFormat

/-- A pattern with its identity and the places it is meant for. -/
structure Rule where
  key : String
  /-- The name given by the author, perhaps empty. -/
  name : String
  /-- What people are shown. -/
  label : String
  languages : LanguageSet
  wildcard : Option Wildcard
  pattern : Pattern
  /-- The text the pattern was written in. -/
  value : String
  format : ValueFormat
  cwe : Option String
  description : String

namespace Rule

/-- Whether the rule is meant for a language. -/
def appliesTo (rule : Rule) (language : Language) : Bool :=
  rule.languages.contains language

/-- Whether the rule is meant for a file. -/
def appliesToFile (rule : Rule) (path : String) : Bool :=
  rule.wildcard.all (·.admits path)

end Rule

/-- A rule before its defaults are filled in. -/
structure RuleDraft where
  key : String
  name : String := ""
  label : String := ""
  languages : LanguageSet := .empty
  wildcard : Option String := none
  pattern : Pattern := .any
  value : String := ""
  format : ValueFormat := .json
  cwe : Option String := none
  description : String := ""

namespace RuleDraft

/-- Read the wildcard; an empty one is none. -/
def readWildcard (draft : RuleDraft) : Except WildcardError (Option Wildcard) :=
  match draft.wildcard.filter (· != "") with
  | none => .ok none
  | some text => (Wildcard.ofText text).map some

/-- Fill in the defaults.  Without languages the rule is meant for all that
have patterns; without a text it is written as JSON; without a label it is
shown by its name or else by its pattern. -/
def build (draft : RuleDraft) : Except WildcardError Rule := do
  let wildcard ← draft.readWildcard
  return {
    key := draft.key
    name := draft.name
    label :=
      if draft.label != "" then draft.label
      else if draft.name != "" then draft.name
      else draft.pattern.display
    languages := if draft.languages.isEmpty then .patternLanguages else draft.languages
    wildcard
    pattern := draft.pattern
    value := if draft.value = "" then draft.pattern.render else draft.value
    format := if draft.value = "" then .json else draft.format
    cwe := draft.cwe
    description := draft.description }

end RuleDraft

end TreeSieve
