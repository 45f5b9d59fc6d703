import TreeSieve.CommandLine.Arguments
import TreeSieve.Settings

/-!
# Commands

What the tool can be asked to do: search files, list rules, or check a file of
rules.  Options of a command are changes of the settings.
-/

namespace TreeSieve.CommandLine

/-- What to do. -/
inductive Command where
  /-- Search the files of the inputs and report. -/
  | search (inputs : List String) (changes : List Settings.Change)
  /-- List the rules. -/
  | listRules (changes : List Settings.Change)
  /-- Load a file of rules and report the records that are none. -/
  | validate (path : String)

/-- A whole command line. -/
structure Invocation where
  /-- The file with the settings. -/
  settingsPath : Option String
  command : Command

/-! ## Options -/

/-- Whether a text can be a path. -/
def isPath (text : String) : Bool :=
  text != ""

/-- A number of 64 bits; a plus sign may stand in front. -/
def readCount? (text : String) : Option UInt64 :=
  let digits := match text.toList with
    | '+' :: digits => digits
    | digits => digits
  let value := digits.foldl (fun value digit => value * 10 + (digit.toNat - '0'.toNat)) 0
  if digits.isEmpty || !digits.all Char.isDigit || UInt64.size ≤ value then none
  else some (UInt64.ofNat value)

/-- Asks for help. -/
def helpOption : OptionSpec :=
  { name := "help", letter := some 'h', arity := .halts .help }

/-- The options in front of the command. -/
def frontOptions : List OptionSpec :=
  [ { name := "verbose", letter := some 'v', arity := .counted },
    { name := "quiet", letter := some 'q' },
    { name := "config", letter := some 'c', arity := .one, accepts := isPath },
    { name := "version", letter := some 'V', arity := .halts .version },
    helpOption ]

/-- The options that say where rules come from. -/
def ruleOptions : List OptionSpec :=
  [ { name := "patterns", arity := .many, accepts := isPath },
    { name := "no-builtin" },
    helpOption ]

/-- The options of a search. -/
def searchOptions : List OptionSpec :=
  ruleOptions ++
  [ { name := "ust", arity := .many, accepts := isPath },
    { name := "all-alternatives" },
    { name := "nonterminal-spans" },
    { name := "languages", arity := .one },
    { name := "pattern-ids", arity := .one },
    { name := "threads", arity := .one, accepts := fun text => (readCount? text).isSome },
    { name := "timeout-ms", arity := .one, accepts := fun text => (readCount? text).isSome },
    { name := "format", letter := some 'f', arity := .one,
      accepts := fun text => (OutputFormat.ofName? text).isSome },
    { name := "output", letter := some 'o', arity := .one, accepts := isPath },
    { name := "no-color" } ]

/-! ## Changes of settings -/

/-- The languages that a list with commas names; unknown names are left out. -/
def readLanguages (list : String) : List Language :=
  (commaList list).filterMap Language.ofName?

/-- A change if a flag was given. -/
def flagChange (reading : Reading) (name : String) (change : Settings.Change) :
    List Settings.Change :=
  if reading.has name then [change] else []

/-- A change by the value of an option that was given. -/
def valueChange (reading : Reading) (name : String)
    (change? : String → Option Settings.Change) : List Settings.Change :=
  ((reading.value? name).bind change?).toList

/-- The changes that say where rules come from. -/
def ruleChanges (reading : Reading) : List Settings.Change :=
  (reading.values "patterns").map .rulePath ++ flagChange reading "no-builtin" (.builtin false)

/-- The changes for a search. -/
def searchChanges (reading : Reading) : List Settings.Change :=
  ruleChanges reading ++
  flagChange reading "all-alternatives" (.findAll true) ++
  flagChange reading "nonterminal-spans" (.nonterminalSpans true) ++
  valueChange reading "languages" (fun list => some (.languages (readLanguages list))) ++
  valueChange reading "pattern-ids" (fun list => some (.ruleKeys (commaList list))) ++
  valueChange reading "threads" (fun text => (readCount? text).map .threads) ++
  valueChange reading "timeout-ms" (fun text => (readCount? text).map .timeoutMs) ++
  valueChange reading "format" (fun text => (OutputFormat.ofName? text).map .format) ++
  valueChange reading "output" (fun path => some (.outputPath path)) ++
  flagChange reading "no-color" (.colors false)

/-! ## Reading -/

/-- Read the words of a search; it needs an input and no operands. -/
def readSearch (words : List String) : Except Halt Command := do
  let reading ← Reading.readAll searchOptions words
  if !reading.operands.isEmpty || !reading.has "ust" then throw .usage
  return .search (reading.values "ust") (searchChanges reading)

/-- Read the words of a listing of rules. -/
def readListing (words : List String) : Except Halt Command := do
  let reading ← Reading.readAll ruleOptions words
  if !reading.operands.isEmpty then throw .usage
  return .listRules (ruleChanges reading)

/-- Read the words of a check; its operand is the path of a file of rules. -/
def readValidation (words : List String) : Except Halt Command := do
  let reading ← Reading.readAll [helpOption] words
  match reading.operands with
  | [path] => if isPath path then return .validate path else throw .usage
  | _ => throw .usage

/-- Read a whole command line. -/
def readInvocation (words : List String) : Except Halt Invocation := do
  let (front, rest) ← Reading.readFront frontOptions {} words
  if front.operandsOnly then throw .usage
  let command ←
    match front.operands with
    | ["match"] => readSearch rest
    | ["patterns"] => readListing rest
    | ["validate"] => readValidation rest
    | ["help"] => throw .help
    | _ => throw .usage
  return ⟨front.value? "config", command⟩

end TreeSieve.CommandLine
