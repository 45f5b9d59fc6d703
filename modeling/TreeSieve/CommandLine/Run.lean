import TreeSieve.CommandLine.Command
import TreeSieve.Files.Inputs
import TreeSieve.Report.Basic
import TreeSieve.Scanner

/-!
# Running commands

What a command line prints, writes and answers to the system.
-/

namespace TreeSieve.CommandLine

/-- What a command needs from its surroundings. -/
structure Surroundings (m : Type → Type) where
  disk : Disk m
  /-- The present moment. -/
  now : m Moment
  /-- How reports put the time of a run. -/
  times : Moment → Moment → RunTimes := RunTimes.between

/-- What comes of a command. -/
structure Result where
  /-- Zero, or a number that tells the kind of failure. -/
  exit : Nat := 0
  /-- What is printed. -/
  output : String := ""
  /-- Why the command failed. -/
  error : Option String := none

/-- What comes of a command that fails. -/
def Result.failure (message : String) : Result where
  exit := 1
  error := some message

/-- What is printed about the options. -/
def usageText : String :=
  "Usage: ust-matcher [-v] [-q] [-c FILE] COMMAND\n\n" ++
  "Commands:\n" ++
  "  match --ust PATH... [--patterns FILE...] [--no-builtin] [--all-alternatives]\n" ++
  "        [--nonterminal-spans] [--languages LIST] [--pattern-ids LIST] [--threads N]\n" ++
  "        [--timeout-ms N] [-f text|json|sarif] [-o FILE] [--no-color]\n" ++
  "  patterns [--patterns FILE...] [--no-builtin]\n" ++
  "  validate FILE\n"

/-- What comes of a command line that is not run. -/
def Result.ofHalt : Halt → Result
  | .usage => { exit := 2 }
  | .version => { output := Report.toolName ++ " " ++ Report.toolVersion ++ "\n" }
  | .help => { output := usageText }

variable {m : Type → Type} [Monad m]

/-- The settings of a command line before the changes of the command. -/
def baseSettings (disk : Disk m) : Option String → m (Except Failure Settings)
  | none => return .ok {}
  | some path => Settings.load disk path

/-- Print a report or write it to a file. -/
def deliver (disk : Disk m) (path : Option String) (report : String) (exit : Nat) : m Result := do
  match path with
  | none => return { exit, output := report ++ "\n" }
  | some path =>
      match ← disk.write path report with
      | .ok _ => return { exit }
      | .error fault => return .failure fault.message

/-- Search files with settings that have been changed as asked. -/
def runSearch (surroundings : Surroundings m) (inputs : List String) (settings : Settings) :
    m Result := do
  match settings.validate with
  | .error fault => return .failure (Failure.settings fault).message
  | .ok _ =>
      match ← Scanner.ofSettings surroundings.disk settings with
      | .error failure => return .failure failure.message
      | .ok scanner =>
          let paths ← collectInputs surroundings.disk inputs
          let started ← surroundings.now
          let summary ← scanner.searchFiles surroundings.disk paths
          let completed ← surroundings.now
          let summary :=
            { summary with stats.durationMs := started.millisecondsTo completed }
          let report := Report.ofSettings settings.output scanner.catalogue.rules
          deliver surroundings.disk settings.output.path
            (report.render (surroundings.times started completed) summary)
            (if summary.isComplete then 0 else 1)

/-- The line of a rule in a listing. -/
def ruleLine (rule : Rule) : String :=
  let titles := (rule.languages.members.map Language.title).mergeSort (· ≤ ·)
  rule.key ++ "\t" ++ rule.label ++ "\t[" ++ ", ".intercalate titles ++ "]\n"

/-- List the rules that settings name. -/
def runListing (disk : Disk m) (settings : Settings) : m Result := do
  match ← settings.sources.loadRules disk with
  | .error failure => return .failure failure.message
  | .ok (catalogue, report) =>
      return {
        output :=
          String.join (catalogue.rules.map ruleLine) ++
            toString catalogue.size ++ " patterns, " ++ toString report.skipped ++ " skipped\n" }

/-- Load a file of rules and report the records that are none. -/
def runValidation (disk : Disk m) (path : String) : m Result := do
  match ← loadFiles disk [path] {} {} with
  | .error failure => return .failure failure.message
  | .ok (_, report) =>
      return {
        exit := if report.skipped = 0 then 0 else 1
        output :=
          String.join (report.errors.map fun error => "skipped: " ++ error ++ "\n") ++
            path ++ ": " ++ toString report.loaded ++ " loaded, " ++
            toString report.skipped ++ " skipped\n" }

/-- Run a command with the settings of the command line. -/
def runCommand (surroundings : Surroundings m) (settings : Settings) : Command → m Result
  | .search inputs changes => runSearch surroundings inputs (settings.changeAll changes)
  | .listRules changes => runListing surroundings.disk (settings.changeAll changes)
  | .validate path => runValidation surroundings.disk path

/-- Run a command line. -/
def run (surroundings : Surroundings m) (words : List String) : m Result := do
  match readInvocation words with
  | .error halt => return .ofHalt halt
  | .ok invocation =>
      match ← baseSettings surroundings.disk invocation.settingsPath with
      | .error failure => return .failure failure.message
      | .ok settings => runCommand surroundings settings invocation.command

end TreeSieve.CommandLine
