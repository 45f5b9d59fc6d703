import TreeSieve.Moment
import TreeSieve.Summary

/-!
# Reports for people

A report as lines of text, with or without colours, with or without the source
text of the findings.
-/

namespace TreeSieve.Report

/-- How a text is highlighted. -/
inductive Ink where
  | bold
  | dim
  | red
  | green
  | yellow

/-- The control sequence that begins a highlighted text. -/
def Ink.code : Ink → String
  | bold => "\x1b[1m"
  | dim => "\x1b[2m"
  | red => "\x1b[31m"
  | green => "\x1b[32m"
  | yellow => "\x1b[33m"

/-- The control sequence that ends a highlighted text. -/
def plainInk : String := "\x1b[0m"

/-- What a text report shows. -/
structure ConsoleStyle where
  colors : Bool := true
  /-- Show the first line of the text of each finding. -/
  snippets : Bool := true

/-- A highlighted text. -/
def ConsoleStyle.paint (style : ConsoleStyle) (ink : Ink) (text : String) : String :=
  if style.colors then ink.code ++ text ++ plainInk else text

/-- The first line of a text.  A line feed ends a line, with a carriage return
before it. -/
def firstLine (text : String) : String :=
  let characters := text.toList
  let line := characters.takeWhile (· != '\n')
  if characters.contains '\n' ∧ line.getLast? = some '\r' then String.ofList line.dropLast
  else String.ofList line

/-- A number with blanks in front up to five characters. -/
def lineNumber (line : Nat) : String :=
  let digits := toString line
  String.ofList (List.replicate (5 - digits.length) ' ') ++ digits

/-- The line for one span of a finding. -/
def spanLine (style : ConsoleStyle) (file : SourceFile) (span : Span) : String :=
  let place := file.lineColumns span
  let snippet := if style.snippets then file.text? span else none
  match snippet with
  | some text =>
      "  " ++ style.paint .dim (lineNumber place.first.line ++ " |") ++ " " ++ firstLine text ++
        (if text.toList.contains '\n' then " ..." else "") ++ "\n"
  | none => "  " ++ style.paint .dim ("at " ++ place.describe) ++ "\n"

/-- The lines for one finding. -/
def findingLines (style : ConsoleStyle) (finding : Finding) : String :=
  let start := (finding.file.lineColumns finding.span).first
  let place := finding.file.path ++ ":" ++ toString start.line ++ ":" ++ toString start.column
  style.paint .yellow ("[" ++ finding.key ++ "]") ++ " " ++ style.paint .bold place ++ "\n" ++
    String.join (finding.spans.map (spanLine style finding.file))

/-- A heading and a line break. -/
def heading (style : ConsoleStyle) (title : String) : String :=
  style.paint .bold title ++ "\n"

/-- Title and times. -/
def header (style : ConsoleStyle) (times : RunTimes) (stats : RunStats) : String :=
  "\n" ++ heading style "=== Pattern Matching Report ===" ++ "\n" ++
    style.paint .bold "Run Time:" ++ " " ++ times.line ++ "\n" ++
    style.paint .bold "Duration:" ++ " " ++ toString stats.durationMs ++ "ms\n\n"

/-- The counts of a run. -/
def counts (style : ConsoleStyle) (summary : Summary) : String :=
  let stats := summary.stats
  heading style "--- Summary ---" ++
    "Files: " ++ toString stats.filesMatched ++ " matched, " ++ toString stats.filesFailed ++
      " failed, " ++ toString stats.filesInterrupted ++ " interrupted (" ++
      toString stats.filesTotal ++ " total)\n" ++
    "Patterns: " ++ toString stats.rulesLoaded ++ " loaded, " ++ toString stats.rulesSkipped ++
      " skipped, " ++ toString stats.rulesQuarantined ++ " quarantined\n" ++
    "Results: " ++ toString stats.findings ++ "\n" ++
    String.join (summary.perRule.map fun (key, count) =>
      "  " ++ style.paint .yellow (key ++ ":") ++ " " ++ toString count ++ "\n") ++
    "\n"

/-- All findings. -/
def details (style : ConsoleStyle) (findings : List Finding) : String :=
  if findings.isEmpty then style.paint .dim "No matches found." ++ "\n"
  else
    heading style "--- Results ---" ++ "\n" ++
      String.join (findings.map fun finding => findingLines style finding ++ "\n")

/-- All errors. -/
def errorLines (style : ConsoleStyle) (errors : List String) : String :=
  if errors.isEmpty then ""
  else
    "\n" ++ heading style "--- Errors ---" ++
      String.join (errors.map fun error => "  " ++ style.paint .red error ++ "\n")

/-- Whether the run was complete. -/
def status (style : ConsoleStyle) (summary : Summary) : String :=
  "\n" ++ heading style "--- Status ---" ++
    (if summary.isComplete then style.paint .green "Run completed."
     else
      style.paint .red ("Run incomplete: " ++
        toString (summary.stats.filesFailed + summary.stats.filesInterrupted) ++
        " files not matched.")) ++
    "\n"

/-- A run as lines of text. -/
def consoleText (style : ConsoleStyle) (times : RunTimes) (summary : Summary) : String :=
  header style times summary.stats ++ counts style summary ++ details style summary.findings ++
    errorLines style summary.errors ++ status style summary

end TreeSieve.Report
