import TreeSieve.Report.Console
import TreeSieve.Report.Plain
import TreeSieve.Report.Sarif
import TreeSieve.Settings

/-!
# Reports

A report puts the summary of a run into one of three forms.
-/

namespace TreeSieve

/-- The form of a report with what it needs to know. -/
inductive Report where
  | console (style : Report.ConsoleStyle)
  | plain
  | sarif (rules : List Rule)

namespace Report

/-- The report that settings ask for. -/
def ofSettings (settings : OutputSettings) (rules : List Rule) : Report :=
  match settings.format with
  | .text => .console { colors := settings.colors }
  | .json => .plain
  | .sarif => .sarif rules

/-- The text of a report. -/
def render (times : RunTimes) (summary : Summary) : Report → String
  | .console style => consoleText style times summary
  | .plain => (plainJson times summary).pretty
  | .sarif rules => (sarifJson rules times summary).pretty

end Report

end TreeSieve
