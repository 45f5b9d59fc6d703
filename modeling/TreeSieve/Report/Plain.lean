import TreeSieve.Json.Printer
import TreeSieve.Moment
import TreeSieve.Summary

/-!
# Reports in plain JSON

The findings, counts and errors of a run as one JSON object.  Source text stays
out of it: spans, lines and columns are enough to find it.
-/

namespace TreeSieve.Report

/-- A span of a finding with its lines and columns. -/
def locationToJson (file : SourceFile) (span : Span) : Json :=
  let place := file.lineColumns span
  .object
    [ ("start", .nat span.start.toNat),
      ("length", .nat span.length.toNat),
      ("begin_line", .nat place.first.line),
      ("begin_column", .nat place.first.column),
      ("end_line", .nat place.last.line),
      ("end_column", .nat place.last.column) ]

/-- A finding. -/
def findingToJson (finding : Finding) : Json :=
  .object
    [ ("pattern_key", .string finding.key),
      ("file", .string finding.file.path),
      ("locations", .array (finding.spans.map (locationToJson finding.file))) ]

/-- The counts of a run. -/
def statsToJson (stats : RunStats) : Json :=
  .object
    [ ("files_total", .nat stats.filesTotal),
      ("files_matched", .nat stats.filesMatched),
      ("files_failed", .nat stats.filesFailed),
      ("files_interrupted", .nat stats.filesInterrupted),
      ("patterns_loaded", .nat stats.rulesLoaded),
      ("patterns_skipped", .nat stats.rulesSkipped),
      ("patterns_quarantined", .nat stats.rulesQuarantined),
      ("results", .nat stats.findings),
      ("duration_ms", .nat stats.durationMs) ]

/-- A run as plain JSON. -/
def plainJson (times : RunTimes) (summary : Summary) : Json :=
  .object
    [ ("results", .array (summary.findings.map findingToJson)),
      ("stats", statsToJson summary.stats),
      ("errors", Json.strings summary.errors),
      ("started_at", .string times.started),
      ("completed_at", .string times.completed) ]

end TreeSieve.Report
