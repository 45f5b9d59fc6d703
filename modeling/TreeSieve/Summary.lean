import TreeSieve.Search

/-!
# Summaries of runs

A summary gathers what came of the files of a run: findings, counts and the
wording of everything that went wrong.
-/

namespace TreeSieve

/-- The counts of a run. -/
structure RunStats where
  filesTotal : Nat := 0
  filesMatched : Nat := 0
  filesFailed : Nat := 0
  filesInterrupted : Nat := 0
  rulesLoaded : Nat := 0
  rulesSkipped : Nat := 0
  rulesQuarantined : Nat := 0
  findings : Nat := 0
  durationMs : Nat := 0
  deriving DecidableEq

/-- What came of a run. -/
structure Summary where
  findings : List Finding := []
  stats : RunStats := {}
  errors : List String := []

/-- What came of one file. -/
inductive FileOutcome where
  | matched (findings : List Finding)
  | failed (message : String)
  | interrupted (message : String)

namespace Summary

/-- Add the findings of a file that was searched to its end. -/
def addFindings (summary : Summary) (findings : List Finding) : Summary :=
  { summary with
    findings := summary.findings ++ findings
    stats := { summary.stats with
      filesMatched := summary.stats.filesMatched + 1
      findings := summary.stats.findings + findings.length } }

/-- Add the wording of something that went wrong. -/
def addError (summary : Summary) (message : String) : Summary :=
  { summary with errors := summary.errors ++ [message] }

/-- Add what came of one file. -/
def addOutcome (summary : Summary) : FileOutcome → Summary
  | .matched findings => summary.addFindings findings
  | .failed message =>
      { summary.addError message with stats.filesFailed := summary.stats.filesFailed + 1 }
  | .interrupted message =>
      { summary.addError message with
        stats.filesInterrupted := summary.stats.filesInterrupted + 1 }

/-- Whether every file was searched to its end. -/
def isComplete (summary : Summary) : Bool :=
  summary.stats.filesFailed = 0 && summary.stats.filesInterrupted = 0

/-- The findings of one rule. -/
def findingsOf (summary : Summary) (key : String) : List Finding :=
  summary.findings.filter (·.key == key)

/-- Count one more finding for a key, in a list sorted by key. -/
def countKey (key : String) : List (String × Nat) → List (String × Nat)
  | [] => [(key, 1)]
  | (other, count) :: rest =>
      if key < other then (key, 1) :: (other, count) :: rest
      else if key = other then (other, count + 1) :: rest
      else (other, count) :: countKey key rest

/-- The number of findings of each rule, sorted by key. -/
def perRule (summary : Summary) : List (String × Nat) :=
  summary.findings.foldl (fun counts finding => countKey finding.key counts) []

end Summary

end TreeSieve
