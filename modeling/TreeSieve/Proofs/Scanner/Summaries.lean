import TreeSieve.Proofs.Quarantine
import TreeSieve.Proofs.Scanner.Runs

/-!
# Summaries of runs

A summary of a run says of each item what came of it, whichever batch the item
was in.  It is told here field by field: the findings one behind the other, how
many items were searched, failed or were stopped, and the wording of all that
went wrong, in the order of the items and with the rules that are set aside at
the end.
-/

namespace TreeSieve

/-! ## What is added to a summary -/

namespace FileOutcome

/-- Whether the file was searched to its end. -/
@[simp]
def isMatched : FileOutcome → Bool
  | matched _ => true
  | _ => false

/-- Whether the file could not be searched. -/
@[simp]
def isFailed : FileOutcome → Bool
  | failed _ => true
  | _ => false

/-- Whether the search of the file was stopped. -/
@[simp]
def isInterrupted : FileOutcome → Bool
  | interrupted _ => true
  | _ => false

/-- The wording of what went wrong with the file. -/
@[simp]
def message? : FileOutcome → Option String
  | matched _ => none
  | failed message => some message
  | interrupted message => some message

theorem isMatched_iff {outcome : FileOutcome} :
    outcome.isMatched = true ↔ ∃ findings, outcome = matched findings := by
  cases outcome <;> simp

/-- Of all outcomes each is of one of three kinds. -/
theorem countP_add_countP_add_countP (outcomes : List FileOutcome) :
    outcomes.countP isMatched + outcomes.countP isFailed + outcomes.countP isInterrupted =
      outcomes.length := by
  induction outcomes with
  | nil => rfl
  | cons outcome rest ih =>
      simp only [List.countP_cons, List.length_cons, ← ih]
      cases outcome <;> simp <;> omega

/-- No outcome is of the last two kinds exactly if all are of the first. -/
theorem countP_eq_zero_and_iff (outcomes : List FileOutcome) :
    outcomes.countP isFailed = 0 ∧ outcomes.countP isInterrupted = 0 ↔
      ∀ outcome ∈ outcomes, outcome.isMatched = true := by
  have total := countP_add_countP_add_countP outcomes
  rw [← List.countP_eq_length]
  omega

end FileOutcome

namespace Summary

/-- A summary to which what came of some files has been added, told field by field. -/
def tally (summary : Summary) (outcomes : List FileOutcome) : Summary where
  findings := summary.findings ++ outcomes.flatMap FileOutcome.findings
  stats := { summary.stats with
    filesMatched := summary.stats.filesMatched + outcomes.countP FileOutcome.isMatched
    filesFailed := summary.stats.filesFailed + outcomes.countP FileOutcome.isFailed
    filesInterrupted :=
      summary.stats.filesInterrupted + outcomes.countP FileOutcome.isInterrupted
    findings := summary.stats.findings + (outcomes.flatMap FileOutcome.findings).length }
  errors := summary.errors ++ outcomes.filterMap FileOutcome.message?

/-- Adding one outcome and then the others adds them all. -/
theorem tally_addOutcome (summary : Summary) (outcome : FileOutcome)
    (outcomes : List FileOutcome) :
    (summary.addOutcome outcome).tally outcomes = summary.tally (outcome :: outcomes) := by
  cases outcome <;>
    simp [addOutcome, addFindings, addError, tally, FileOutcome.findings, List.countP_cons,
      List.filterMap_cons, Nat.add_assoc, Nat.add_comm 1]

theorem foldl_addOutcome (summary : Summary) (outcomes : List FileOutcome) :
    outcomes.foldl addOutcome summary = summary.tally outcomes := by
  induction outcomes generalizing summary with
  | nil => simp [tally]
  | cons outcome rest ih => rw [List.foldl_cons, ih, tally_addOutcome]

end Summary

/-! ## Runs without batches -/

namespace Scanner

/-- One pass over all items from the first to the last, with what comes of an item
added before the next is taken up. -/
def onePass {α : Type} (scanner : Scanner) (items : List α) (pass : α → FileOutcome) : Summary :=
  scanner.finish
    (items.foldl (fun summary item => summary.addOutcome (pass item)) (scanner.start items.length))

variable {α : Type}

theorem onePass_eq_tally (scanner : Scanner) (items : List α) (pass : α → FileOutcome) :
    scanner.onePass items pass =
      scanner.finish ((scanner.start items.length).tally (items.map pass)) := by
  rw [onePass, ← Summary.foldl_addOutcome, List.foldl_map]

/-- A run that passes over its items without effects is one pass. -/
theorem run_pure (scanner : Scanner) (items : List α) (pass : α → FileOutcome) :
    Id.run (scanner.run items fun item => pure (pass item)) = scanner.onePass items pass := by
  rw [run_eq_mapM, List.mapM_pure, onePass_eq_tally, ← Summary.foldl_addOutcome]
  rfl

/-- The summary of one pass, told field by field. -/
theorem onePass_eq (scanner : Scanner) (items : List α) (pass : α → FileOutcome) :
    scanner.onePass items pass = {
      findings := items.flatMap fun item => (pass item).findings
      stats := {
        filesTotal := items.length
        filesMatched := items.countP fun item => (pass item).isMatched
        filesFailed := items.countP fun item => (pass item).isFailed
        filesInterrupted := items.countP fun item => (pass item).isInterrupted
        rulesLoaded := scanner.catalogue.size
        rulesSkipped := scanner.loadReport.skipped
        rulesQuarantined := scanner.quarantine.keys.length
        findings := (items.flatMap fun item => (pass item).findings).length }
      errors := scanner.loadReport.errors ++ items.filterMap (fun item => (pass item).message?) ++
        scanner.quarantine.keys.map quarantineMessage } := by
  rw [onePass_eq_tally]
  simp [finish, start, Summary.tally, List.flatMap_map, List.countP_map, List.filterMap_map,
    Function.comp_def]

/-- However a run divides its work, it sums up one pass over all items in their
order.  The summary has the findings of the items one behind the other; every
item is counted once, by what came of it; and the errors are those of loading the
rules, then one for each item that was not searched to its end, and then one for
each rule that is set aside, sorted by key.  The run is complete exactly if every
item was searched to its end. -/
theorem run_eq_onePass (scanner : Scanner) (faulty : List String) (items : List α)
    (pass : α → FileOutcome) :
    let scanner := { scanner with quarantine := .ofFaults faulty }
    let summary := scanner.onePass items pass
    (∀ work : WorkSettings,
      Id.run (run { scanner with settings := { scanner.settings with work } } items
        fun item => pure (pass item)) = summary) ∧
      summary.findings = items.flatMap (fun item => (pass item).findings) ∧
        summary.stats.filesMatched = items.countP (fun item => (pass item).isMatched) ∧
        summary.stats.filesFailed = items.countP (fun item => (pass item).isFailed) ∧
        summary.stats.filesInterrupted = items.countP (fun item => (pass item).isInterrupted) ∧
        summary.stats.filesMatched + summary.stats.filesFailed +
            summary.stats.filesInterrupted = summary.stats.filesTotal ∧
        summary.stats.filesTotal = items.length ∧
        summary.stats.findings = summary.findings.length ∧
          (∃ keys : List String, keys.Pairwise (· < ·) ∧ (∀ key, key ∈ keys ↔ key ∈ faulty) ∧
            summary.errors = scanner.loadReport.errors ++
              items.filterMap (fun item => (pass item).message?) ++
                keys.map quarantineMessage) ∧
            (summary.isComplete = true ↔
              ∀ item ∈ items, ∃ findings, pass item = .matched findings) := by
  intro scanner summary
  have batched : ∀ work : WorkSettings,
      Id.run (run { scanner with settings := { scanner.settings with work } } items
        fun item => pure (pass item)) = summary := fun work => run_pure _ items pass
  have summaryEq : summary = _ := scanner.onePass_eq items pass
  have counted := FileOutcome.countP_add_countP_add_countP (items.map pass)
  have complete := FileOutcome.countP_eq_zero_and_iff (items.map pass)
  simp only [List.countP_map, List.length_map, Function.comp_def, List.forall_mem_map,
    FileOutcome.isMatched_iff] at counted complete
  clear_value summary
  subst summaryEq
  refine ⟨batched, rfl, rfl, rfl, rfl, counted, rfl, rfl, ?_, ?_⟩
  · exact ⟨_, Quarantine.pairwise_keys_ofFaults faulty, fun key => Quarantine.mem_keys_ofFaults,
      rfl⟩
  · rw [Summary.isComplete, Bool.and_eq_true, decide_eq_true_eq, decide_eq_true_eq]
    exact complete

end Scanner

end TreeSieve
