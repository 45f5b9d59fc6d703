import TreeSieve.CommandLine.Run
import TreeSieve.Proofs.CommandLine.Arguments
import TreeSieve.Proofs.Files.Inputs
import TreeSieve.Proofs.Scanner.Runs

/-!
# Searches from the command line

A command line that asks for a search changes the settings, loads the rules that
they name, collects the files of the inputs and searches them.  On a disk at rest
its summary has the findings of the trees among these files, in their order, as far
as the languages of the trees are accepted.
-/

namespace TreeSieve

/-! ## Trees among files -/

/-- The tree that the text of a file has, if there is one. -/
def treeOf? (text : Except DiskFault String) : Option Ust :=
  text.toOption.bind fun text => (Ust.ofText text).toOption

namespace Scanner

/-- What the rules of a scanner find in a tree, whether or not its language is
accepted. -/
def foundIn (scanner : Scanner) (ust : Ust) : List Finding :=
  (Search.run scanner.settings.matching.options scanner.quarantine (fun _ => scanner.poll) ust
    (scanner.catalogue.select ust.language scanner.settings.matching.ruleKeys)).toOption.getD []

theorem findings_treeOutcome_eq (scanner : Scanner) (ust : Ust) :
    (scanner.treeOutcome ust).findings =
      if scanner.settings.matching.accepts ust.language then scanner.foundIn ust else [] := by
  rw [treeOutcome, searchTree, foundIn]
  cases scanner.settings.matching.accepts ust.language with
  | false => rfl
  | true =>
      simp only [Bool.not_true, Bool.false_eq_true, if_false, if_true]
      split
      · rename_i found
        rw [found]
        rfl
      · rename_i failed
        rw [failed]
        split <;> rfl

theorem findings_fileOutcome_eq (scanner : Scanner) (path : String)
    (text : Except DiskFault String) :
    (scanner.fileOutcome path text).findings =
      (treeOf? text).toList.flatMap fun ust => (scanner.treeOutcome ust).findings := by
  rw [fileOutcome, treeOf?]
  cases text with
  | error fault => rfl
  | ok text =>
      cases accepted : Ust.ofText text <;>
        simp [Except.mapError, Except.bind, Except.toOption, accepted, FileOutcome.findings]

/-- What comes of files is found in the trees of accepted languages among them. -/
theorem flatMap_findings_fileOutcome (scanner : Scanner)
    (textAt : String → Except DiskFault String) (paths : List String) :
    (paths.flatMap fun path => (scanner.fileOutcome path (textAt path)).findings) =
      ((paths.filterMap fun path => treeOf? (textAt path)).filter fun ust =>
        scanner.settings.matching.accepts ust.language).flatMap scanner.foundIn := by
  induction paths with
  | nil => rfl
  | cons path paths ih =>
      rw [List.flatMap_cons, ih, findings_fileOutcome_eq, List.filterMap_cons]
      cases treeOf? (textAt path) with
      | none => rfl
      | some ust =>
          simp only [Option.toList_some, List.flatMap_singleton, findings_treeOutcome_eq,
            List.filter_cons]
          split
          · rw [List.flatMap_cons]
          · rw [List.nil_append]

/-- On a disk at rest a search of files adds what comes of each and leaves the disk
as it is. -/
theorem run_searchFiles {σ : Type} {disk : Disk (StateM σ)} {state : σ}
    (still : disk.Still state) (scanner : Scanner) (paths : List String) :
    (scanner.searchFiles disk paths).run state =
      (scanner.finish ((paths.map fun path =>
        scanner.fileOutcome path (disk.textAt state path)).foldl Summary.addOutcome
          (scanner.start paths.length)), state) := by
  have passes : ∀ path, (do return scanner.fileOutcome path (← disk.read path) :
      StateM σ FileOutcome).run state =
        (scanner.fileOutcome path (disk.textAt state path), state) := fun path =>
    run_bind_of_run (still.run_read path)
  rw [searchFiles, run_eq_mapM, StateT.run_map, run_mapM_of_still passes paths]
  rfl

/-- A scanner has the settings that it was made from. -/
theorem settings_of_ofSettings {σ : Type} {disk : Disk (StateM σ)} {state after : σ}
    {settings : Settings} {scanner : Scanner}
    (loaded : (ofSettings disk settings).run state = (.ok scanner, after)) :
    scanner.settings = settings := by
  rw [ofSettings] at loaded
  rcases rules : (settings.sources.loadRules disk).run state with
    ⟨failure | ⟨catalogue, report⟩, reached⟩
  · rw [run_bind_of_run rules] at loaded
    cases loaded
  · rw [run_bind_of_run rules] at loaded
    cases loaded
    rfl

end Scanner

namespace CommandLine

/-! ## Runs of a search -/

/-- A search that words ask for on a disk at rest, up to the search of the files. -/
structure SearchRun {σ : Type} (disk : Disk (StateM σ)) (state : σ) (words : List String) where
  still : disk.Still state
  /-- The settings before the changes of the command. -/
  base : Settings
  inputs : List String
  changes : List Settings.Change
  asked : readSearch words = .ok (.search inputs changes)
  valid : (base.changeAll changes).validate = .ok ()
  scanner : Scanner
  loaded : (Scanner.ofSettings disk (base.changeAll changes)).run state = (.ok scanner, state)

namespace SearchRun

variable {σ : Type} {disk : Disk (StateM σ)} {state : σ} {words : List String}

/-- The settings of a run. -/
def settings (run : SearchRun disk state words) : Settings :=
  run.base.changeAll run.changes

/-- The files that a run searches. -/
def paths (run : SearchRun disk state words) : List String :=
  sortedPaths (foundFiles (disk.shapeAt state) run.inputs)

/-- The trees among the files of a run. -/
def trees (run : SearchRun disk state words) : List Ust :=
  run.paths.filterMap fun path => treeOf? (disk.textAt state path)

/-- The summary of a run. -/
def summary (run : SearchRun disk state words) : Summary :=
  ((run.scanner.searchFiles disk run.paths).run state).1

theorem run_searchFiles (run : SearchRun disk state words) :
    (run.scanner.searchFiles disk run.paths).run state = (run.summary, state) := by
  rw [summary, Scanner.run_searchFiles run.still]

/-- A run finds what is in its trees, as far as their languages are accepted. -/
theorem findings_summary (run : SearchRun disk state words) :
    run.summary.findings =
      (run.trees.filter fun ust => run.settings.matching.accepts ust.language).flatMap
        run.scanner.foundIn := by
  have added : run.summary.findings = (run.paths.map fun path =>
      run.scanner.fileOutcome path (disk.textAt state path)).flatMap FileOutcome.findings := by
    rw [summary, Scanner.run_searchFiles run.still]
    exact Summary.findings_foldl_addOutcome (run.scanner.start run.paths.length) _
  rw [added, List.flatMap_map, Scanner.flatMap_findings_fileOutcome,
    Scanner.settings_of_ofSettings run.loaded]
  rfl

/-- If the clock stands still, what is reported about a run is its summary. -/
theorem run_runCommand (run : SearchRun disk state words)
    (times : Moment → Moment → RunTimes) {moment : Moment} {now : StateM σ Moment}
    (timeless : now.run state = (moment, state)) :
    (runCommand { disk, now, times } run.base (.search run.inputs run.changes)).run state =
      (deliver disk run.settings.output.path
        ((Report.ofSettings run.settings.output run.scanner.catalogue.rules).render
          (times moment moment) { run.summary with
            stats.durationMs := moment.millisecondsTo moment })
        (if run.summary.isComplete then 0 else 1)).run state := by
  rw [runCommand, runSearch, run.valid]
  exact (run_bind_of_run run.loaded).trans <|
    (run_bind_of_run (run_collectInputs run.still run.inputs)).trans <|
    (run_bind_of_run timeless).trans <|
    (run_bind_of_run run.run_searchFiles).trans (run_bind_of_run timeless)

end SearchRun

end CommandLine

end TreeSieve
