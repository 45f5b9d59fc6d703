import TreeSieve.Catalogue.Builtin
import TreeSieve.Settings
import TreeSieve.Summary

/-!
# Scanning files

A scanner searches many trees with the rules that its settings name.  Trees are
taken in batches; what comes of a run does not depend on the size of a batch.

There is no clock here, so the time for one file that settings may limit,
`WorkSettings.timeout?`, is left out: a scanner stops a search on a shutdown only.  What a
search does when its time is up is told by `Search.run`, whose polls may answer
`Poll.deadline` before any visit.
-/

namespace TreeSieve

/-- Cut a list into pieces of `size` items, the last one perhaps shorter.  A
size of zero counts as one. -/
def batches {α : Type} (size : Nat) (items : List α) : List (List α) :=
  match items with
  | [] => []
  | first :: rest => (first :: rest.take (size - 1)) :: batches size (rest.drop (size - 1))
termination_by items.length
decreasing_by
  simp only [List.length_cons, List.length_drop]
  omega

/-- The rules of a run and how it looks for them. -/
structure Scanner where
  settings : Settings
  catalogue : Catalogue
  /-- What came of loading the rules. -/
  loadReport : LoadReport := {}
  quarantine : Quarantine := {}
  /-- The run has been asked to stop. -/
  shutdown : Bool := false

/-! ## Rules -/

/-- Load the files of rules, one after the other.  A file that cannot be read
ends the loading; records that are no rules do not. -/
def loadFiles {m : Type → Type} [Monad m] (disk : Disk m) :
    List String → Catalogue → LoadReport → m (Except Failure (Catalogue × LoadReport))
  | [], catalogue, report => return .ok (catalogue, report)
  | path :: paths, catalogue, report => do
      match ← disk.read path with
      | .error fault => return .error (.disk fault)
      | .ok text =>
          match catalogue.load none text with
          | .error failure => return .error failure
          | .ok (catalogue, found) => loadFiles disk paths catalogue (report.append found)

/-- The rules that settings name: those built in and then those of each file. -/
def SourceSettings.loadRules {m : Type → Type} [Monad m] (disk : Disk m)
    (settings : SourceSettings) : m (Except Failure (Catalogue × LoadReport)) :=
  let start : Catalogue := if settings.builtin then .builtin else {}
  loadFiles disk settings.paths start { loaded := start.size }

namespace Scanner

/-- A scanner with the rules that settings name. -/
def ofSettings {m : Type → Type} [Monad m] (disk : Disk m) (settings : Settings) :
    m (Except Failure Scanner) := do
  match ← settings.sources.loadRules disk with
  | .error failure => return .error failure
  | .ok (catalogue, loadReport) => return .ok { settings, catalogue, loadReport }

/-! ## Searching -/

/-- Whether to go on; asked before each visit of a node.  Deadlines are left out. -/
def poll (scanner : Scanner) : Poll :=
  if scanner.shutdown then .shutdown else .proceed

/-- Search one tree.  Nothing is found in a language that is not accepted. -/
def searchTree (scanner : Scanner) (ust : Ust) : Except Failure (List Finding) :=
  if !scanner.settings.matching.accepts ust.language then .ok []
  else
    let rules := scanner.catalogue.select ust.language scanner.settings.matching.ruleKeys
    Search.run scanner.settings.matching.options scanner.quarantine (fun _ => scanner.poll) ust
      rules

/-- What came of searching one tree. -/
def treeOutcome (scanner : Scanner) (ust : Ust) : FileOutcome :=
  match scanner.searchTree ust with
  | .ok findings => .matched findings
  | .error failure =>
      if failure.isInterruption then .interrupted failure.message else .failed failure.message

/-- What came of a file with a tree, given its text or why it has none. -/
def fileOutcome (scanner : Scanner) (path : String) (text : Except DiskFault String) :
    FileOutcome :=
  match (text.mapError Failure.disk).bind Ust.ofText with
  | .ok ust => scanner.treeOutcome ust
  | .error failure => .failed (path ++ ": " ++ failure.message)

/-! ## Runs -/

/-- The summary of a run of `count` items before its first item. -/
def start (scanner : Scanner) (count : Nat) : Summary where
  stats := {
    filesTotal := count
    rulesLoaded := scanner.catalogue.size
    rulesSkipped := scanner.loadReport.skipped }
  errors := scanner.loadReport.errors

/-- The wording for a rule that is set aside. -/
def quarantineMessage (key : String) : String :=
  "Pattern " ++ key ++ " disabled after a fault"

/-- Add the rules that are set aside to the summary of a run. -/
def finish (scanner : Scanner) (summary : Summary) : Summary :=
  { summary with
    stats.rulesQuarantined := scanner.quarantine.keys.length
    errors := summary.errors ++ scanner.quarantine.keys.map quarantineMessage }

/-- Pass over the items of a batch and then add what came of them. -/
def addBatch {m : Type → Type} [Monad m] {α : Type} (pass : α → m FileOutcome)
    (summary : Summary) (batch : List α) : m Summary :=
  return (← batch.mapM pass).foldl Summary.addOutcome summary

/-- Pass over all items, batch by batch. -/
def run {m : Type → Type} [Monad m] {α : Type} (scanner : Scanner) (items : List α)
    (pass : α → m FileOutcome) : m Summary := do
  let groups := batches scanner.settings.work.batch items
  let summary ← groups.foldlM (addBatch pass) (scanner.start items.length)
  return scanner.finish summary

/-- Search trees. -/
def searchTrees (scanner : Scanner) (trees : List Ust) : Summary :=
  Id.run (scanner.run trees fun ust => pure (scanner.treeOutcome ust))

/-- Read and search files. -/
def searchFiles {m : Type → Type} [Monad m] (disk : Disk m) (scanner : Scanner)
    (paths : List String) : m Summary :=
  scanner.run paths fun path => return scanner.fileOutcome path (← disk.read path)

end Scanner

end TreeSieve
