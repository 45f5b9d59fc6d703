import Mathlib.Data.Set.Card
import TreeSieve.Proofs.Scanner.Runs
import TreeSieve.Proofs.Search.Reports

/-!
# Searches that are stopped

A search asks before each visit whether to go on, at the nodes of the tree and
then at the comments, and at nothing else.  The first answer that is no ends it
with a failure, and what has been found until then is lost.  If no answer within
the visits is no, the search reports what a search that nothing stops reports.

A scanner that has been asked to stop answers no from the start, so its runs
find nothing.
-/

namespace TreeSieve

/-- The failure with which an answer ends the search of a file. -/
def Poll.failure? (file : String) : Poll → Option Failure
  | .proceed => none
  | .shutdown => some (.interrupted file)
  | .deadline => some (.timedOut file)

namespace Search

/-- How often a search asks: once for each node under the root and once for each
comment, or never if there is no rule to try. -/
noncomputable def pollCount (quarantine : Quarantine) (ust : Ust) (rules : List Rule) : Nat :=
  if (active quarantine ust rules).isEmpty then 0
  else {id | ust.Reaches ust.root id}.ncard + ust.comments.length

/-! ## Gathering visits -/

section Gathering

variable {file : String} {polls : Nat → Poll}

theorem gather_cons_of_failure {count : Nat} {failure : Failure}
    (stops : (polls count).failure? file = some failure) (found : List Finding)
    (rest : List (List Finding)) :
    gather file polls count (found :: rest) = .error failure := by
  rw [gather]
  cases answer : polls count with
  | proceed =>
      rw [answer] at stops
      contradiction
  | shutdown =>
      rw [answer] at stops
      cases stops
      rfl
  | deadline =>
      rw [answer] at stops
      cases stops
      rfl

theorem gather_cons_of_proceed {count : Nat} (proceeds : polls count = .proceed)
    (found : List Finding) (rest : List (List Finding)) :
    gather file polls count (found :: rest) =
      (gather file polls (count + 1) rest).map (found ++ ·) := by
  rw [gather, proceeds]

/-- The first answer that is no decides, wherever in the visits it comes. -/
theorem gather_eq_error {count index : Nat} {failure : Failure} {visits : List (List Finding)}
    (within : index < visits.length)
    (quiet : ∀ earlier < index, polls (count + earlier) = .proceed)
    (stops : (polls (count + index)).failure? file = some failure) :
    gather file polls count visits = .error failure := by
  induction visits generalizing count index with
  | nil => exact absurd within (Nat.not_lt_zero index)
  | cons found rest ih =>
      cases index with
      | zero => exact gather_cons_of_failure stops found rest
      | succ index =>
          have proceeds : polls count = .proceed := quiet 0 (Nat.succ_pos index)
          have later : gather file polls (count + 1) rest = .error failure := by
            apply ih (Nat.lt_of_succ_lt_succ within)
            · intro earlier before
              rw [Nat.add_right_comm]
              exact quiet (earlier + 1) (Nat.succ_lt_succ before)
            · rw [Nat.add_right_comm]
              exact stops
          rw [gather_cons_of_proceed proceeds, later]
          rfl

/-- Without a no within the visits, all that is found is gathered. -/
theorem gather_eq_ok {count : Nat} {visits : List (List Finding)}
    (quiet : ∀ index < visits.length, polls (count + index) = .proceed) :
    gather file polls count visits = .ok visits.flatten := by
  induction visits generalizing count with
  | nil => rfl
  | cons found rest ih =>
      have proceeds : polls count = .proceed := quiet 0 (Nat.succ_pos _)
      have later : gather file polls (count + 1) rest = .ok rest.flatten := by
        apply ih
        intro index within
        rw [Nat.add_right_comm]
        exact quiet (index + 1) (Nat.succ_lt_succ within)
      rw [gather_cons_of_proceed proceeds, later]
      rfl

end Gathering

/-! ## Counting visits -/

theorem ncard_reached {ust : Ust} (rooted : ust.Rooted) :
    {id | ust.Reaches ust.root id}.ncard = (ust.root :: ust.descendants ust.root).length := by
  have members : {id | ust.Reaches ust.root id} =
      ((ust.root :: ust.descendants ust.root).toFinset : Set NodeId) := by
    ext id
    rw [List.coe_toFinset]
    exact (rooted.mem_cons_descendants_iff .refl).symm
  rw [members, Set.ncard_coe_finset, List.toFinset_card_of_nodup (rooted.nodup_descendants .refl)]

/-- A search asks once before each of its visits. -/
theorem length_allVisits {ust : Ust} (rooted : ust.Rooted) (options : Options)
    (quarantine : Quarantine) (rules : List Rule) :
    (allVisits options quarantine ust rules).length = pollCount quarantine ust rules := by
  by_cases tried : active quarantine ust rules = []
  · simp [allVisits, pollCount, tried]
  · have notEmpty : (active quarantine ust rules).isEmpty = false :=
      List.isEmpty_eq_false_iff.mpr tried
    rw [allVisits_eq rooted tried, pollCount, notEmpty, ncard_reached rooted, List.length_append,
      List.length_map, List.length_map]
    rfl

end Search

/-! ## Scanners that have been asked to stop -/

namespace Scanner

variable {scanner : Scanner}

/-- Whatever the tree, a scanner that has been asked to stop finds nothing in it. -/
theorem findings_treeOutcome (asked : scanner.shutdown = true) (ust : Ust) :
    (scanner.treeOutcome ust).findings = [] := by
  have stops : scanner.poll = .shutdown := by
    rw [poll, asked]
    rfl
  rw [treeOutcome, searchTree, stops]
  cases scanner.settings.matching.accepts ust.language with
  | false => rfl
  | true =>
      simp only [Bool.not_true, Bool.false_eq_true, if_false, Search.run]
      cases Search.allVisits scanner.settings.matching.options scanner.quarantine ust
          (scanner.catalogue.select ust.language scanner.settings.matching.ruleKeys) with
      | nil => rfl
      | cons found rest => rfl

theorem findings_fileOutcome (asked : scanner.shutdown = true) (path : String)
    (text : Except DiskFault String) : (scanner.fileOutcome path text).findings = [] := by
  rw [fileOutcome]
  split
  · exact findings_treeOutcome asked _
  · rfl

theorem findings_searchTrees (asked : scanner.shutdown = true) (trees : List Ust) :
    (scanner.searchTrees trees).findings = [] := by
  have found := scanner.findings_run trees fun ust => (pure (scanner.treeOutcome ust) : Id _)
  refine found.trans ?_
  rw [List.mapM_pure]
  change (trees.map scanner.treeOutcome).flatMap FileOutcome.findings = []
  simp [List.flatMap_map, findings_treeOutcome asked]

/-- A run over files reads them all and finds nothing, whatever is read. -/
theorem findings_searchFiles {m : Type → Type} [Monad m] [LawfulMonad m] (disk : Disk m)
    (asked : scanner.shutdown = true) (paths : List String) :
    Summary.findings <$> scanner.searchFiles disk paths =
      (fun _ => []) <$> paths.mapM disk.read := by
  rw [searchFiles, findings_run]
  induction paths with
  | nil => simp
  | cons path rest ih =>
      simp only [bind_pure_comp] at ih
      simp only [List.mapM_cons, bind_pure_comp, map_bind, Functor.map_map, bind_map_left,
        List.flatMap_cons, findings_fileOutcome asked, List.nil_append]
      exact bind_congr fun _ => ih

end Scanner

namespace Search

/-- A search is stopped wholly or not at all.  If one of the answers within its
visits is no, it ends with the failure of the first of them and reports nothing.
Otherwise it reports what a search that nothing stops reports, whatever would be
answered later.  So a scanner that has been asked to stop before a run over trees
or over files sums up a run without any finding. -/
theorem run_stopped_or_complete {document : Document} {ust : Ust}
    (accepted : Ust.ofDocument document = .ok ust) (options : Options)
    (quarantine : Quarantine) (rules : List Rule) (polls : Nat → Poll) :
    (∀ index < pollCount quarantine ust rules, ∀ failure,
      (∀ earlier < index, polls earlier = .proceed) →
        (polls index).failure? ust.file.path = some failure →
          run options quarantine polls ust rules = .error failure) ∧
      ((∀ index < pollCount quarantine ust rules, polls index = .proceed) →
        ∃ findings, run options quarantine (fun _ => .proceed) ust rules = .ok findings ∧
          run options quarantine polls ust rules = .ok findings) ∧
        ∀ scanner : Scanner, scanner.shutdown = true →
          (∀ trees, (scanner.searchTrees trees).findings = []) ∧
            ∀ {m : Type → Type} [Monad m] [LawfulMonad m] (disk : Disk m) (paths : List String),
              Summary.findings <$> scanner.searchFiles disk paths =
                (fun _ => []) <$> paths.mapM disk.read := by
  have rooted := Ust.rooted_of_ofDocument accepted
  have countEq := length_allVisits rooted options quarantine rules
  refine ⟨?_, ?_, ?_⟩
  · intro index within failure quiet stops
    rw [← countEq] at within
    apply gather_eq_error within
    · simpa using quiet
    · simpa using stops
  · intro quiet
    refine ⟨_, gather_eq_flatten (fun _ => rfl) _ 0 _, gather_eq_ok ?_⟩
    simpa [countEq] using quiet
  · intro scanner asked
    exact ⟨Scanner.findings_searchTrees asked, fun disk => Scanner.findings_searchFiles disk asked⟩

/-- In the sample a search asks five times.  A deadline that has passed at the
last of them ends it, and one that passes after it does not. -/
theorem run_stopped_or_complete_sampleField :
    run {} {} (fun index => if index < 4 then .proceed else .deadline) Ust.sampleField
        [sampleRule] = .error (.timedOut "A.java") ∧
      ∃ findings, run {} {} (fun _ => .proceed) Ust.sampleField [sampleRule] = .ok findings ∧
        run {} {} (fun index => if index < 5 then .proceed else .deadline) Ust.sampleField
            [sampleRule] = .ok findings ∧
          findings.map Finding.spans = [[⟨8, 1⟩]] := by
  have rooted := Ust.rooted_of_ofDocument Ust.ofDocument_sampleField
  have countEq : pollCount {} Ust.sampleField [sampleRule] = 5 :=
    (length_allVisits rooted {} {} [sampleRule]).symm.trans (by decide)
  have late := (run_stopped_or_complete Ust.ofDocument_sampleField {} {} [sampleRule]
    fun index => if index < 4 then .proceed else .deadline).1
  have punctual := (run_stopped_or_complete Ust.ofDocument_sampleField {} {} [sampleRule]
    fun index => if index < 5 then .proceed else .deadline).2.1
  rw [countEq] at late punctual
  constructor
  · exact late 4 (by decide) _ (fun earlier before => if_pos before) rfl
  · obtain ⟨findings, quiet, stopped⟩ := punctual fun index before => if_pos before
    refine ⟨findings, quiet, stopped, ?_⟩
    cases quiet
    decide

end Search

end TreeSieve
