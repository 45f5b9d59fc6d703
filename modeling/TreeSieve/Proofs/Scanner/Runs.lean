import Mathlib.Data.List.Basic
import TreeSieve.Scanner

/-!
# Runs of a scanner

A run takes its items in batches and adds what came of each batch before it
passes over the next.  Whatever the size of a batch, this is to pass over all
items in their order and then to add what came of them one by one.
-/

namespace TreeSieve

/-- The batches of a list hold its items in their order. -/
theorem flatten_batches {α : Type} (size : Nat) (items : List α) :
    (batches size items).flatten = items := by
  fun_induction batches size items with
  | case1 => rfl
  | case2 first rest ih =>
      rw [List.flatten_cons, ih, List.cons_append, List.take_append_drop]

/-- What was found in one file. -/
def FileOutcome.findings : FileOutcome → List Finding
  | matched findings => findings
  | failed _ => []
  | interrupted _ => []

namespace Summary

theorem findings_addOutcome (summary : Summary) (outcome : FileOutcome) :
    (summary.addOutcome outcome).findings = summary.findings ++ outcome.findings := by
  cases outcome with
  | matched findings => rfl
  | failed message => exact (List.append_nil _).symm
  | interrupted message => exact (List.append_nil _).symm

/-- The findings of a summary are those of its files, one behind the other. -/
theorem findings_foldl_addOutcome (summary : Summary) (outcomes : List FileOutcome) :
    (outcomes.foldl addOutcome summary).findings =
      summary.findings ++ outcomes.flatMap FileOutcome.findings := by
  induction outcomes generalizing summary with
  | nil => exact (List.append_nil _).symm
  | cons outcome rest ih =>
      rw [List.foldl_cons, ih, findings_addOutcome, List.flatMap_cons, List.append_assoc]

end Summary

namespace Scanner

variable {m : Type → Type} [Monad m] [LawfulMonad m] {α : Type}

theorem foldlM_addBatch (pass : α → m FileOutcome) (groups : List (List α)) (summary : Summary) :
    groups.foldlM (addBatch pass) summary =
      (fun outcomes => outcomes.foldl Summary.addOutcome summary) <$>
        groups.flatten.mapM pass := by
  induction groups generalizing summary with
  | nil => simp
  | cons batch groups ih =>
      rw [List.foldlM_cons, List.flatten_cons, List.mapM_append]
      simp [addBatch, ih]

/-- A run passes over all items in their order and then adds what came of them. -/
theorem run_eq_mapM (scanner : Scanner) (items : List α) (pass : α → m FileOutcome) :
    scanner.run items pass =
      (fun outcomes =>
          scanner.finish (outcomes.foldl Summary.addOutcome (scanner.start items.length))) <$>
        items.mapM pass := by
  rw [run, foldlM_addBatch, flatten_batches]
  simp

/-- The findings of a run are those of its items, one behind the other. -/
theorem findings_run (scanner : Scanner) (items : List α) (pass : α → m FileOutcome) :
    Summary.findings <$> scanner.run items pass =
      (fun outcomes => outcomes.flatMap FileOutcome.findings) <$> items.mapM pass := by
  rw [run_eq_mapM, Functor.map_map]
  refine congrArg (· <$> items.mapM pass) (funext fun outcomes => ?_)
  exact Summary.findings_foldl_addOutcome (scanner.start items.length) outcomes

end Scanner

end TreeSieve
