import TreeSieve.Proofs.Quarantine
import TreeSieve.Proofs.Search.Reports
import TreeSieve.Scanner

/-!
# Rules do not interfere

A search carries one state for each rule and tries all rules in one walk.  What
it reports of a rule depends on that rule alone, so a search for some of the
rules reports what a search for all of them reports of these, and the order of
the rules shows only among the findings of one visit.

Choosing rules by their keys and setting a rule aside are both a choice among
the rules before the search begins, so the same holds for them.
-/

namespace TreeSieve

namespace Search

section Rules

variable {options : Options} {quarantine : Quarantine} {ust : Ust} {id : NodeId} {rule : Rule}
  {finding : Finding}

/-! ## Choosing rules -/

theorem key_of_findingAt? (found : findingAt? options ust id rule = some finding) :
    finding.key = rule.key := by
  rcases Option.map_eq_some_iff.mp found with ⟨spans, -, rfl⟩
  rfl

theorem key_of_reportAt? (reported : reportAt? options ust id rule = some finding) :
    finding.key = rule.key := by
  unfold reportAt? at reported
  split at reported
  · exact key_of_findingAt? reported
  · contradiction

/-- Where findings have the keys of their rules, choosing among the rules by key
is choosing among the findings. -/
theorem filterMap_filter_key {report : Rule → Option Finding}
    (keyed : ∀ {rule finding}, report rule = some finding → finding.key = rule.key)
    (keep : String → Bool) (rules : List Rule) :
    (rules.filter fun rule => keep rule.key).filterMap report =
      (rules.filterMap report).filter fun finding => keep finding.key := by
  induction rules with
  | nil => rfl
  | cons rule rest ih =>
      cases found : report rule with
      | none =>
          rw [List.filterMap_cons_none found, ← ih, List.filter_cons]
          split
          · exact List.filterMap_cons_none found
          · rfl
      | some finding =>
          rw [List.filterMap_cons_some found, List.filter_cons, List.filter_cons, keyed found, ← ih]
          split
          · exact List.filterMap_cons_some found
          · rfl

theorem active_filter (keep : Rule → Bool) (rules : List Rule) :
    active quarantine ust (rules.filter keep) = (active quarantine ust rules).filter keep :=
  List.filter_comm _ _ rules

/-- Setting a rule aside is leaving it out. -/
theorem active_insert (key : String) (rules : List Rule) :
    active (quarantine.insert key) ust rules =
      active quarantine ust (rules.filter fun rule => rule.key != key) := by
  rw [active, active, List.filter_filter]
  apply List.filter_congr
  intro rule _
  rw [isActive, isActive, Quarantine.contains_insert, Bool.not_or, bne, Bool.and_comm (!_ == _),
    ← Bool.and_assoc, Bool.and_right_comm]

/-! ## Searching for some of the rules -/

/-- A search that nothing stops reports of some rules, chosen by their keys, what
a search for all rules reports of them. -/
theorem run_filter (rooted : ust.Rooted) {polls : Nat → Poll}
    (quiet : ∀ count, polls count = .proceed) (keep : String → Bool) (rules : List Rule) :
    ∃ findings, run options quarantine polls ust rules = .ok findings ∧
      run options quarantine polls ust (rules.filter fun rule => keep rule.key) =
        .ok (findings.filter fun finding => keep finding.key) := by
  refine ⟨_, run_eq rooted quiet quarantine rules, ?_⟩
  rw [run_eq rooted quiet, active_filter, List.filter_append, List.filter_flatMap,
    List.filter_flatMap]
  simp only [filterMap_filter_key key_of_reportAt?, filterMap_filter_key key_of_findingAt?]

theorem run_insert (polls : Nat → Poll) (key : String) (rules : List Rule) :
    run options (quarantine.insert key) polls ust rules =
      run options quarantine polls ust (rules.filter fun rule => rule.key != key) := by
  rw [run, run, allVisits, allVisits, active_insert]

/-- The order of the rules shows only in the order of what is found at one
visit. -/
theorem forall₂_perm_allVisits (rooted : ust.Rooted) {rules others : List Rule}
    (perm : rules.Perm others) :
    List.Forall₂ List.Perm (allVisits options quarantine ust rules)
      (allVisits options quarantine ust others) := by
  have activePerm : (active quarantine ust rules).Perm (active quarantine ust others) :=
    perm.filter _
  by_cases tried : active quarantine ust rules = []
  · have othersTried : active quarantine ust others = [] := by
      rw [tried] at activePerm
      exact activePerm.nil_eq.symm
    rw [allVisits, allVisits, tried, othersTried]
    exact .nil
  · have othersTried : active quarantine ust others ≠ [] := by
      intro nothing
      rw [nothing] at activePerm
      exact tried activePerm.eq_nil
    rw [allVisits_eq rooted tried, allVisits_eq rooted othersTried]
    apply List.rel_append
    · rw [List.forall₂_map_left_iff, List.forall₂_map_right_iff, List.forall₂_same]
      intro id _
      exact activePerm.filterMap _
    · rw [List.forall₂_map_left_iff, List.forall₂_map_right_iff, List.forall₂_same]
      intro id _
      exact activePerm.filterMap _

end Rules

end Search

/-! ## Scanners -/

theorem Catalogue.select_some (catalogue : Catalogue) (language : Language)
    (keys : List String) :
    catalogue.select language (some keys) =
      (catalogue.select language none).filter fun rule => keys.contains rule.key := by
  rw [select, select, List.filter_filter]
  apply List.filter_congr
  intro rule _
  rw [Option.all_some, Option.all_none, Bool.and_true, Bool.and_comm]

namespace Scanner

/-- A scanner that has not been asked to stop makes a search that nothing
stops. -/
theorem searchTree_of_awake (scanner : Scanner) (awake : scanner.shutdown = false) (ust : Ust) :
    scanner.searchTree ust =
      if scanner.settings.matching.accepts ust.language then
        Search.run scanner.settings.matching.options scanner.quarantine (fun _ => .proceed) ust
          (scanner.catalogue.select ust.language scanner.settings.matching.ruleKeys)
      else .ok [] := by
  have proceeds : scanner.poll = .proceed := by
    rw [poll, awake]
    rfl
  rw [searchTree, proceeds]
  cases scanner.settings.matching.accepts ust.language <;> rfl

variable {scanner : Scanner} {ust : Ust}

/-- The same scanner with other settings for the keys of the rules to try. -/
def withKeys (scanner : Scanner) (keys : Option (List String)) : Scanner :=
  { scanner with settings.matching.ruleKeys := keys }

/-- The same scanner with one more rule set aside. -/
def without (scanner : Scanner) (key : String) : Scanner :=
  { scanner with quarantine := scanner.quarantine.insert key }

theorem searchTree_withKeys (awake : scanner.shutdown = false) (keys : Option (List String)) :
    (scanner.withKeys keys).searchTree ust =
      if scanner.settings.matching.accepts ust.language then
        Search.run scanner.settings.matching.options scanner.quarantine (fun _ => .proceed) ust
          (scanner.catalogue.select ust.language keys)
      else .ok [] :=
  searchTree_of_awake (scanner.withKeys keys) awake ust

theorem searchTree_without (awake : scanner.shutdown = false) (key : String) :
    (scanner.without key).searchTree ust =
      if scanner.settings.matching.accepts ust.language then
        Search.run scanner.settings.matching.options (scanner.quarantine.insert key)
          (fun _ => .proceed) ust
          (scanner.catalogue.select ust.language scanner.settings.matching.ruleKeys)
      else .ok [] :=
  searchTree_of_awake (scanner.without key) awake ust

/-- Naming keys in the settings keeps the findings with these keys. -/
theorem searchTree_some_keys (rooted : ust.Rooted) (awake : scanner.shutdown = false)
    (keys : List String) :
    ∃ findings, (scanner.withKeys none).searchTree ust = .ok findings ∧
      (scanner.withKeys (some keys)).searchTree ust =
        .ok (findings.filter fun finding => keys.contains finding.key) := by
  rw [searchTree_withKeys awake, searchTree_withKeys awake, Catalogue.select_some]
  cases scanner.settings.matching.accepts ust.language with
  | false => exact ⟨[], rfl, rfl⟩
  | true => exact Search.run_filter rooted (fun _ => rfl) keys.contains _

/-- Setting a rule aside drops its findings. -/
theorem searchTree_quarantined (rooted : ust.Rooted) (awake : scanner.shutdown = false)
    (key : String) :
    ∃ findings, scanner.searchTree ust = .ok findings ∧
      (scanner.without key).searchTree ust =
        .ok (findings.filter fun finding => finding.key != key) := by
  rw [searchTree_without awake, scanner.searchTree_of_awake awake, Search.run_insert]
  cases scanner.settings.matching.accepts ust.language with
  | false => exact ⟨[], rfl, rfl⟩
  | true => exact Search.run_filter rooted (fun _ => rfl) (· != key) _

end Scanner

/-! ## Independence -/

namespace Search

/-- Rules do not interfere in a search that nothing stops, whether or not all
matches are asked for.  Searching for the rules with some keys reports exactly
the findings with these keys, in the same order.  Taking the rules in another
order visits the same places and reorders what is found at each of them.  Setting
a rule aside only drops the findings with its key, and naming keys in the settings
of a scanner keeps exactly the findings with these keys. -/
theorem run_rules_independent {document : Document} {ust : Ust}
    (accepted : Ust.ofDocument document = .ok ust) (options : Options)
    (quarantine : Quarantine) (rules : List Rule) {polls : Nat → Poll}
    (quiet : ∀ count, polls count = .proceed) :
    (∀ keep : String → Bool,
      ∃ findings, run options quarantine polls ust rules = .ok findings ∧
        run options quarantine polls ust (rules.filter fun rule => keep rule.key) =
          .ok (findings.filter fun finding => keep finding.key)) ∧
      (∀ others, rules.Perm others →
        run options quarantine polls ust rules =
            .ok (allVisits options quarantine ust rules).flatten ∧
          run options quarantine polls ust others =
              .ok (allVisits options quarantine ust others).flatten ∧
            List.Forall₂ List.Perm (allVisits options quarantine ust rules)
              (allVisits options quarantine ust others)) ∧
        (∀ key,
          ∃ findings, run options quarantine polls ust rules = .ok findings ∧
            run options (quarantine.insert key) polls ust rules =
              .ok (findings.filter fun finding => finding.key != key)) ∧
          ∀ scanner : Scanner, scanner.shutdown = false →
            (∀ keys,
              ∃ findings, (scanner.withKeys none).searchTree ust = .ok findings ∧
                (scanner.withKeys (some keys)).searchTree ust =
                  .ok (findings.filter fun finding => keys.contains finding.key)) ∧
              ∀ key,
                ∃ findings, scanner.searchTree ust = .ok findings ∧
                  (scanner.without key).searchTree ust =
                    .ok (findings.filter fun finding => finding.key != key) := by
  have rooted := Ust.rooted_of_ofDocument accepted
  constructor
  · intro keep
    exact run_filter rooted quiet keep rules
  constructor
  · intro others perm
    rw [run, run, gather_eq_flatten quiet, gather_eq_flatten quiet]
    exact ⟨rfl, rfl, forall₂_perm_allVisits rooted perm⟩
  constructor
  · intro key
    rw [run_insert]
    exact run_filter rooted quiet (· != key) rules
  · intro scanner awake
    exact ⟨Scanner.searchTree_some_keys rooted awake, Scanner.searchTree_quarantined rooted awake⟩

/-- A rule that matches the name `x`. -/
def sampleNameRule : Rule :=
  { sampleRule with key := "name", label := "name", pattern := .idToken "x" }

/-- In the sample the name is found with and without the rule for the number. -/
theorem run_independent_sampleField :
    ∃ findings,
      run {} {} (fun _ => .proceed) Ust.sampleField [sampleRule, sampleNameRule] =
          .ok findings ∧
        findings.map Finding.key = ["one", "name"] ∧
          run {} {} (fun _ => .proceed) Ust.sampleField [sampleNameRule] =
            .ok (findings.filter fun finding => finding.key == "name") := by
  obtain ⟨chosen, -⟩ := run_rules_independent Ust.ofDocument_sampleField {} {}
    [sampleRule, sampleNameRule] fun _ => rfl
  obtain ⟨findings, runAll, runSome⟩ := chosen (· == "name")
  refine ⟨findings, runAll, ?_, runSome⟩
  cases runAll
  decide

end Search

end TreeSieve
