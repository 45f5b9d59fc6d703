import TreeSieve.Proofs.Pattern.Uniform
import TreeSieve.Proofs.Search.Walk

/-!
# What a search reports

A search for all matches tries every rule that is meant for the file at every
node under the root, parents before children, and then at every comment, and
reports each match with the spans it has gathered.

A search that reports a match once leaves out the matches of a rule below other
matches of it, and nothing else.  The two kinds of search differ in no attempt,
only in what they silence, so the one is the other with some findings removed.
-/

namespace TreeSieve

open Relation

namespace Search

/-- What is to be reported of a rule at a node: a finding if the rule is meant for
the file, is not set aside and matches the node from a fresh trail. -/
def expectedAt? (options : Options) (quarantine : Quarantine) (ust : Ust) (id : NodeId)
    (rule : Rule) : Option Finding :=
  let tried := rule.pattern.matchAt ust id (.fresh options ust.language.caseInsensitive)
  if rule.appliesTo ust.language && rule.appliesToFile ust.file.path &&
      !quarantine.contains rule.key && tried.success then
    some {
      key := rule.key
      file := ust.file
      spans := if tried.locations = [] then [ust.span id] else tried.locations }
  else none

section Expected

variable {options : Options} {quarantine : Quarantine} {ust : Ust} {id : NodeId} {rule : Rule}

theorem expectedAt?_eq :
    expectedAt? options quarantine ust id rule =
      if isActive quarantine ust rule then findingAt? options ust id rule else none := by
  unfold expectedAt? findingAt? spansAt?
  generalize rule.pattern.matchAt ust id (.fresh options ust.language.caseInsensitive) = tried
  rw [← isActive]
  cases isActive quarantine ust rule with
  | false => simp
  | true =>
      cases succeeds : tried.success with
      | false => simp [succeeds]
      | true => by_cases nothing : tried.locations = [] <;> simp [succeeds, nothing]

/-- Trying the rules of a first choice is making the choice at each rule. -/
theorem filterMap_active (rules : List Rule) :
    (active quarantine ust rules).filterMap (findingAt? options ust id) =
      rules.filterMap (expectedAt? options quarantine ust id) := by
  rw [active, List.filterMap_filter]
  exact congrArg (rules.filterMap ·) (funext fun rule => expectedAt?_eq.symm)

theorem spans_ne_nil_of_expectedAt? {finding : Finding}
    (expected : expectedAt? options quarantine ust id rule = some finding) :
    finding.spans ≠ [] := by
  dsimp only [expectedAt?] at expected
  split at expected
  · cases expected
    dsimp only
    split
    · exact List.cons_ne_nil _ _
    · assumption
  · contradiction

end Expected

/-! ## Finding all matches -/

/-- Nodes that differ and rules that differ give pairs that differ. -/
theorem nodup_pairs {order : List NodeId} (nodup : order.Nodup) {rules : List Rule}
    (distinct : rules.Nodup) (report : NodeId → Rule → Option Finding) :
    (order.flatMap fun id => rules.filterMap fun rule =>
      (report id rule).map fun _ => (id, rule)).Nodup := by
  have asProduct : (order.flatMap fun id => rules.filterMap fun rule =>
      (report id rule).map fun _ => (id, rule)) =
      (order.product rules).filterMap fun pair =>
        (report pair.1 pair.2).map fun _ => pair := by
    simp [List.product, List.filterMap_flatMap, List.filterMap_map]
  rw [asProduct]
  refine (nodup.product distinct).filterMap ?_
  simp only [Option.mem_def, Option.map_eq_some_iff]
  rintro first second pair ⟨_, -, rfl⟩ ⟨_, -, rfl⟩
  rfl

/-- A search for all matches that nothing stops.  The walk it makes is the one
walk from the root that takes parents before children.  What it reports is what
is to be reported of each rule, in the order of the rules, at each node of that
walk and then at each comment, and each finding has a span.  The walk comes to
every node under the root, and to no node and so to no pair of a node and a rule
twice. -/
theorem run_findAll_eq_preorder {document : Document} {ust : Ust}
    (accepted : Ust.ofDocument document = .ok ust) (options : Options)
    (findAll : options.findAll = true) (quarantine : Quarantine) (rules : List Rule)
    {polls : Nat → Poll} (quiet : ∀ count, polls count = .proceed) :
    (∀ order, ust.Preorder [ust.root] order ↔ order = ust.root :: ust.descendants ust.root) ∧
      (active quarantine ust rules ≠ [] →
        allVisits options quarantine ust rules =
          (ust.root :: ust.descendants ust.root ++ ust.comments).map fun id =>
            rules.filterMap (expectedAt? options quarantine ust id)) ∧
        (∃ findings, run options quarantine polls ust rules = .ok findings ∧
          findings = ((ust.root :: ust.descendants ust.root ++ ust.comments).flatMap fun id =>
            rules.filterMap (expectedAt? options quarantine ust id)) ∧
            ∀ finding ∈ findings, finding.spans ≠ []) ∧
          (∀ id, id ∈ ust.root :: ust.descendants ust.root ↔ ust.Reaches ust.root id) ∧
            (ust.root :: ust.descendants ust.root).Nodup ∧
              (rules.Nodup →
                ((ust.root :: ust.descendants ust.root).flatMap fun id =>
                  rules.filterMap fun rule =>
                    (expectedAt? options quarantine ust id rule).map fun _ =>
                      (id, rule)).Nodup) := by
  have rooted := Ust.rooted_of_ofDocument accepted
  have forest : ust.Preorder [ust.root] (ust.root :: ust.descendants ust.root) :=
    rooted.preorder_descendants .refl
  have nodup : (ust.root :: ust.descendants ust.root).Nodup := rooted.nodup_descendants .refl
  have reports : ∀ id, reportAt? options ust id = findingAt? options ust id := fun id =>
    funext fun rule => by simp [reportAt?, findAll]
  refine ⟨fun order => ⟨fun other => other.unique forest, ?_⟩, ?_,
    ⟨_, run_eq rooted quiet quarantine rules, ?_, ?_⟩,
    fun id => rooted.mem_cons_descendants_iff .refl, nodup, fun distinct =>
      nodup_pairs nodup distinct _⟩
  · rintro rfl
    exact forest
  · intro tried
    rw [allVisits_eq rooted tried, List.map_append]
    simp only [reports, filterMap_active]
  · rw [List.flatMap_append]
    simp only [reports, filterMap_active]
  · intro finding member
    simp only [reports, filterMap_active, ← List.flatMap_append, List.mem_flatMap,
      List.mem_filterMap] at member
    obtain ⟨id, -, rule, -, expected⟩ := member
    exact spans_ne_nil_of_expectedAt? expected

/-- A rule that matches wherever the number one lies at or below a node. -/
def sampleRule : Rule where
  key := "one"
  name := ""
  label := "one"
  languages := .patternLanguages
  wildcard := none
  pattern := .anywhere (.intLiteral 1)
  value := ""
  format := .json
  cwe := none
  description := ""

/-- In the sample the number is found from the field, from the variable and where
it stands. -/
theorem run_findAll_sampleField :
    ∃ findings,
      run { findAll := true } {} (fun _ => .proceed) Ust.sampleField [sampleRule] = .ok findings ∧
        findings.map Finding.spans = [[⟨8, 1⟩], [⟨8, 1⟩], [⟨8, 1⟩]] := by
  obtain ⟨-, -, ⟨findings, runEq, findingsEq, -⟩, -⟩ :=
    run_findAll_eq_preorder Ust.ofDocument_sampleField { findAll := true } rfl {} [sampleRule]
      fun _ => rfl
  refine ⟨findings, runEq, ?_⟩
  rw [findingsEq]
  decide

/-! ## Reporting a match once -/

/-- A match in the tree. -/
structure Hit where
  node : NodeId
  rule : Rule
  finding : Finding

/-- The matches of the rules in the tree, in the order in which a search for all
matches comes to them. -/
def treeHits (options : Options) (quarantine : Quarantine) (ust : Ust) (rules : List Rule) :
    List Hit :=
  (ust.root :: ust.descendants ust.root).flatMap fun id =>
    rules.filterMap fun rule =>
      (expectedAt? options quarantine ust id rule).map fun finding => ⟨id, rule, finding⟩

/-- What is to be reported at the comments. -/
def commentFindings (options : Options) (quarantine : Quarantine) (ust : Ust)
    (rules : List Rule) : List Finding :=
  ust.comments.flatMap fun id => rules.filterMap (expectedAt? options quarantine ust id)

section Once

variable {options : Options} {quarantine : Quarantine} {ust : Ust} {id : NodeId} {rule : Rule}
  {rules : List Rule}

theorem mem_treeHits_iff (rooted : ust.Rooted) {hit : Hit} :
    hit ∈ treeHits options quarantine ust rules ↔
      ust.Reaches ust.root hit.node ∧ hit.rule ∈ rules ∧
        expectedAt? options quarantine ust hit.node hit.rule = some hit.finding := by
  simp only [treeHits, List.mem_flatMap, rooted.mem_cons_descendants_iff .refl,
    List.mem_filterMap, Option.map_eq_some_iff]
  constructor
  · rintro ⟨id, reached, rule, member, finding, expected, rfl⟩
    exact ⟨reached, member, expected⟩
  · rintro ⟨reached, member, expected⟩
    exact ⟨hit.node, reached, hit.rule, member, hit.finding, expected, rfl⟩

theorem exists_expectedAt?_iff :
    (∃ finding, expectedAt? options quarantine ust id rule = some finding) ↔
      isActive quarantine ust rule = true ∧ matchesAt options ust rule id = true := by
  rw [← Option.isSome_iff_exists, expectedAt?_eq, ← isSome_findingAt?]
  cases isActive quarantine ust rule <;> simp

/-- Above or at each match of a rule there is a match with no other above it. -/
theorem exists_outermost (rooted : ust.Rooted) (reached : ust.Reaches ust.root id) {node : NodeId}
    (path : ust.Reaches node id) (matched : matchesAt options ust rule node = true) :
    ∃ top, ust.Reaches ust.root top ∧ matchesAt options ust rule top = true ∧
      outermost options ust rule top = true := by
  induction reached generalizing node with
  | refl =>
      have isRoot : node = ust.root := by
        rcases reflTransGen_iff_eq_or_transGen.mp path with rfl | path
        · rfl
        · exact absurd path (rooted.not_above_root node)
      refine ⟨ust.root, .refl, isRoot ▸ matched, (outermost_iff rooted .refl).mpr ?_⟩
      intro above isAbove
      exact absurd isAbove (rooted.not_above_root above)
  | @tail parent child toParent isChild ih =>
      rcases reflTransGen_iff_eq_or_transGen.mp path with rfl | path
      · have reached := toParent.tail isChild
        by_cases spared : outermost options ust rule child = true
        · exact ⟨child, reached, matched, spared⟩
        · rw [outermost_iff rooted reached] at spared
          push Not at spared
          obtain ⟨above, isAbove, aboveMatched⟩ := spared
          exact ih ((rooted.above_iff_reaches_parent isChild).mp isAbove)
            (Bool.eq_true_of_not_eq_false aboveMatched)
      · exact ih ((rooted.above_iff_reaches_parent isChild).mp path) matched

/-- The switch for finding all matches has no influence on what is found at a
node. -/
theorem findingAt?_congr {first second : Options}
    (same : first.nonterminalSpans = second.nonterminalSpans) :
    findingAt? first ust id rule = findingAt? second ust id rule := by
  have attempts := Pattern.matchAt_fresh_congr ust rule.pattern id same
    ust.language.caseInsensitive
  rw [findingAt?, findingAt?, spansAt?, spansAt?, attempts.1, attempts.2]

theorem outermost_congr {first second : Options}
    (same : first.nonterminalSpans = second.nonterminalSpans) :
    outermost first ust rule id = outermost second ust rule id := by
  have attempts : ∀ above, matchesAt first ust rule above = matchesAt second ust rule above :=
    fun above => (Pattern.matchAt_fresh_congr ust rule.pattern above same _).1
  simp only [outermost, attempts]

/-- What is reported of a rule in one kind of search or the other. -/
theorem reportAt?_findAll (findAll : Bool) :
    reportAt? { options with findAll } ust id rule =
      if findAll || outermost options ust rule id then findingAt? options ust id rule
      else none := by
  have sameOutermost : outermost { options with findAll } ust rule id =
      outermost options ust rule id := outermost_congr rfl
  have sameFinding : findingAt? { options with findAll } ust id rule =
      findingAt? options ust id rule := findingAt?_congr rfl
  rw [reportAt?, sameOutermost, sameFinding]

/-- What the rules report at one node of the tree. -/
theorem filterMap_active_reportAt? (findAll : Bool) :
    (active quarantine ust rules).filterMap (reportAt? { options with findAll } ust id) =
      rules.filterMap fun rule =>
        if findAll || outermost options ust rule id then
          expectedAt? options quarantine ust id rule
        else none := by
  rw [active, List.filterMap_filter]
  refine congrArg (rules.filterMap ·) (funext fun rule => ?_)
  rw [expectedAt?_eq, reportAt?_findAll]
  cases isActive quarantine ust rule <;> simp

/-- The hits at one node that are not silenced. -/
theorem filterMap_reportAt? (findAll : Bool) :
    (active quarantine ust rules).filterMap (reportAt? { options with findAll } ust id) =
      ((rules.filterMap fun rule =>
          (expectedAt? options quarantine ust id rule).map (Hit.mk id rule)).filter fun hit =>
        findAll || outermost options ust hit.rule hit.node).map Hit.finding := by
  rw [filterMap_active_reportAt?, List.filter_filterMap, List.map_filterMap]
  refine congrArg (rules.filterMap ·) (funext fun rule => ?_)
  cases expectedAt? options quarantine ust id rule with
  | none => simp
  | some finding =>
      cases kept : findAll || outermost options ust rule id <;> simp [Option.filter, kept]

/-- A search that nothing stops reports the hits of the tree that it does not
silence, and then what is to be reported at the comments. -/
theorem run_eq_hits (rooted : ust.Rooted) {polls : Nat → Poll}
    (quiet : ∀ count, polls count = .proceed) (findAll : Bool) :
    run { options with findAll } quarantine polls ust rules =
      .ok (((treeHits options quarantine ust rules).filter fun hit =>
          findAll || outermost options ust hit.rule hit.node).map Hit.finding ++
        commentFindings options quarantine ust rules) := by
  have sameFindings : ∀ id, findingAt? { options with findAll } ust id =
      findingAt? options ust id := fun id => funext fun rule => findingAt?_congr rfl
  rw [run_eq rooted quiet, treeHits, commentFindings, List.filter_flatMap, List.map_flatMap]
  simp only [filterMap_reportAt?, sameFindings, filterMap_active]

theorem matchesAt_of_mem_treeHits (rooted : ust.Rooted) {hit : Hit}
    (member : hit ∈ treeHits options quarantine ust rules) :
    matchesAt options ust hit.rule hit.node = true := by
  obtain ⟨-, -, expected⟩ := (mem_treeHits_iff rooted).mp member
  exact (exists_expectedAt?_iff.mp ⟨hit.finding, expected⟩).2

/-- A rule with a hit has one with no other above it. -/
theorem exists_outermost_hit (rooted : ust.Rooted) {hit : Hit}
    (member : hit ∈ treeHits options quarantine ust rules) :
    ∃ top ∈ treeHits options quarantine ust rules,
      outermost options ust top.rule top.node = true ∧ top.rule = hit.rule := by
  obtain ⟨reached, inRules, expected⟩ := (mem_treeHits_iff rooted).mp member
  obtain ⟨top, topReached, topMatched, spared⟩ :=
    exists_outermost rooted reached .refl (matchesAt_of_mem_treeHits rooted member)
  have isActive := (exists_expectedAt?_iff.mp ⟨hit.finding, expected⟩).1
  obtain ⟨finding, topExpected⟩ := exists_expectedAt?_iff.mpr ⟨isActive, topMatched⟩
  exact ⟨⟨top, hit.rule, finding⟩,
    (mem_treeHits_iff rooted).mpr ⟨topReached, inRules, topExpected⟩, spared, rfl⟩

end Once

/-- A search that reports a match once, that nothing stops, and the search for all
matches with the same options otherwise.  The one reports those hits of the other
that have no match of the same rule properly above them, in the same order, and
the same findings at the comments.  So a rule is reported by both or by none, and
of two hits of one rule that are reported once, neither lies above the other. -/
theorem run_once_eq_outermost {document : Document} {ust : Ust}
    (accepted : Ust.ofDocument document = .ok ust) (options : Options)
    (quarantine : Quarantine) (rules : List Rule) {polls : Nat → Poll}
    (quiet : ∀ count, polls count = .proceed) :
    run { options with findAll := true } quarantine polls ust rules =
        .ok ((treeHits options quarantine ust rules).map Hit.finding ++
          commentFindings options quarantine ust rules) ∧
      run { options with findAll := false } quarantine polls ust rules =
          .ok (((treeHits options quarantine ust rules).filter fun hit =>
              outermost options ust hit.rule hit.node).map Hit.finding ++
            commentFindings options quarantine ust rules) ∧
        (∀ hit ∈ treeHits options quarantine ust rules,
          outermost options ust hit.rule hit.node = true ↔
            ¬ ∃ above, ust.Above above hit.node ∧
              matchesAt options ust hit.rule above = true) ∧
          (∀ rule, (∃ hit ∈ treeHits options quarantine ust rules, hit.rule = rule) ↔
            ∃ hit ∈ treeHits options quarantine ust rules,
              outermost options ust hit.rule hit.node = true ∧ hit.rule = rule) ∧
            ∀ first ∈ treeHits options quarantine ust rules,
              ∀ second ∈ treeHits options quarantine ust rules,
                outermost options ust first.rule first.node = true →
                  outermost options ust second.rule second.node = true →
                    first.rule = second.rule → ¬ ust.Above first.node second.node := by
  have rooted := Ust.rooted_of_ofDocument accepted
  have outermostIff : ∀ hit ∈ treeHits options quarantine ust rules,
      (outermost options ust hit.rule hit.node = true ↔
        ∀ above, ust.Above above hit.node → matchesAt options ust hit.rule above = false) :=
    fun hit member => outermost_iff rooted ((mem_treeHits_iff rooted).mp member).1
  refine ⟨?_, ?_, ?_, ?_, ?_⟩
  · rw [run_eq_hits rooted quiet true]
    simp
  · rw [run_eq_hits rooted quiet false]
    simp
  · intro hit member
    rw [outermostIff hit member]
    simp
  · intro rule
    constructor
    · rintro ⟨hit, member, rfl⟩
      exact exists_outermost_hit rooted member
    · rintro ⟨hit, member, -, ruleEq⟩
      exact ⟨hit, member, ruleEq⟩
  · intro first firstMember second secondMember _ spared sameRule isAbove
    have matched := matchesAt_of_mem_treeHits rooted firstMember
    rw [sameRule, (outermostIff second secondMember).mp spared first.node isAbove] at matched
    contradiction

/-- In the sample the number is found from the field, and what lies below the
field is left out. -/
theorem run_once_sampleField :
    ∃ findings,
      run { findAll := false } {} (fun _ => .proceed) Ust.sampleField [sampleRule] =
          .ok findings ∧ findings.map Finding.spans = [[⟨8, 1⟩]] := by
  obtain ⟨-, runEq, -⟩ :=
    run_once_eq_outermost Ust.ofDocument_sampleField {} {} [sampleRule] fun _ => rfl
  exact ⟨_, runEq, by decide⟩

end Search

end TreeSieve
