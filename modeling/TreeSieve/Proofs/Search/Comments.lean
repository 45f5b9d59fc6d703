import TreeSieve.Proofs.Search.Reports

/-!
# Matches that are reported twice

A search comes to the nodes under the root and then to the comments, and at a
comment it does not remember whether it has been there.  Of its comments a
document is only asked to have them: a comment may be listed twice, and it may be
a node of the tree.

How often a rule is reported at a node is counted here.  It is once for the walk
through the tree, if that comes to the node, and once for each time the node is
listed as a comment.  So a search that reports a match once repeats itself at
comments only, and it does not if they are listed once and lie outside the tree.
-/

namespace TreeSieve

open Relation

namespace Search

/-- A finding, with the node and the place of the rule that has been tried there. -/
structure Report where
  node : NodeId
  place : Nat
  finding : Finding

/-- The attempt that a report comes from. -/
def Report.origin (report : Report) : NodeId × Nat :=
  (report.node, report.place)

/-- What some rules report at a node, if `report?` is what one of them reports. -/
def reportsAt (report? : NodeId → Rule → Option Finding) (rules : List Rule) (id : NodeId) :
    List Report :=
  rules.zipIdx.filterMap fun entry => (report? id entry.1).map (Report.mk id entry.2)

/-- The reports of a search that reports a match once: at the nodes of the tree
where a rule is not silenced, and at the comments. -/
def onceReports (options : Options) (quarantine : Quarantine) (ust : Ust) (rules : List Rule) :
    List Report :=
  (ust.root :: ust.descendants ust.root).flatMap (reportsAt (fun id rule =>
      if outermost options ust rule id then expectedAt? options quarantine ust id rule
      else none) rules) ++
    ust.comments.flatMap (reportsAt (expectedAt? options quarantine ust) rules)

/-! ## Counting reports -/

section Counting

variable {report? : NodeId → Rule → Option Finding} {rules : List Rule}

theorem mem_reportsAt_iff {id : NodeId} {report : Report} :
    report ∈ reportsAt report? rules id ↔
      report.node = id ∧ ∃ rule, rules[report.place]? = some rule ∧
        report? id rule = some report.finding := by
  simp only [reportsAt, List.mem_filterMap, Prod.exists, List.mem_zipIdx_iff_getElem?,
    Option.map_eq_some_iff]
  constructor
  · rintro ⟨rule, place, found, finding, reported, rfl⟩
    exact ⟨rfl, rule, found, reported⟩
  · rintro ⟨rfl, rule, found, reported⟩
    exact ⟨rule, report.place, found, report.finding, reported, rfl⟩

theorem map_finding_reportsAt (id : NodeId) :
    (reportsAt report? rules id).map Report.finding = rules.filterMap (report? id) := by
  have firsts : rules.zipIdx.filterMap (fun entry => report? id entry.1) =
      rules.filterMap (report? id) := by
    conv_rhs => rw [← List.zipIdx_map_fst 0 rules, List.filterMap_map]
    rfl
  rw [reportsAt, List.map_filterMap, ← firsts]
  refine congrArg (List.filterMap · _) (funext fun entry => ?_)
  rw [Option.map_map]
  exact Option.map_id_apply

/-- The rules are tried one after the other, each of them once. -/
theorem nodup_origins_reportsAt (id : NodeId) :
    ((reportsAt report? rules id).map Report.origin).Nodup := by
  have inOrder : rules.zipIdx.Pairwise fun first second => first.2 < second.2 := by
    refine List.pairwise_map.mp ?_
    rw [List.zipIdx_map_snd]
    exact List.pairwise_lt_range'
  rw [List.Nodup, List.pairwise_map, reportsAt, List.pairwise_filterMap]
  refine inOrder.imp fun {first second} before => ?_
  simp only [Option.map_eq_some_iff]
  rintro _ ⟨_, -, rfl⟩ _ ⟨_, -, rfl⟩ same
  exact Nat.ne_of_lt before (Prod.mk.inj same).2

/-- A rule that reports something at a node does so each time the node is visited. -/
theorem count_origins (order : List NodeId) (id : NodeId) (place : Nat) :
    ((order.flatMap (reportsAt report? rules)).map Report.origin).count (id, place) =
      if (rules[place]?.bind (report? id)).isSome then order.count id else 0 := by
  induction order with
  | nil => simp
  | cons head rest ih =>
      have member : (id, place) ∈ (reportsAt report? rules head).map Report.origin ↔
          head = id ∧ (rules[place]?.bind (report? id)).isSome = true := by
        simp only [List.mem_map, mem_reportsAt_iff, Option.isSome_iff_exists,
          Option.bind_eq_some_iff]
        constructor
        · rintro ⟨report, ⟨rfl, rule, found, reported⟩, same⟩
          cases same
          exact ⟨rfl, report.finding, rule, found, reported⟩
        · rintro ⟨rfl, finding, rule, found, reported⟩
          exact ⟨⟨head, place, finding⟩, ⟨rfl, rule, found, reported⟩, rfl⟩
      rw [List.flatMap_cons, List.map_append, List.count_append, ih,
        (nodup_origins_reportsAt head).count, List.count_cons]
      simp only [member, beq_iff_eq]
      split_ifs <;> simp_all [Nat.add_comm]

end Counting

/-! ## Reporting a match once -/

section Once

variable {options : Options} {quarantine : Quarantine} {ust : Ust} {rules : List Rule}

theorem run_eq_onceReports (rooted : ust.Rooted) {polls : Nat → Poll}
    (quiet : ∀ count, polls count = .proceed) :
    run { options with findAll := false } quarantine polls ust rules =
      .ok ((onceReports options quarantine ust rules).map Report.finding) := by
  have sameFindings : ∀ id, findingAt? { options with findAll := false } ust id =
      findingAt? options ust id := fun id => funext fun rule => findingAt?_congr rfl
  rw [run_eq rooted quiet, onceReports, List.map_append, List.map_flatMap, List.map_flatMap]
  simp only [filterMap_active_reportAt?, Bool.false_or, sameFindings, filterMap_active,
    map_finding_reportsAt]

/-- What a search reports does not depend on how it is asked to stop, as long as it
is not stopped. -/
theorem eq_flatten_of_gather {file : String} {polls : Nat → Poll} {count : Nat}
    {visits : List (List Finding)} {findings : List Finding}
    (gathered : gather file polls count visits = .ok findings) : findings = visits.flatten := by
  induction visits generalizing count findings with
  | nil => exact (Except.ok.inj gathered).symm
  | cons found rest ih =>
      rw [gather] at gathered
      split at gathered
      · cases later : gather file polls (count + 1) rest with
        | error failure =>
            rw [later] at gathered
            contradiction
        | ok behind =>
            rw [later] at gathered
            rw [← Except.ok.inj gathered, ih later, List.flatten_cons]
      · contradiction
      · contradiction

theorem exists_expectedAt?_of_mem_onceReports {report : Report}
    (member : report ∈ onceReports options quarantine ust rules) :
    ∃ rule, rules[report.place]? = some rule ∧
      expectedAt? options quarantine ust report.node rule = some report.finding := by
  simp only [onceReports, List.mem_append, List.mem_flatMap, mem_reportsAt_iff] at member
  rcases member with ⟨_, -, rfl, rule, found, reported⟩ | ⟨_, -, rfl, rule, found, reported⟩
  · split at reported
    · exact ⟨rule, found, reported⟩
    · contradiction
  · exact ⟨rule, found, reported⟩

/-- How often a rule that is to be reported at a node is reported there: once if the
walk comes to the node and the rule is not silenced, and once for each time the node
is a comment. -/
theorem count_origins_onceReports (id : NodeId) {place : Nat} {rule : Rule}
    (found : rules[place]? = some rule)
    (expected : (expectedAt? options quarantine ust id rule).isSome = true) :
    ((onceReports options quarantine ust rules).map Report.origin).count (id, place) =
      (if outermost options ust rule id then (ust.root :: ust.descendants ust.root).count id
        else 0) + ust.comments.count id := by
  rw [onceReports, List.map_append, List.count_append, count_origins, count_origins, found]
  simp only [Option.bind_some, expected, if_true]
  by_cases spared : outermost options ust rule id = true <;> simp [spared, expected]

theorem count_origins_onceReports_eq_zero {id : NodeId} {place : Nat}
    (never : ∀ rule, rules[place]? = some rule →
      (expectedAt? options quarantine ust id rule).isSome = false) :
    ((onceReports options quarantine ust rules).map Report.origin).count (id, place) = 0 := by
  rw [List.count_eq_zero, List.mem_map]
  rintro ⟨report, member, same⟩
  cases same
  obtain ⟨rule, found, expected⟩ := exists_expectedAt?_of_mem_onceReports member
  have absent := never rule found
  rw [expected] at absent
  contradiction

/-- A search repeats a report exactly at comments that are listed twice or that the
walk has already reported. -/
theorem nodup_origins_onceReports_iff (rooted : ust.Rooted) :
    ((onceReports options quarantine ust rules).map Report.origin).Nodup ↔
      ∀ comment ∈ ust.comments, ∀ rule ∈ rules,
        (expectedAt? options quarantine ust comment rule).isSome = true →
          ust.comments.count comment = 1 ∧
            (ust.Reaches ust.root comment → outermost options ust rule comment = false) := by
  have visited : ∀ id, (ust.root :: ust.descendants ust.root).count id ≤ 1 :=
    List.nodup_iff_count_le_one.mp (rooted.nodup_descendants .refl)
  rw [List.nodup_iff_count_le_one]
  constructor
  · intro once comment listed rule member expected
    obtain ⟨place, found⟩ := List.mem_iff_getElem?.mp member
    have bound := once (comment, place)
    rw [count_origins_onceReports comment found expected] at bound
    have positive : 0 < ust.comments.count comment := List.count_pos_iff.mpr listed
    refine ⟨by omega, fun reached => ?_⟩
    have walked : 0 < (ust.root :: ust.descendants ust.root).count comment :=
      List.count_pos_iff.mpr ((rooted.mem_cons_descendants_iff .refl).mpr reached)
    by_contra reported
    rw [Bool.not_eq_false] at reported
    rw [if_pos reported] at bound
    omega
  · rintro apart ⟨id, place⟩
    by_cases expected : ∃ rule, rules[place]? = some rule ∧
        (expectedAt? options quarantine ust id rule).isSome = true
    · obtain ⟨rule, found, expected⟩ := expected
      rw [count_origins_onceReports id found expected]
      by_cases listed : id ∈ ust.comments
      · obtain ⟨listedOnce, silenced⟩ :=
          apart id listed rule (List.mem_of_getElem? found) expected
        by_cases reached : ust.Reaches ust.root id
        · simp [silenced reached, listedOnce]
        · have notWalked : (ust.root :: ust.descendants ust.root).count id = 0 :=
            List.count_eq_zero.mpr fun member =>
              reached ((rooted.mem_cons_descendants_iff .refl).mp member)
          simp [notWalked, listedOnce]
      · rw [List.count_eq_zero.mpr listed, Nat.add_zero]
        split
        · exact visited id
        · exact Nat.zero_le 1
    · push Not at expected
      rw [count_origins_onceReports_eq_zero fun rule found =>
        Bool.eq_false_iff.mpr (expected rule found)]
      exact Nat.zero_le 1

end Once

/-- Whatever a search that reports a match once reports, unless it is stopped, are
the reports counted here, and nothing stops it if every answer is to go on.  Each of
them is what is to be reported of its rule at its node.  The comments are nodes of
the document.  No attempt is reported twice exactly if each comment at which a rule
is to be reported is listed once and, if the root reaches it, has a match of the rule
above it.  So it is if the comments are listed once, have no parent and are not the
root.

The search is the one defined here, which goes down from a node no more steps than there
are nodes.  Where comments come to circles, that nothing stops it does not say that going
down comes to an end; `Search.Ends` tells where it does. -/
theorem run_once_nodup_iff_comments_apart {document : Document} {ust : Ust}
    (accepted : Ust.ofDocument document = .ok ust) (options : Options)
    (quarantine : Quarantine) (rules : List Rule) :
    (∀ polls findings,
      run { options with findAll := false } quarantine polls ust rules = .ok findings →
        findings = (onceReports options quarantine ust rules).map Report.finding) ∧
      (∀ polls, (∀ count, polls count = .proceed) →
        run { options with findAll := false } quarantine polls ust rules =
          .ok ((onceReports options quarantine ust rules).map Report.finding)) ∧
        (∀ report ∈ onceReports options quarantine ust rules,
          ∃ rule, rules[report.place]? = some rule ∧
            expectedAt? options quarantine ust report.node rule = some report.finding) ∧
          (∀ comment ∈ ust.comments, comment.index < ust.size) ∧
            (((onceReports options quarantine ust rules).map Report.origin).Nodup ↔
              ∀ comment ∈ ust.comments, ∀ rule ∈ rules,
                (expectedAt? options quarantine ust comment rule).isSome = true →
                  ust.comments.count comment = 1 ∧
                    (ust.Reaches ust.root comment →
                      outermost options ust rule comment = false)) ∧
              (ust.comments.Nodup →
                (∀ comment ∈ ust.comments, comment ≠ ust.root ∧ ust.parent? comment = none) →
                  ((onceReports options quarantine ust rules).map Report.origin).Nodup) := by
  have rooted := Ust.rooted_of_ofDocument accepted
  have complete : ∀ polls : Nat → Poll, (∀ count, polls count = .proceed) →
      run { options with findAll := false } quarantine polls ust rules =
        .ok ((onceReports options quarantine ust rules).map Report.finding) :=
    fun polls quiet => run_eq_onceReports rooted quiet
  constructor
  · intro polls findings reported
    have all := complete (fun _ => .proceed) fun _ => rfl
    rw [run, gather_eq_flatten fun _ => rfl] at all
    rw [eq_flatten_of_gather reported, Except.ok.inj all]
  constructor
  · exact complete
  constructor
  · intro report
    exact exists_expectedAt?_of_mem_onceReports
  constructor
  · rcases Ust.eq_of_ofDocument accepted with ⟨sound, rfl⟩
    intro comment listed
    have present := (Document.sound_of_fault?_eq_none sound).2.1 comment listed
    simpa [Document.hasNode, Ust.size] using present
  constructor
  · exact nodup_origins_onceReports_iff rooted
  · intro distinct apart
    refine (nodup_origins_onceReports_iff rooted).mpr fun comment listed rule _ _ => ?_
    refine ⟨List.count_eq_one_of_mem distinct listed, fun reached => ?_⟩
    rcases reached.cases_tail with isRoot | ⟨parent, -, isChild⟩
    · exact absurd isRoot (apart comment listed).1
    · have parentEq := Ust.parent?_of_isChild accepted isChild
      rw [(apart comment listed).2] at parentEq
      contradiction

end Search

/-- A block and a comment, which may be one of its statements. -/
def Document.sampleRemark (items : List NodeId) : Document where
  language := .java
  file := .unindexed "A.java" "\x7b /* x */ \x7d"
  nodes := #[⟨.block items, ⟨0, 11⟩⟩, ⟨.comment "/* x */", ⟨2, 7⟩⟩]
  root := ⟨0⟩
  comments := [⟨1⟩]

/-- The tree of the block and the comment. -/
def Ust.sampleRemark (items : List NodeId) : Ust where
  toDocument := { Document.sampleRemark items with
    file := (Document.sampleRemark items).file.indexed }
  parents := some (parentTable (Document.sampleRemark items))

namespace Search

/-- A rule that matches whatever is no list of statements. -/
def sampleNoBlock : Rule :=
  { sampleRule with key := "remark", pattern := .negation (.statements []) }

/-- Beside the block, the comment is reported once. -/
theorem nodup_onceReports_sampleRemark :
    Ust.ofDocument (.sampleRemark []) = .ok (.sampleRemark []) ∧
      (∃ findings,
        run { findAll := false } {} (fun _ => .proceed) (.sampleRemark []) [sampleNoBlock] =
            .ok findings ∧ findings.map Finding.spans = [[⟨2, 7⟩]]) ∧
        ((onceReports {} {} (.sampleRemark []) [sampleNoBlock]).map Report.origin).Nodup := by
  have accepted : Ust.ofDocument (.sampleRemark []) = .ok (.sampleRemark []) := rfl
  obtain ⟨-, complete, -, -, -, apart⟩ :=
    run_once_nodup_iff_comments_apart accepted {} {} [sampleNoBlock]
  exact ⟨accepted, ⟨_, complete _ fun _ => rfl, by decide⟩, apart (by decide) (by decide)⟩

/-- Inside the block, the comment has a parent and is reported twice, in the tree and
as a comment. -/
theorem repeated_sampleRemark :
    Ust.ofDocument (.sampleRemark [⟨1⟩]) = .ok (.sampleRemark [⟨1⟩]) ∧
      (⟨1⟩ : NodeId) ∈ (Ust.sampleRemark [⟨1⟩]).comments ∧
        (Ust.sampleRemark [⟨1⟩]).parent? ⟨1⟩ = some ⟨0⟩ ∧
          (Ust.sampleRemark [⟨1⟩]).Reaches ⟨0⟩ ⟨1⟩ ∧
            (onceReports {} {} (.sampleRemark [⟨1⟩]) [sampleNoBlock]).map Report.origin =
              [(⟨1⟩, 0), (⟨1⟩, 0)] ∧
              ∃ finding,
                run { findAll := false } {} (fun _ => .proceed) (.sampleRemark [⟨1⟩])
                  [sampleNoBlock] = .ok [finding, finding] := by
  have isChild : (Ust.sampleRemark [⟨1⟩]).IsChild ⟨0⟩ ⟨1⟩ :=
    show (⟨1⟩ : NodeId) ∈ (Ust.sampleRemark [⟨1⟩]).children ⟨0⟩ by decide
  exact ⟨rfl, by decide, by decide, .single isChild, by decide, _, rfl⟩

end Search

end TreeSieve
