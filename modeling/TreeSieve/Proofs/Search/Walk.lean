import TreeSieve.Proofs.Ust.Preorder
import TreeSieve.Search

/-!
# The walk of a search

A search walks a tree with a list of tasks and a rule may be silenced while it
does.  The nodes that are still to be left are those above the node that is
visited next, and a rule is silent exactly if it matches one of them and not all
matches are asked for.  So what is reported at a node depends on the node and
not on the walk that came to it.

From this the tasks disappear: a search reports, for the nodes parents before
children and then for the comments, what each rule reports there.
-/

namespace TreeSieve

open Relation

namespace Search

/-- Whether a rule matches a node, from a fresh trail. -/
def matchesAt (options : Options) (ust : Ust) (rule : Rule) (id : NodeId) : Bool :=
  (rule.pattern.matchAt ust id (.fresh options ust.language.caseInsensitive)).success

/-- Whether a rule matches no node that has the given one among its
descendants. -/
def outermost (options : Options) (ust : Ust) (rule : Rule) (id : NodeId) : Bool :=
  (ust.root :: ust.descendants ust.root).all fun above =>
    !((ust.descendants above).contains id && matchesAt options ust rule above)

/-- What a search reports of a rule at a node of the tree. -/
def reportAt? (options : Options) (ust : Ust) (id : NodeId) (rule : Rule) : Option Finding :=
  if options.findAll || outermost options ust rule id then findingAt? options ust id rule else none

section Rules

variable {options : Options} {ust : Ust} {rule : Rule} {id : NodeId}

theorem isSome_findingAt? :
    (findingAt? options ust id rule).isSome = matchesAt options ust rule id := by
  rw [findingAt?, Option.isSome_map, spansAt?, matchesAt]
  cases matched :
      (rule.pattern.matchAt ust id (.fresh options ust.language.caseInsensitive)).success with
  | false => simp
  | true =>
      simp only [Bool.not_true, Bool.false_eq_true, if_false]
      split <;> rfl

/-- Having the node among the descendants is lying above it. -/
theorem outermost_iff (rooted : ust.Rooted) (reached : ust.Reaches ust.root id) :
    outermost options ust rule id = true ↔
      ∀ above, ust.Above above id → matchesAt options ust rule above = false := by
  simp only [outermost, List.all_eq_true, rooted.mem_cons_descendants_iff .refl,
    Bool.not_eq_true', Bool.and_eq_false_imp, List.contains_iff_mem]
  constructor
  · intro spared above isAbove
    have aboveReached := rooted.reaches_of_above reached isAbove.to_reflTransGen
    exact spared above aboveReached ((rooted.mem_descendants_iff aboveReached).mpr isAbove)
  · intro spared above aboveReached member
    exact spared above ((rooted.mem_descendants_iff aboveReached).mp member)

end Rules

/-! ## Silenced rules -/

/-- How a rule stands below some nodes, the outermost first. -/
def trialBelow (options : Options) (ust : Ust) (above : List NodeId) (rule : Rule) : Trial where
  rule
  silencer := if options.findAll then none else above.find? (matchesAt options ust rule)

section Steps

variable {options : Options} {ust : Ust} {above : List NodeId} {id : NodeId}

/-- Below exactly the nodes above a node, none of them silences a rule that is
outermost there. -/
theorem outermost_eq_isNone (rooted : ust.Rooted) (reached : ust.Reaches ust.root id)
    (chain : ∀ node, node ∈ above ↔ ust.Above node id) (rule : Rule) :
    outermost options ust rule id = (above.find? (matchesAt options ust rule)).isNone := by
  rw [Bool.eq_iff_iff, outermost_iff rooted reached, Option.isNone_iff_eq_none,
    List.find?_eq_none]
  simp only [chain, Bool.not_eq_true]

/-- Below exactly the nodes above a node, a rule is tried unless it is silenced
there. -/
theorem attempt_trialBelow (rooted : ust.Rooted) (reached : ust.Reaches ust.root id)
    (chain : ∀ node, node ∈ above ↔ ust.Above node id) (rule : Rule) :
    (trialBelow options ust above rule).attempt options ust id =
      (reportAt? options ust id rule, trialBelow options ust (above ++ [id]) rule) := by
  have matched : (findingAt? options ust id rule).isSome = matchesAt options ust rule id :=
    isSome_findingAt?
  have spared : outermost options ust rule id =
      (above.find? (matchesAt options ust rule)).isNone :=
    outermost_eq_isNone rooted reached chain rule
  cases all : options.findAll with
  | true =>
      simp only [Trial.attempt, trialBelow, reportAt?, all, if_true, Option.isSome_none,
        Bool.true_or, Bool.false_eq_true, if_false]
      cases findingAt? options ust id rule <;> rfl
  | false =>
      simp only [Trial.attempt, trialBelow, reportAt?, all, Bool.false_or, Bool.false_eq_true,
        if_false, List.find?_append, List.find?_singleton, spared]
      cases found : above.find? (matchesAt options ust rule) with
      | some silencer => simp
      | none =>
          cases result : findingAt? options ust id rule with
          | none =>
              rw [result] at matched
              simp [← matched]
          | some finding =>
              rw [result] at matched
              simp [← matched]

/-- Leaving a node gives back the rules that it has silenced and no others. -/
theorem release_trialBelow (notAbove : id ∉ above) (rule : Rule) :
    (trialBelow options ust (above ++ [id]) rule).release id =
      trialBelow options ust above rule := by
  unfold trialBelow Trial.release
  cases options.findAll with
  | true => rfl
  | false =>
      simp only [List.find?_append, List.find?_singleton]
      cases found : above.find? (matchesAt options ust rule) with
      | some silencer =>
          have distinct : silencer ≠ id := by
            rintro rfl
            exact notAbove (List.mem_of_find?_eq_some found)
          simp [distinct]
      | none => cases matchesAt options ust rule id <;> simp

/-- Visiting a node reports its findings and puts it at the end of the nodes
above. -/
theorem walk_enter (rooted : ust.Rooted) (reached : ust.Reaches ust.root id)
    (chain : ∀ node, node ∈ above ↔ ust.Above node id) (count : Nat) (tasks : List Task)
    (rules : List Rule) :
    walk options ust (count + 1) (.enter id :: tasks) (rules.map (trialBelow options ust above)) =
      rules.filterMap (reportAt? options ust id) ::
        walk options ust count ((ust.children id).map .enter ++ .leave id :: tasks)
          (rules.map (trialBelow options ust (above ++ [id]))) := by
  have attempts : (fun rule => (trialBelow options ust above rule).attempt options ust id) =
      fun rule => (reportAt? options ust id rule, trialBelow options ust (above ++ [id]) rule) :=
    funext (attempt_trialBelow rooted reached chain)
  simp only [walk, List.map_map, List.filterMap_map, Function.comp_def, attempts]

/-- Leaving a node takes it off again. -/
theorem walk_leave (notAbove : id ∉ above) (count : Nat) (tasks : List Task)
    (rules : List Rule) :
    walk options ust (count + 1) (.leave id :: tasks)
        (rules.map (trialBelow options ust (above ++ [id]))) =
      walk options ust count tasks (rules.map (trialBelow options ust above)) := by
  have releases : (fun rule => (trialBelow options ust (above ++ [id]) rule).release id) =
      trialBelow options ust above :=
    funext (release_trialBelow notAbove)
  simp only [walk, List.map_map, Function.comp_def, releases]

/-- A walk that is to visit some nodes with the same nodes above visits all that
lies under them, two tasks for each, and then goes on as if they had not been
there. -/
theorem walk_forest (rooted : ust.Rooted) {ids order : List NodeId}
    (forest : ust.Preorder ids order) (reached : ∀ id ∈ ids, ust.Reaches ust.root id)
    (chain : ∀ id ∈ ids, ∀ node, node ∈ above ↔ ust.Above node id) (count : Nat)
    (tasks : List Task) (rules : List Rule) :
    walk options ust (2 * order.length + count) (ids.map .enter ++ tasks)
        (rules.map (trialBelow options ust above)) =
      order.map (fun id => rules.filterMap (reportAt? options ust id)) ++
        walk options ust count tasks (rules.map (trialBelow options ust above)) := by
  induction forest generalizing above count tasks with
  | nil => simp
  | @cons id rest below after under beside ihUnder ihBeside =>
      have here := reached id List.mem_cons_self
      have above_iff := chain id List.mem_cons_self
      have notAbove : id ∉ above := fun member =>
        rooted.not_above_self here ((above_iff id).mp member)
      -- Below the node, the nodes above are those above it and the node itself.
      have chainBelow : ∀ child ∈ ust.children id, ∀ node,
          node ∈ above ++ [id] ↔ ust.Above node child := by
        intro child isChild node
        rw [rooted.above_iff_reaches_parent isChild, List.mem_append, List.mem_singleton,
          above_iff, or_comm, eq_comm]
        exact reflTransGen_iff_eq_or_transGen.symm
      have walkBelow := ihUnder (fun child isChild => here.tail isChild) chainBelow
        (2 * after.length + count + 1) (.leave id :: (rest.map .enter ++ tasks))
      have walkAfter := ihBeside
        (fun other member => reached other (List.mem_cons_of_mem id member))
        (fun other member => chain other (List.mem_cons_of_mem id member)) count tasks
      have countEq : 2 * (id :: (below ++ after)).length + count =
          2 * below.length + (2 * after.length + count + 1) + 1 := by
        simp only [List.length_cons, List.length_append]
        omega
      rw [countEq, List.map_cons, List.cons_append, walk_enter rooted here above_iff, walkBelow,
        walk_leave notAbove, walkAfter]
      simp

end Steps

/-! ## All visits -/

section Visits

variable {options : Options} {ust : Ust}

theorem walk_nil (count : Nat) (trials : List Trial) : walk options ust count [] trials = [] := by
  cases count <;> rfl

/-- The walk from the root has tasks enough, and more of them make no difference. -/
theorem walk_root_eq (rooted : ust.Rooted) (rules : List Rule) {count : Nat}
    (enough : 2 * ust.size ≤ count) :
    walk options ust count [.enter ust.root] (rules.map fun rule => { rule }) =
      (ust.root :: ust.descendants ust.root).map fun id =>
        rules.filterMap (reportAt? options ust id) := by
  have reached : ∀ id ∈ [ust.root], ust.Reaches ust.root id := by
    simp [ReflTransGen.refl]
  have chain : ∀ id ∈ [ust.root], ∀ node, node ∈ [] ↔ ust.Above node id := by
    simp [rooted.not_above_root]
  have forest : ust.Preorder [ust.root] (ust.root :: ust.descendants ust.root) :=
    rooted.preorder_descendants .refl
  have lengthLt := rooted.length_descendants_lt .refl
  have twoEach : 2 * (ust.root :: ust.descendants ust.root).length ≤ count := by
    rw [List.length_cons]
    omega
  obtain ⟨spare, rfl⟩ := Nat.exists_eq_add_of_le twoEach
  have start : (rules.map fun rule => ({ rule } : Trial)) =
      rules.map (trialBelow options ust []) := by
    simp [trialBelow]
  rw [start]
  refine (walk_forest rooted forest reached chain spare [] rules).trans ?_
  rw [walk_nil, List.append_nil]

theorem treeVisits_eq (rooted : ust.Rooted) (rules : List Rule) :
    treeVisits options ust rules =
      (ust.root :: ust.descendants ust.root).map fun id =>
        rules.filterMap (reportAt? options ust id) :=
  walk_root_eq rooted rules (Nat.le_refl _)

/-- Gathering the visits of a search that nothing stops puts their findings one
behind the other. -/
theorem gather_eq_flatten {polls : Nat → Poll} (quiet : ∀ count, polls count = .proceed)
    (file : String) (count : Nat) (visits : List (List Finding)) :
    gather file polls count visits = .ok visits.flatten := by
  induction visits generalizing count with
  | nil => rfl
  | cons found rest ih =>
      rw [gather, quiet count, ih (count + 1)]
      rfl

/-- Rules that find the same each, as seen in one way, find the same together. -/
theorem map_filterMap_congr {α : Type} {view : Finding → α} {report other : Rule → Option Finding}
    (same : ∀ rule, (other rule).map view = (report rule).map view) (rules : List Rule) :
    (rules.filterMap other).map view = (rules.filterMap report).map view := by
  rw [List.map_filterMap, List.map_filterMap]
  exact congrArg (rules.filterMap ·) (funext same)

/-- Gathering visits that find the same, as seen in one way, gives the same, or fails in
the same way. -/
theorem gather_congr {α : Type} {view : Finding → α} (file : String) (polls : Nat → Poll)
    {visits others : List (List Finding)}
    (same : others.map (List.map view) = visits.map (List.map view)) (count : Nat) :
    (gather file polls count others).map (List.map view) =
      (gather file polls count visits).map (List.map view) := by
  have mapAppend : ∀ (found : List Finding) (result : Except Failure (List Finding)),
      (result.map (found ++ ·)).map (List.map view) =
        (result.map (List.map view)).map (found.map view ++ ·) := by
    intro found result
    cases result <;> simp [Except.map]
  induction visits generalizing others count with
  | nil =>
      rw [List.map_nil, List.map_eq_nil_iff] at same
      rw [same]
  | cons found rest ih =>
      rw [List.map_cons] at same
      obtain ⟨otherFound, otherRest, rfl, sameFound, sameRest⟩ := List.map_eq_cons_iff.mp same
      rw [gather, gather]
      cases polls count with
      | proceed => rw [mapAppend, mapAppend, ih sameRest (count + 1), sameFound]
      | shutdown => rfl
      | deadline => rfl

/-- If there is a rule to try, each node is visited, parents before children, and
then each comment. -/
theorem allVisits_eq (rooted : ust.Rooted) {quarantine : Quarantine} {rules : List Rule}
    (tried : active quarantine ust rules ≠ []) :
    allVisits options quarantine ust rules =
      ((ust.root :: ust.descendants ust.root).map fun id =>
          (active quarantine ust rules).filterMap (reportAt? options ust id)) ++
        ust.comments.map fun id =>
          (active quarantine ust rules).filterMap (findingAt? options ust id) := by
  unfold allVisits
  split
  · contradiction
  · rw [treeVisits_eq rooted, commentVisits]

/-- A search that nothing stops reports what the rules that are tried report at
the nodes, parents before children, and then what they find at the comments. -/
theorem run_eq (rooted : ust.Rooted) {polls : Nat → Poll}
    (quiet : ∀ count, polls count = .proceed) (quarantine : Quarantine) (rules : List Rule) :
    run options quarantine polls ust rules =
      .ok (((ust.root :: ust.descendants ust.root).flatMap fun id =>
          (active quarantine ust rules).filterMap (reportAt? options ust id)) ++
        ust.comments.flatMap fun id =>
          (active quarantine ust rules).filterMap (findingAt? options ust id)) := by
  rw [run, gather_eq_flatten quiet]
  by_cases tried : active quarantine ust rules = []
  · simp [allVisits, tried]
  · rw [allVisits_eq rooted tried, List.flatten_append, List.flatMap_def, List.flatMap_def]

end Visits

end Search

end TreeSieve
