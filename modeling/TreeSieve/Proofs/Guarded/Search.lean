import Mathlib.Data.List.ReduceOption
import TreeSieve.Proofs.Guarded.Document
import TreeSieve.Proofs.Guarded.Nesting

/-!
# Guarded searches

A guarded search makes the visits of a search with guarded matching, and it reads the
nodes that it visits.  The visits are made before the answers of the polls are looked at;
a search that is interrupted reads a part of what is read here.

In an accepted document nothing stops a guarded search but want of steps, since it
enters the root, children and comments only.  With enough steps it comes to what the
search comes to, unless a comment or its type lies above itself.
-/

namespace TreeSieve

namespace Guarded

/-! ## Visits -/

section Visits

variable (options : Options) (ust : Ust) (steps : Nat)

/-- The spans of a rule that matches a node. -/
def spansAt (rule : Rule) (id : NodeId) : Run (Option (List Span)) := do
  let trail ← matchAt ust steps rule.pattern id (.fresh options ust.language.caseInsensitive)
  if !trail.success then return none
  else if trail.locations.isEmpty then
    let found ← node ust id
    return some [found.span]
  else return some trail.locations

/-- What a rule finds at a node. -/
def findingAt (id : NodeId) (rule : Rule) : Run (Option Finding) := do
  let spans ← spansAt options ust steps rule id
  return spans.map fun spans => ⟨rule.key, ust.file, spans⟩

/-- Try a rule at a node unless it is silent. -/
def attempt (id : NodeId) (trial : Search.Trial) : Run (Option Finding × Search.Trial) :=
  if trial.silencer.isSome then return (none, trial)
  else do
    match ← findingAt options ust steps id trial.rule with
    | none => return (none, trial)
    | some finding =>
        return (some finding,
          if options.findAll then trial else { trial with silencer := some id })

/-- What is found at each visit of a walk that has `count` tasks at most. -/
def walk : (count : Nat) → List Search.Task → List Search.Trial → Run (List (List Finding))
  | _, [], _ => return []
  | 0, _ :: _, _ => .error .outOfSteps
  | count + 1, .leave id :: tasks, trials => walk count tasks (trials.map (·.release id))
  | count + 1, .enter id :: tasks, trials => do
      let tried ← trials.mapM (attempt options ust steps id)
      let found ← node ust id
      let rest ← walk count (found.kind.children.map .enter ++ .leave id :: tasks)
        (tried.map (·.2))
      return tried.filterMap (·.1) :: rest

/-- What is found at each comment. -/
def commentVisits (rules : List Rule) : Run (List (List Finding)) :=
  ust.comments.mapM fun comment => do
    let found ← rules.mapM (findingAt options ust steps comment)
    return found.reduceOption

/-- What is found at each visit of a tree. -/
def allVisits (quarantine : Quarantine) (rules : List Rule) : Run (List (List Finding)) :=
  match Search.active quarantine ust rules with
  | [] => return []
  | rules => do
      let inTree ← walk options ust steps steps [.enter ust.root]
        (rules.map fun rule => { rule })
      let inComments ← commentVisits options ust steps rules
      return inTree ++ inComments

/-- Search a tree for all rules. -/
def search (quarantine : Quarantine) (polls : Nat → Poll) (rules : List Rule) :
    Run (Except Failure (List Finding)) := do
  let visits ← allVisits options ust steps quarantine rules
  return Search.gather ust.file.path polls 0 visits

end Visits

/-! ## One visit -/

section Rules

variable {enough : Prop} {document : Document} {options : Options} {ust : Ust} {steps : Nat}
  {id : NodeId}

theorem yields_spansAt (present : id.index < ust.size) {rule : Rule}
    (matching : ∀ trail, Yields enough (matchAt ust steps rule.pattern id trail)
      (rule.pattern.matchAt ust id trail)) :
    Yields enough (spansAt options ust steps rule id) (Search.spansAt? options ust rule id) := by
  obtain ⟨kind, kindEq⟩ := Ust.exists_kind?_of_lt present
  refine (matching _).bind
    (fun trail =>
      if !trail.success then none
      else if trail.locations.isEmpty then some [ust.span id]
      else some trail.locations)
    fun trail => ?_
  exact (Yields.ok none).ite
    (.ite (.of_eq_ok (node_eq_ok kindEq) (.ok (some [ust.span id]))) (.ok (some trail.locations)))

theorem yields_findingAt (present : id.index < ust.size) {rule : Rule}
    (matching : ∀ trail, Yields enough (matchAt ust steps rule.pattern id trail)
      (rule.pattern.matchAt ust id trail)) :
    Yields enough (findingAt options ust steps id rule)
      (Search.findingAt? options ust id rule) :=
  (yields_spansAt present matching).bind
    (Option.map fun spans => (⟨rule.key, ust.file, spans⟩ : Finding)) fun _ => .ok _

theorem yields_attempt (present : id.index < ust.size) {trial : Search.Trial}
    (matching : ∀ trail, Yields enough (matchAt ust steps trial.rule.pattern id trail)
      (trial.rule.pattern.matchAt ust id trail)) :
    Yields enough (attempt options ust steps id trial) (trial.attempt options ust id) := by
  unfold attempt Search.Trial.attempt
  refine (Yields.ok (none, trial)).ite ?_
  refine (yields_findingAt present matching).bind
    (fun finding? =>
      match finding? with
      | none => (none, trial)
      | some finding =>
          (some finding, if options.findAll then trial else { trial with silencer := some id }))
    fun finding? => ?_
  cases finding? <;> exact .ok _

/-- Trying the rules keeps them. -/
theorem map_rule_attempt (options : Options) (ust : Ust) (id : NodeId)
    (trials : List Search.Trial) :
    ((trials.map (·.attempt options ust id)).map (·.2)).map Search.Trial.rule =
      trials.map Search.Trial.rule := by
  rw [List.map_map, List.map_map]
  apply List.map_congr_left
  intro trial _
  simp only [Function.comp_apply, Search.Trial.attempt]
  split
  · rfl
  · split
    · rfl
    · dsimp only
      split <;> rfl

theorem map_rule_release (id : NodeId) (trials : List Search.Trial) :
    (trials.map (·.release id)).map Search.Trial.rule = trials.map Search.Trial.rule := by
  rw [List.map_map]
  apply List.map_congr_left
  intro trial _
  rw [Function.comp_apply, Search.Trial.release]
  split <;> rfl

end Rules

/-! ## All visits -/

/-- The tasks that a walk has still to carry out: two for every node that is to be
entered or lies below one that is. -/
def tasksLeft (ust : Ust) : List Search.Task → Nat
  | [] => 0
  | .enter id :: tasks => 2 * ((ust.descendants id).length + 1) + tasksLeft ust tasks
  | .leave _ :: tasks => tasksLeft ust tasks + 1

section Tasks

variable {enough : Prop} {document : Document} {options : Options} {ust : Ust} {steps : Nat}

theorem tasksLeft_forest (rooted : ust.Rooted) {ids order : List NodeId}
    (walk : ust.Preorder ids order) (straight : ∀ id ∈ ids, ¬ ust.Above id id)
    (tasks : List Search.Task) :
    tasksLeft ust (ids.map .enter ++ tasks) = 2 * order.length + tasksLeft ust tasks := by
  induction walk with
  | nil => simp
  | @cons id rest below after under _ _ ihBeside =>
      have here := straight id List.mem_cons_self
      have behind := ihBeside fun other member => straight other (List.mem_cons_of_mem id member)
      rw [List.map_cons, List.cons_append, tasksLeft, behind,
        ← under.unique (rooted.preorder_children_of_not_above here)]
      simp only [List.length_cons, List.length_append]
      omega

/-- Entering a node is one task. -/
theorem tasksLeft_enter (rooted : ust.Rooted) {id : NodeId} (reached : ust.Reaches ust.root id)
    (tasks : List Search.Task) :
    tasksLeft ust (.enter id :: tasks) =
      tasksLeft ust ((ust.children id).map .enter ++ .leave id :: tasks) + 1 := by
  rw [tasksLeft_forest rooted (rooted.preorder_children reached)
    fun child isChild => rooted.not_above_self (reached.tail isChild)]
  simp only [tasksLeft]
  omega

theorem yields_matchAt_of_reaches {id : NodeId} (accepted : Ust.ofDocument document = .ok ust)
    (reached : ust.Reaches ust.root id) {pattern : Pattern}
    (within : enough → (pattern.height + 1) * (ust.size + 1) ≤ steps) (trail : Trail) :
    Yields enough (matchAt ust steps pattern id trail) (pattern.matchAt ust id trail) := by
  have ends := (Ust.chainEnds_root accepted).of_reaches accepted reached
  exact yields_matchAt_of_straight accepted
    ((Pattern.Meets.of_reaches reached).lt accepted (Ust.rooted_of_ofDocument accepted).root_lt)
    (fun _ _ isTop => isTop.not_above_self_of_chainEnds accepted ends) within trail

/-- The children of a node under the root are entered next, and they are under it too. -/
theorem reaches_of_entered {id node : NodeId} {tasks : List Search.Task}
    (here : ust.Reaches ust.root id)
    (later : ∀ node, .enter node ∈ tasks → ust.Reaches ust.root node)
    (member : .enter node ∈ (ust.children id).map .enter ++ .leave id :: tasks) :
    ust.Reaches ust.root node := by
  rcases List.mem_append.mp member with entered | member
  · obtain ⟨child, isChild, same⟩ := List.mem_map.mp entered
    cases same
    exact here.tail isChild
  · exact later node ((List.mem_cons.mp member).resolve_left nofun)

/-- Entering a node: the rules are tried there, and the walk goes on from what they come
to. -/
theorem yields_enter (accepted : Ust.ofDocument document = .ok ust) {id : NodeId}
    (reached : ust.Reaches ust.root id) {count : Nat} {tasks : List Search.Task}
    {trials : List Search.Trial}
    (stepsWithin : enough → ∀ rule ∈ trials.map Search.Trial.rule,
      (rule.pattern.height + 1) * (ust.size + 1) ≤ steps)
    (onward : ∀ others : List Search.Trial,
      (enough → others.map Search.Trial.rule = trials.map Search.Trial.rule) →
        Yields enough
          (walk options ust steps count ((ust.children id).map .enter ++ .leave id :: tasks) others)
          (Search.walk options ust count ((ust.children id).map .enter ++ .leave id :: tasks)
            others)) :
    Yields enough (walk options ust steps (count + 1) (.enter id :: tasks) trials)
      (Search.walk options ust (count + 1) (.enter id :: tasks) trials) := by
  have present := (Pattern.Meets.of_reaches reached).lt accepted
    (Ust.rooted_of_ofDocument accepted).root_lt
  obtain ⟨kind, kindEq⟩ := Ust.exists_kind?_of_lt present
  have tried : Yields enough (trials.mapM (attempt options ust steps id))
      (trials.map (·.attempt options ust id)) :=
    .mapM fun trial member =>
      yields_attempt present (yields_matchAt_of_reaches accepted reached fun holds =>
        stepsWithin holds trial.rule (List.mem_map_of_mem member))
  refine tried.bind_of_eq
    (fun other => other.filterMap (·.1) ::
      Search.walk options ust count ((ust.children id).map .enter ++ .leave id :: tasks)
        (other.map (·.2)))
    fun other isTried => .of_eq_ok (node_eq_ok kindEq) ?_
  have rest := onward (other.map (·.2)) fun holds => by rw [isTried holds, map_rule_attempt]
  rw [Ust.children_of_kind? kindEq] at rest ⊢
  exact rest.bind (other.filterMap (·.1) :: ·) fun _ => .ok _

/-- The walk enters nodes under the root only, and every task that it carries out was
left to do. -/
theorem yields_walk (accepted : Ust.ofDocument document = .ok ust) {count : Nat}
    {tasks : List Search.Task} {trials : List Search.Trial}
    (reached : ∀ id, .enter id ∈ tasks → ust.Reaches ust.root id)
    (tasksWithin : enough → tasksLeft ust tasks ≤ count)
    (stepsWithin : enough → ∀ rule ∈ trials.map Search.Trial.rule,
      (rule.pattern.height + 1) * (ust.size + 1) ≤ steps) :
    Yields enough (walk options ust steps count tasks trials)
      (Search.walk options ust count tasks trials) := by
  have rooted := Ust.rooted_of_ofDocument accepted
  induction count generalizing tasks trials with
  | zero =>
      cases tasks with
      | nil => exact .ok []
      | cons task tasks =>
          refine .outOfSteps fun holds => ?_
          have none := tasksWithin holds
          cases task <;> simp [tasksLeft] at none
  | succ count ih =>
      cases tasks with
      | nil => exact .ok []
      | cons task tasks =>
          have later : ∀ id, .enter id ∈ tasks → ust.Reaches ust.root id := fun id member =>
            reached id (List.mem_cons_of_mem task member)
          cases task with
          | leave id =>
              apply ih later
              · intro holds
                exact Nat.le_of_succ_le_succ (tasksWithin holds)
              · rwa [map_rule_release]
          | enter id =>
              have here := reached id List.mem_cons_self
              apply yields_enter accepted here stepsWithin
              intro others sameRules
              apply ih
              · intro node
                exact reaches_of_entered here later
              · intro holds
                have left := tasksWithin holds
                rw [tasksLeft_enter rooted here] at left
                exact Nat.le_of_succ_le_succ left
              · intro holds
                rw [sameRules holds]
                exact stepsWithin holds

/-- The visits of the tree are the walk from the root, which enters and leaves every node
once. -/
theorem yields_treeVisits (accepted : Ust.ofDocument document = .ok ust) {rules : List Rule}
    (tasksWithin : enough → 2 * ust.size ≤ steps)
    (stepsWithin : enough → ∀ rule ∈ rules,
      (rule.pattern.height + 1) * (ust.size + 1) ≤ steps) :
    Yields enough
      (walk options ust steps steps [.enter ust.root] (rules.map fun rule => { rule }))
      (Search.treeVisits options ust rules) := by
  have rooted := Ust.rooted_of_ofDocument accepted
  refine Yields.congr (yields_walk accepted ?_ ?_ ?_) fun holds =>
    (Search.walk_root_eq rooted rules (tasksWithin holds)).trans
      (Search.treeVisits_eq rooted rules).symm
  · intro id member
    cases List.mem_singleton.mp member
    exact .refl
  · intro holds
    have most := tasksWithin holds
    have short := rooted.length_descendants_lt .refl
    simp only [tasksLeft]
    omega
  · intro holds rule member
    rw [List.map_map] at member
    obtain ⟨other, listed, rfl⟩ := List.mem_map.mp member
    exact stepsWithin holds other listed

theorem yields_commentVisits (accepted : Ust.ofDocument document = .ok ust) {rules : List Rule}
    (straight : enough → ∀ comment ∈ ust.comments, ∀ top,
      Pattern.Tops ust comment top → ¬ ust.Above top top)
    (within : enough → ∀ rule ∈ rules, (rule.pattern.height + 1) * (ust.size + 1) ≤ steps) :
    Yields enough (commentVisits options ust steps rules)
      (Search.commentVisits options ust rules) := by
  refine .mapM fun comment listed => ?_
  have present := Ust.comment_lt accepted comment listed
  have found : Yields enough (rules.mapM (findingAt options ust steps comment))
      (rules.map (Search.findingAt? options ust comment)) :=
    .mapM fun rule member => yields_findingAt present (yields_matchAt_of_straight accepted present
      (fun holds => straight holds comment listed) fun holds => within holds rule member)
  have visits := found.bind List.reduceOption fun found => .ok found.reduceOption
  rwa [List.reduceOption, List.filterMap_map] at visits

/-- What a guarded search needs: no comment on a circle, nor the type of one that is a
variable, and the steps for every rule and for the walk. -/
structure Within (ust : Ust) (rules : List Rule) (steps : Nat) : Prop where
  straight : ∀ comment ∈ ust.comments, ∀ top,
    Pattern.Tops ust comment top → ¬ ust.Above top top
  enough : ∀ rule ∈ rules, (rule.pattern.height + 2) * (ust.size + 1) ≤ steps

theorem yields_allVisits (accepted : Ust.ofDocument document = .ok ust)
    (quarantine : Quarantine) (rules : List Rule) :
    Yields (Within ust rules steps) (allVisits options ust steps quarantine rules)
      (Search.allVisits options quarantine ust rules) := by
  have within : Within ust rules steps → ∀ rule ∈ Search.active quarantine ust rules,
      (rule.pattern.height + 1) * (ust.size + 1) + (ust.size + 1) ≤ steps := by
    intro holds rule member
    rw [← Nat.succ_mul]
    exact holds.enough rule (List.mem_of_mem_filter member)
  unfold allVisits Search.allVisits
  cases isActive : Search.active quarantine ust rules with
  | nil => exact .ok []
  | cons first others =>
      rw [isActive] at within
      have stepsWithin : Within ust rules steps → ∀ rule ∈ first :: others,
          (rule.pattern.height + 1) * (ust.size + 1) ≤ steps := fun holds rule listed =>
        Nat.le_of_add_right_le (within holds rule listed)
      have tasksWithin : Within ust rules steps → 2 * ust.size ≤ steps := by
        intro holds
        have most := within holds first List.mem_cons_self
        have least : ust.size + 1 ≤ (first.pattern.height + 1) * (ust.size + 1) :=
          Nat.le_mul_of_pos_left _ (Nat.succ_pos _)
        omega
      have inComments : Yields (Within ust rules steps)
          (commentVisits options ust steps (first :: others))
          (Search.commentVisits options ust (first :: others)) :=
        yields_commentVisits accepted Within.straight stepsWithin
      exact (yields_treeVisits accepted tasksWithin stepsWithin).bind
        (· ++ Search.commentVisits options ust (first :: others)) fun visits =>
          inComments.bind (visits ++ ·) fun _ => .ok _

theorem yields_search (accepted : Ust.ofDocument document = .ok ust) (quarantine : Quarantine)
    (polls : Nat → Poll) (rules : List Rule) :
    Yields (Within ust rules steps) (search options ust steps quarantine polls rules)
      (Search.run options quarantine polls ust rules) :=
  (yields_allVisits accepted quarantine rules).bind (Search.gather ust.file.path polls 0)
    fun _ => .ok _

end Tasks

/-- No list is read, written or cut past its end, and the parents are linked once.  Nothing
stops the acceptance of a document, whatever it is.  In an accepted document matching
any pattern at any node, and searching for any rules, is stopped by want of steps if by
anything, so with any number of steps nothing is out of range.  With enough of them
matching comes to what it should unless the node lies above itself, or its type if it
is a variable, and searching unless a comment does, or the type of one. -/
theorem eq_outOfSteps_of_stopped (document : Document) :
    ofDocument document = .ok (Ust.ofDocument document) ∧
      ∀ ust, Ust.ofDocument document = .ok ust →
        (∀ id, id.index < ust.size → ∀ pattern steps trail,
          (∀ stop, matchAt ust steps pattern id trail = .error stop → stop = .outOfSteps) ∧
            ((∀ top, Pattern.Tops ust id top → ¬ ust.Above top top) →
              (pattern.height + 1) * (ust.size + 1) ≤ steps →
                matchAt ust steps pattern id trail = .ok (pattern.matchAt ust id trail))) ∧
          ∀ options quarantine polls rules steps,
            (∀ stop, search options ust steps quarantine polls rules = .error stop →
              stop = .outOfSteps) ∧
              (Within ust rules steps → search options ust steps quarantine polls rules =
                .ok (Search.run options quarantine polls ust rules)) := by
  refine ⟨ofDocument_eq_ok document, fun ust accepted => ⟨?_, ?_⟩⟩
  · intro id present pattern steps trail
    refine ⟨(yields_matchAt accepted present steps pattern trail).2, fun straight within => ?_⟩
    exact (yields_matchAt_of_straight accepted present (fun _ : True => straight)
      (fun _ => within) trail).1 trivial
  · intro options quarantine polls rules steps
    exact ⟨(yields_search accepted quarantine polls rules).2,
      (yields_search accepted quarantine polls rules).1⟩

end Guarded

/-- An empty block, beside it a block that is its own statement, and a comment. -/
def Document.sampleCircle (comments : List NodeId) : Document where
  language := .java
  file := .unindexed "A.java" "\x7b\x7d /* x */"
  nodes := #[⟨.block [], ⟨0, 2⟩⟩, ⟨.block [⟨1⟩], ⟨0, 2⟩⟩, ⟨.comment "/* x */", ⟨3, 7⟩⟩]
  root := ⟨0⟩
  comments

/-- The tree of the two blocks and the comment. -/
def Ust.sampleCircle (comments : List NodeId) : Ust where
  toDocument := { Document.sampleCircle comments with
    file := (Document.sampleCircle comments).file.indexed }
  parents := some #[none, some ⟨1⟩, none]

namespace Guarded

/-- Looking for a number below a block that is its own statement goes on until there are
no steps left.  A search for it ends, as the root does not reach the block. -/
theorem eq_outOfSteps_sampleCircle :
    Ust.ofDocument (.sampleCircle [⟨2⟩]) = .ok (.sampleCircle [⟨2⟩]) ∧
      matchAt (.sampleCircle [⟨2⟩]) 5 (.anywhere (.intLiteral 1)) ⟨1⟩ (.fresh default false) =
        .error .outOfSteps ∧
        (∀ steps trail stop, matchAt (.sampleCircle [⟨2⟩]) steps (.anywhere (.intLiteral 1)) ⟨1⟩
          trail = .error stop → stop = .outOfSteps) ∧
          ∀ options quarantine polls, search options (.sampleCircle [⟨2⟩]) 12 quarantine polls
            [Search.ruleOf (.anywhere (.intLiteral 1))] =
              .ok (Search.run options quarantine polls (.sampleCircle [⟨2⟩])
                [Search.ruleOf (.anywhere (.intLiteral 1))]) := by
  have accepted : Ust.ofDocument (.sampleCircle [⟨2⟩]) = .ok (.sampleCircle [⟨2⟩]) := rfl
  obtain ⟨-, safe⟩ := eq_outOfSteps_of_stopped (.sampleCircle [⟨2⟩])
  obtain ⟨matching, searching⟩ := safe _ accepted
  refine ⟨accepted, rfl, fun steps trail => (matching ⟨1⟩ (by decide) _ steps trail).1, ?_⟩
  intro options quarantine polls
  refine (searching options quarantine polls _ 12).2 ⟨?_, ?_⟩
  · intro comment listed top isTop circle
    rw [List.mem_singleton.mp listed] at isTop
    cases isTop with
    | start =>
        obtain ⟨child, isChild, -⟩ := Relation.TransGen.head'_iff.mp circle
        exact absurd isChild List.not_mem_nil
    | declaredType isVariable _ => cases isVariable
  · intro rule listed
    rw [List.mem_singleton.mp listed]
    have inner : (Pattern.intLiteral 1).height = 0 := by
      rw [Pattern.height]
      rfl
    have height : (Pattern.anywhere (.intLiteral 1)).height = 1 := by
      rw [Pattern.height]
      change max ((Pattern.intLiteral 1).height + 1) 0 = 1
      rw [inner]
      rfl
    rw [Search.ruleOf, height]
    decide

end Guarded

end TreeSieve
