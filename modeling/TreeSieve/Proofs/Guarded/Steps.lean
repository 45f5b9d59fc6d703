import TreeSieve.Proofs.Guarded.Outline
import TreeSieve.Proofs.Pattern.Alike
import TreeSieve.Proofs.Search.Termination

/-!
# Steps of a guarded match

The steps that guarded matching is put together from do what their total counterparts
do, if the matches that they ask for do, and they read nothing that is not there.

Most steps follow the pattern.  The walk below a node does not: it ends with the steps
that it has if there are few enough nodes below the node.
-/

namespace TreeSieve

namespace Pattern

variable {ust : Ust} {id : NodeId}

theorem Meets.of_reaches {node : NodeId} (reached : ust.Reaches id node) : Meets ust id node := by
  induction reached with
  | refl => exact .start
  | tail _ isChild met => exact .child met isChild

theorem Meets.of_kind? {kind : NodeKind} (kindEq : ust.kind? id = some kind) {child : NodeId}
    (member : child ∈ kind.children) : Meets ust id child :=
  .child .start (Ust.isChild_of_kind? kindEq member)

end Pattern

namespace Guarded

variable {enough : Prop}

/-! ## One after the other -/

section Trails

variable {α : Type} {run : Run Trail} {plain : Trail}

theorem yields_andThen {next : Trail → Run Trail} {plainNext : Trail → Trail}
    (first : Yields enough run plain)
    (later : ∀ trail, Yields enough (next trail) (plainNext trail)) :
    Yields enough (andThen run next) (plain.andThen plainNext) :=
  first.bind (·.andThen plainNext) fun trail => (later trail).ite (.ok trail)

theorem yields_orElse {other : Trail → Run Trail} (first : Yields enough run plain)
    (plainOther : Trail → Trail)
    (later : ∀ trail, Yields enough (other trail) (plainOther trail)) :
    Yields enough (orElse run other) (if plain.success then plain else plainOther plain) :=
  first.bind (fun trail => if trail.success then trail else plainOther trail) fun trail =>
    (Yields.ok trail).ite (later trail)

theorem yields_close {ust : Ust} {id : NodeId} {kind : NodeKind}
    (kindEq : ust.kind? id = some kind) (yields : Yields enough run plain) :
    Yields enough (close ust id run) (plain.close (ust.span id)) :=
  yields_andThen yields fun trail => .of_eq_ok (node_eq_ok kindEq) (.ok (trail.addNonterminal _))

theorem yields_branch {onward : Trail → Run Trail} {plainOnward : Trail → Trail}
    {otherwise : Run Trail} {plainOtherwise : Trail} (first : Yields enough run plain)
    (passed : ∀ trail, Yields enough (onward trail) (plainOnward trail))
    (failed : Yields enough otherwise plainOtherwise) :
    Yields enough (do let tried ← run; if tried.success then onward tried else otherwise)
      (if plain.success then plainOnward plain else plainOtherwise) :=
  first.bind (fun trail => if trail.success then plainOnward trail else plainOtherwise)
    fun trail => (passed trail).ite failed

theorem yields_firstOf {attempt : Attempt α} {one : TreeSieve.Attempt α} {items : List α}
    (each : ∀ item ∈ items, ∀ trail, Yields enough (attempt item trail) (one item trail))
    (trail : Trail) :
    Yields enough (firstOf attempt items trail) (TreeSieve.firstOf one items trail) := by
  induction items with
  | nil => exact .ok trail.fail
  | cons item rest ih =>
      exact yields_orElse (each item List.mem_cons_self trail) _ fun _ =>
        ih fun other member => each other (List.mem_cons_of_mem item member)

end Trails

/-! ## Patterns and nodes -/

/-- Calls for a pattern do what the pattern does, at every node that matching can come
to from a node. -/
def Answers (enough : Prop) (ust : Ust) (call : Call) (id : NodeId) (pattern : Pattern) : Prop :=
  ∀ node, Pattern.Meets ust id node → ∀ trail,
    Yields enough (call pattern node trail) (pattern.matchAt ust node trail)

section Nodes

variable {document : Document} {ust : Ust} {call : Call} {id : NodeId} {pattern : Pattern}
  {patterns : List Pattern}

theorem Answers.of_meets (answers : Answers enough ust call id pattern) {node : NodeId}
    (met : Pattern.Meets ust id node) : Answers enough ust call node pattern :=
  fun other further => answers other (met.trans further)

/-- The table of parents has an entry for every node. -/
theorem parent_eq_ok (accepted : Ust.ofDocument document = .ok ust)
    (present : id.index < ust.size) : parent ust id = .ok (ust.parent? id) := by
  rcases Ust.eq_of_ofDocument accepted with ⟨-, rfl⟩
  have inTable : id.index < (Ust.parentTable document).size := by
    rwa [Ust.size_parentTable]
  simp [parent, read, Ust.parent?, inTable]

theorem declaredType_eq_ok (accepted : Ust.ofDocument document = .ok ust)
    (present : id.index < ust.size) :
    declaredType ust id = .ok (Pattern.declaredType? ust id) := by
  rw [declaredType, parent_eq_ok accepted present, Pattern.declaredType?]
  cases parentEq : ust.parent? id with
  | none => rfl
  | some field =>
      obtain ⟨kind, kindEq⟩ := Ust.exists_kind?_of_lt (Ust.lt_of_parent? accepted parentEq)
      simp only [Option.bind_eq_bind, Option.bind_some, kindEq]
      change (node ust field >>= _) = _
      rw [node_eq_ok kindEq]
      cases kind <;> rfl

/-- The walk ends if it has as many steps as there are nodes to come. -/
theorem yields_firstBelow (rooted : ust.Rooted) {attempt : Attempt NodeId}
    {one : TreeSieve.Attempt NodeId} {steps : Nat} {pending order : List NodeId}
    (present : ∀ id ∈ pending, id.index < ust.size)
    (each : ∀ id ∈ pending, ∀ node, ust.Reaches id node → ∀ trail,
      Yields enough (attempt node trail) (one node trail))
    (walk : enough → ust.Preorder pending order ∧ order.length ≤ steps) (trail : Trail) :
    Yields enough (firstBelow ust attempt steps pending trail)
      (TreeSieve.firstOf one order trail) := by
  induction steps generalizing pending order with
  | zero =>
      cases pending with
      | nil =>
          refine (Yields.ok trail.fail).congr fun holds => ?_
          cases (walk holds).1
          rfl
      | cons id pending =>
          refine .outOfSteps fun holds => ?_
          obtain ⟨forest, short⟩ := walk holds
          cases forest
          simp at short
  | succ steps ih =>
      cases pending with
      | nil =>
          refine (Yields.ok trail.fail).congr fun holds => ?_
          cases (walk holds).1
          rfl
      | cons id pending =>
          obtain ⟨kind, kindEq⟩ := Ust.exists_kind?_of_lt (present id List.mem_cons_self)
          have others : Yields enough
              (firstBelow ust attempt steps (kind.children ++ pending) trail)
              (TreeSieve.firstOf one order.tail trail) := by
            rw [← Ust.children_of_kind? kindEq]
            refine ih ?_ ?_ fun holds => ?_
            · intro node member
              rcases List.mem_append.mp member with isChild | later
              · exact rooted.child_lt isChild
              · exact present node (List.mem_cons_of_mem id later)
            · intro node member below reached
              rcases List.mem_append.mp member with isChild | later
              · exact each id List.mem_cons_self below (reached.head isChild)
              · exact each node (List.mem_cons_of_mem id later) below reached
            · obtain ⟨forest, short⟩ := walk holds
              cases forest with
              | cons under beside => exact ⟨under.append beside, Nat.le_of_succ_le_succ short⟩
          have here := yields_orElse (each id List.mem_cons_self id .refl trail) _ fun _ => others
          refine .of_eq_ok (node_eq_ok kindEq) (here.congr fun holds => ?_)
          cases (walk holds).1
          rfl

end Nodes

/-! ## Steps put together -/

/-- The ties of a guarded run with the run that it stands for: all nodes are there and can be
come to, and steps yield what they do. -/
def guardTies (enough : Prop) (ust : Ust) (call : Call) (steps : Nat) (id : NodeId)
    (kind : NodeKind) : Pattern.Ties where
  nodes node other := other = node ∧ Pattern.Meets ust id node ∧ node.index < ust.size
  children node other := other = node ∧ Pattern.Meets ust id node ∧ node.index < ust.size
  nodes_of_children tied := tied
  names := Eq
  steps step _ := ∀ trail,
    Yields enough (guardStep ust call steps id kind step trail) (step.run ust id trail)
  outlines outline _ := ∀ trail,
    Yields enough (guardOutline ust call steps id kind (ust.span id) outline trail)
      (outline.run ust id trail)

section Ties

variable {ust : Ust} {call : Call} {steps : Nat} {id : NodeId} {kind : NodeKind}

theorem kinds_of_meets (rooted : ust.Rooted) {node : NodeId} {kind : NodeKind}
    (met : Pattern.Meets ust id node) (kindEq : ust.kind? node = some kind) :
    kind.Like (fun node other => other = node ∧ Pattern.Meets ust id node ∧
      node.index < ust.size) Eq kind :=
  .refl fun _ member =>
    have isChild := Ust.isChild_of_kind? kindEq member
    ⟨rfl, .child met isChild, rooted.child_lt isChild⟩

theorem yields_guardTest (rooted : ust.Rooted) {test other : Pattern.Test}
    (like : test.Like (guardTies enough ust call steps id kind) other) (trail : Trail) :
    Yields enough (guardTest ust call trail test) (test.run ust trail) := by
  induction like with
  | ask question => exact .ok _
  | fits tied => exact (tied trail).bind Trail.success fun tried => .ok tried.success
  | @both first second _ _ _ _ ihFirst ihSecond =>
      refine ihFirst.bind (· && second.run ust trail) fun passed => ?_
      cases passed with
      | true => exact ihSecond
      | false => exact .ok false
  | @either first second _ _ _ _ ihFirst ihSecond =>
      refine ihFirst.bind (· || second.run ust trail) fun passed => ?_
      cases passed with
      | true => exact .ok true
      | false => exact ihSecond
  | look tied _ ih =>
      obtain ⟨kind, kindEq⟩ := Ust.exists_kind?_of_lt tied.2.2
      rw [Pattern.Test.run, kindEq]
      exact .of_eq_ok (node_eq_ok kindEq) (ih (.some (kinds_of_meets rooted tied.2.1 kindEq)))

theorem yields_guardStep (rooted : ust.Rooted) {step other : Pattern.Step}
    (like : step.Like (guardTies enough ust call steps id kind) other) (trail : Trail) :
    Yields enough (guardStep ust call steps id kind step trail) (step.run ust id trail) := by
  induction like generalizing trail with
  | skip => exact .ok trail
  | fail => exact .ok trail.fail
  | tied tied => exact tied trail
  | andThen _ _ ihFirst ihSecond => exact yields_andThen (ihFirst trail) ihSecond
  | branch _ _ _ ihTried ihPassed ihFailed =>
      exact yields_branch (ihTried trail) ihPassed (ihFailed trail)
  | refuse tests =>
      exact (yields_guardTest rooted tests trail).bind
        (fun passed => if passed then trail.fail else trail) fun passed =>
          (Yields.ok trail.fail).ite (.ok trail)
  | look tied _ ih =>
      obtain ⟨kind, kindEq⟩ := Ust.exists_kind?_of_lt tied.2.2
      rw [Pattern.Step.run, kindEq]
      exact .of_eq_ok (node_eq_ok kindEq)
        (ih (.some (kinds_of_meets rooted tied.2.1 kindEq)) trail)

theorem yields_guardOutline (rooted : ust.Rooted) (kindEq : ust.kind? id = some kind)
    {outline other : Pattern.Outline}
    (like : outline.Like (guardTies enough ust call steps id kind) other) (trail : Trail) :
    Yields enough (guardOutline ust call steps id kind (ust.span id) outline trail)
      (outline.run ust id trail) := by
  cases like with
  | mark => exact .ok _
  | check tests =>
      exact (yields_guardTest rooted tests trail).bind (trail.check · (ust.span id)) fun passed =>
        .ok (trail.check passed (ust.span id))
  | close steps => exact yields_close kindEq (yields_guardStep rooted steps trail)
  | bare steps => exact yields_guardStep rooted steps trail
  | tied tied => exact tied trail

end Ties

end Guarded

end TreeSieve
