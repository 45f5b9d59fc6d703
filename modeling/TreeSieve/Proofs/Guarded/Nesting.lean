import Mathlib.Data.List.MinMax
import TreeSieve.Proofs.Guarded.Matching

/-!
# Matches inside matches

A match asks for others, and these for others again.  `Guarded.Asks` says which, whatever
the answers are.  The pattern gets smaller, or it stays and the node gets lower: one
field inside another.  So under the root there is no end of matches inside each other,
and how many there can be is told by the height of the pattern and the number of nodes.
-/

namespace TreeSieve

namespace Pattern

/-- How many patterns stand inside each other in a pattern. -/
def height (pattern : Pattern) : Nat :=
  (pattern.parts.attach.map fun part => part.1.height + 1).foldr max 0
termination_by sizeOf pattern
decreasing_by exact sizeOf_lt_of_mem_parts part.2

theorem height_lt_of_mem_parts {part pattern : Pattern} (member : part ∈ pattern.parts) :
    part.height < pattern.height := by
  rw [height.eq_1 pattern]
  refine List.le_max_of_le' 0 ?_ (Nat.le_refl (part.height + 1))
  exact List.mem_map.mpr ⟨⟨part, member⟩, List.mem_attach _ _, rfl⟩

theorem Meets.lt {document : Document} {ust : Ust} {id node : NodeId}
    (accepted : Ust.ofDocument document = .ok ust) (present : id.index < ust.size)
    (met : Meets ust id node) : node.index < ust.size := by
  have rooted := Ust.rooted_of_ofDocument accepted
  cases met with
  | start => exact present
  | child _ isChild => exact rooted.child_lt isChild
  | declaredType _ _ found =>
      obtain ⟨field, -, -, isChild, -⟩ := exists_parent_declaredType accepted found
      exact rooted.child_lt isChild

end Pattern

theorem Ust.isChild_of_declares {ust : Ust} {field inner : NodeId}
    (declares : ust.Declares field inner) : ust.IsChild field inner := by
  obtain ⟨fieldType, declarators, kindEq, member⟩ := declares
  exact isChild_of_kind? kindEq (by simp [NodeKind.children, member])

/-- A child has fewer nodes below it than its parent. -/
theorem Ust.Rooted.length_descendants_lt_of_isChild {ust : Ust} (rooted : ust.Rooted)
    {parent child : NodeId} (straight : ¬ ust.Above parent parent)
    (isChild : ust.IsChild parent child) :
    (ust.descendants child).length < (ust.descendants parent).length := by
  have walk := rooted.preorder_children_of_not_above straight
  have walkBelow := rooted.preorder_children_of_not_above
    (rooted.not_above_self_of_reaches straight (.single isChild))
  obtain ⟨below, again, shorter⟩ :=
    walk.exists_shorter (walk.mem_iff.mpr ⟨child, isChild, .refl⟩)
  rwa [walkBelow.unique again]

namespace Guarded

variable {document : Document} {ust : Ust} {id : NodeId} {pattern : Pattern}

/-! ## What is asked for -/

/-- A match asks for another one: it can be stopped although all matches but that one
come to some result. -/
def Asks (ust : Ust) (caller callee : Pattern × NodeId) : Prop :=
  ∃ call : Call, (∀ pattern id, (pattern, id) ≠ callee → ∀ trail, ∃ result,
      call pattern id trail = .ok result) ∧
    ∃ steps trail, matchOnce ust call steps caller.1 caller.2 trail = .error .outOfRange

/-- At a node of the tree, a match asks for parts of its pattern at nodes that it can come
to, and inside a field for the same pattern. -/
theorem Asks.part_or_declared (accepted : Ust.ofDocument document = .ok ust)
    (present : id.index < ust.size) {callee : Pattern × NodeId}
    (asks : Asks ust (pattern, id) callee) :
    callee.1 ∈ pattern.parts ∧ Pattern.Meets ust id callee.2 ∨
      callee.1 = pattern ∧ ust.Declares id callee.2 := by
  obtain ⟨call, answered, steps, trail, stopped⟩ := asks
  have unstopped : ∀ other node, (other, node) ≠ callee → ∀ trail,
      Yields False (call other node trail) (other.matchAt ust node trail) := by
    intro other node differs trail
    obtain ⟨result, callEq⟩ := answered other node differs trail
    rw [callEq]
    exact (Yields.ok result).congr False.elim
  by_contra neither
  rw [not_or] at neither
  have yields : Yields False (matchOnce ust call steps pattern id trail)
      (pattern.matchAt ust id trail) := by
    refine yields_matchOnce accepted present False.elim False.elim ?_ ?_ trail
    · intro part member node met
      refine unstopped part node fun isCallee => ?_
      exact neither.1 (isCallee ▸ ⟨member, met⟩)
    · intro inner declares
      refine unstopped pattern inner fun isCallee => ?_
      exact neither.2 (isCallee ▸ ⟨rfl, declares⟩)
  exact absurd (yields.2 _ stopped) (by decide)

open Classical in
/-- Calls that all fail but one, which is stopped. -/
noncomputable def stoppingAt (callee : Pattern × NodeId) : Call := fun pattern id trail =>
  if (pattern, id) = callee then .error .outOfRange else .ok trail.fail

theorem asks_of_stoppingAt {caller callee : Pattern × NodeId} (steps : Nat) (trail : Trail)
    (stopped : matchOnce ust (stoppingAt callee) steps caller.1 caller.2 trail =
      .error .outOfRange) : Asks ust caller callee :=
  ⟨stoppingAt callee, fun _ _ differs trail => ⟨trail.fail, if_neg differs⟩, steps, trail, stopped⟩

/-- One after the other, as all others fail, every thing is tried. -/
theorem firstOf_stoppingAt {ids : List NodeId} {node : NodeId} (member : node ∈ ids)
    (trail : Trail) :
    firstOf (stoppingAt (pattern, node) pattern) ids trail = .error .outOfRange := by
  induction ids with
  | nil => exact absurd member List.not_mem_nil
  | cons first rest ih =>
      rw [firstOf, stoppingAt]
      by_cases same : first = node
      · rw [same, if_pos rfl]
        rfl
      · rw [if_neg fun isCallee => same (congrArg Prod.snd isCallee)]
        exact ih ((List.mem_cons.mp member).resolve_left (Ne.symm same))

theorem firstBelow_stoppingAt (rooted : ust.Rooted) (pattern : Pattern)
    {pending order : List NodeId} (walk : ust.Preorder pending order)
    (present : ∀ id ∈ pending, id.index < ust.size) {node : NodeId} (member : node ∈ order)
    {steps : Nat} (enough : order.length ≤ steps) (trail : Trail) :
    firstBelow ust (stoppingAt (pattern, node) pattern) steps pending trail =
      .error .outOfRange := by
  induction steps generalizing pending order with
  | zero =>
      rw [List.length_eq_zero_iff.mp (Nat.le_zero.mp enough)] at member
      exact absurd member List.not_mem_nil
  | succ steps ih =>
      cases walk with
      | nil => exact absurd member List.not_mem_nil
      | @cons id rest below after under beside =>
          obtain ⟨kind, kindEq⟩ := Ust.exists_kind?_of_lt (present id List.mem_cons_self)
          rw [firstBelow, node_eq_ok kindEq]
          change orElse (stoppingAt (pattern, node) pattern id trail) _ = _
          rw [stoppingAt]
          by_cases same : id = node
          · rw [same, if_pos rfl]
            rfl
          · rw [if_neg fun isCallee => same (congrArg Prod.snd isCallee)]
            change firstBelow ust _ steps (kind.children ++ rest) trail = _
            rw [← Ust.children_of_kind? kindEq]
            refine ih (under.append beside) ?_
              ((List.mem_cons.mp member).resolve_left (Ne.symm same))
              (Nat.le_of_succ_le_succ enough)
            intro other listed
            rcases List.mem_append.mp listed with isChild | later
            · exact rooted.child_lt isChild
            · exact present other (List.mem_cons_of_mem id later)

/-- To look anywhere below a node is to ask for the pattern at every node there. -/
theorem asks_of_reaches (rooted : ust.Rooted) (present : id.index < ust.size)
    (straight : ¬ ust.Above id id) {node : NodeId} (reached : ust.Reaches id node) :
    Asks ust (.anywhere pattern, id) (pattern, node) := by
  have walk : ust.Preorder [id] (id :: ust.descendants id) := by
    simpa using (rooted.preorder_children_of_not_above straight).cons .nil
  have member : node ∈ id :: ust.descendants id :=
    walk.mem_iff.mpr ⟨id, List.mem_cons_self, reached⟩
  have stopped := firstBelow_stoppingAt rooted pattern walk (by simpa using present) member
    (Nat.le_refl _) default
  rw [List.length_cons, firstBelow] at stopped
  simp only [List.append_nil] at stopped
  exact asks_of_stoppingAt _ _ stopped

/-- A field asks for the same pattern at every one of its variables. -/
theorem asks_of_declares {inner : NodeId} (declares : ust.Declares id inner)
    (variableType : Option Pattern) (name : Pattern) (initializer : Option Pattern) :
    Asks ust (.variableDeclaration variableType name initializer, id)
      (.variableDeclaration variableType name initializer, inner) := by
  obtain ⟨fieldType, declarators, kindEq, member⟩ := declares
  refine asks_of_stoppingAt 0 default ?_
  rw [matchOnce, node_eq_ok kindEq]
  change close ust id (firstOf _ declarators default) = _
  rw [firstOf_stoppingAt member]
  rfl

/-- Where no node that matching can come to lies above itself, matches are asked for to
an end: by induction over the parts of the pattern, and for each over the fields. -/
theorem acc_asks (accepted : Ust.ofDocument document = .ok ust) (present : id.index < ust.size)
    (straight : ∀ node, Pattern.Meets ust id node → ¬ ust.Above node node) (pattern : Pattern) :
    Acc (fun callee caller => Asks ust caller callee) (pattern, id) := by
  induction pattern using Pattern.parts_induction generalizing id with
  | step pattern ihParts =>
      have fields := Pattern.acc_declares (Ust.rooted_of_ofDocument accepted) (straight id .start)
      induction fields with
      | intro id _ ihFields =>
          refine .intro _ fun ⟨other, node⟩ asks => ?_
          rcases asks.part_or_declared accepted present with ⟨member, met⟩ | ⟨rfl, declares⟩
          · exact ihParts other member (met.lt accepted present)
              fun further metThere => straight further (met.trans metThere)
          · have met : Pattern.Meets ust id node :=
              .child .start (Ust.isChild_of_declares declares)
            exact ihFields node declares (met.lt accepted present)
              fun further metThere => straight further (met.trans metThere)

/-! ## How many steps are enough -/

/-- As many steps as a match takes at most: a walk for every pattern that stands in the
way to the innermost one, and the fields that are below the node. -/
def stepsFor (ust : Ust) (pattern : Pattern) (id : NodeId) : Nat :=
  pattern.height * (ust.size + 1) + (ust.descendants id).length + 1

theorem stepsFor_le (rooted : ust.Rooted) (straight : ¬ ust.Above id id) (pattern : Pattern) :
    stepsFor ust pattern id ≤ (pattern.height + 1) * (ust.size + 1) := by
  have short := rooted.length_descendants_lt_of_not_above straight
  rw [stepsFor, Nat.add_mul]
  omega

theorem stepsFor_part_lt (rooted : ust.Rooted) {node : NodeId} (straight : ¬ ust.Above node node)
    {part : Pattern} (member : part ∈ pattern.parts) :
    stepsFor ust part node < stepsFor ust pattern id := by
  have within := stepsFor_le rooted straight part
  have lower : (part.height + 1) * (ust.size + 1) ≤ pattern.height * (ust.size + 1) :=
    Nat.mul_le_mul_right _ (Pattern.height_lt_of_mem_parts member)
  rw [stepsFor.eq_1 ust pattern id]
  omega

theorem stepsFor_declared_lt (rooted : ust.Rooted) (straight : ¬ ust.Above id id) {inner : NodeId}
    (declares : ust.Declares id inner) :
    stepsFor ust pattern inner < stepsFor ust pattern id := by
  have shorter :=
    rooted.length_descendants_lt_of_isChild straight (Ust.isChild_of_declares declares)
  rw [stepsFor, stepsFor]
  omega

/-- Guarded matching does what matching does if it has the steps and no circle is in the
way.  In any case nothing stops it but want of steps. -/
theorem yields_matchAt (accepted : Ust.ofDocument document = .ok ust)
    (present : id.index < ust.size) (steps : Nat) (pattern : Pattern) (trail : Trail) :
    Yields ((∀ node, Pattern.Meets ust id node → ¬ ust.Above node node) ∧
        stepsFor ust pattern id ≤ steps)
      (matchAt ust steps pattern id trail) (pattern.matchAt ust id trail) := by
  have rooted := Ust.rooted_of_ofDocument accepted
  induction steps generalizing pattern id trail with
  | zero => exact .outOfSteps fun holds => Nat.not_succ_le_zero _ holds.2
  | succ steps ih =>
      refine yields_matchOnce accepted present (fun holds => holds.1 id .start) ?_ ?_ ?_ trail
      · rintro ⟨-, within⟩
        rw [stepsFor] at within
        omega
      · intro part member node met trail
        refine (ih (met.lt accepted present) part trail).mono ?_
        rintro ⟨straight, within⟩
        refine ⟨fun further metThere => straight further (met.trans metThere), ?_⟩
        exact Nat.le_of_lt_succ
          (Nat.lt_of_lt_of_le (stepsFor_part_lt rooted (straight node met) member) within)
      · intro inner declares trail
        have met : Pattern.Meets ust id inner :=
          .child .start (Ust.isChild_of_declares declares)
        refine (ih (met.lt accepted present) pattern trail).mono ?_
        rintro ⟨straight, within⟩
        refine ⟨fun further metThere => straight further (met.trans metThere), ?_⟩
        exact Nat.le_of_lt_succ
          (Nat.lt_of_lt_of_le (stepsFor_declared_lt rooted (straight id .start) declares) within)

/-- A tree that was not accepted may have a reference past its end, which does stop it. -/
example :
    matchAt { toDocument := { Document.sampleField with
        nodes := #[⟨.expressionStatement ⟨1⟩, ⟨0, 1⟩⟩] } } 2 (.anywhere .nullLiteral) ⟨0⟩
      (.fresh default false) = .error .outOfRange :=
  rfl

/-- It is enough that the node does not lie above itself, nor its type if it is a variable,
and that there are as many steps as the pattern needs anywhere in the document. -/
theorem yields_matchAt_of_straight {enough : Prop} (accepted : Ust.ofDocument document = .ok ust)
    (present : id.index < ust.size)
    (straight : enough → ∀ top, Pattern.Tops ust id top → ¬ ust.Above top top)
    {steps : Nat} (within : enough → (pattern.height + 1) * (ust.size + 1) ≤ steps)
    (trail : Trail) :
    Yields enough (matchAt ust steps pattern id trail) (pattern.matchAt ust id trail) := by
  refine (yields_matchAt accepted present steps pattern trail).mono fun holds => ⟨?_, ?_⟩
  · intro node met
    exact met.not_above_self accepted (straight holds)
  · exact Nat.le_trans (stepsFor_le (Ust.rooted_of_ofDocument accepted)
      (straight holds id .start) pattern) (within holds)

/-- Under the root of an accepted document there is no end of matches that ask for each
other, whatever they are answered.  This is so although a pattern that is looked for
anywhere below a node is asked for at every node there, and although a field asks for
the same pattern at each of its variables, which may be fields again.  With a number of
steps that depends on the pattern and the document only, guarded matching comes to what
matching comes to. -/
theorem acc_asks_under_root (accepted : Ust.ofDocument document = .ok ust)
    (reached : ust.Reaches ust.root id) (pattern : Pattern) :
    (∀ inner node, pattern = .anywhere inner → ust.Reaches id node →
        Asks ust (pattern, id) (inner, node)) ∧
      (∀ variableType name initializer inner,
        pattern = .variableDeclaration variableType name initializer → ust.Declares id inner →
          Asks ust (pattern, id) (pattern, inner)) ∧
        Acc (fun callee caller => Asks ust caller callee) (pattern, id) ∧
          ∀ steps trail, (pattern.height + 1) * (ust.size + 1) ≤ steps →
            matchAt ust steps pattern id trail = .ok (pattern.matchAt ust id trail) := by
  have rooted := Ust.rooted_of_ofDocument accepted
  have present : id.index < ust.size :=
    (Pattern.Meets.of_reaches reached).lt accepted rooted.root_lt
  have ends := (Ust.chainEnds_root accepted).of_reaches accepted reached
  have straight : ∀ top, Pattern.Tops ust id top → ¬ ust.Above top top := fun _ isTop =>
    isTop.not_above_self_of_chainEnds accepted ends
  constructor
  · rintro inner node rfl below
    exact asks_of_reaches rooted present (straight id .start) below
  constructor
  · rintro variableType name initializer inner rfl declares
    exact asks_of_declares declares variableType name initializer
  constructor
  · exact acc_asks accepted present (fun node met => met.not_above_self accepted straight) pattern
  · intro steps trail within
    exact (yields_matchAt_of_straight accepted present (fun _ : True => straight)
      (fun _ => within) trail).1 trivial

end Guarded

/-- A field whose variable is a field again, with the variable `x` inside. -/
def Document.sampleNested : Document where
  language := .java
  file := .unindexed "A.java" "x"
  nodes := #[
    ⟨.fieldDeclaration none [⟨1⟩], ⟨0, 1⟩⟩,
    ⟨.fieldDeclaration none [⟨2⟩], ⟨0, 1⟩⟩,
    ⟨.variableDeclaration ⟨3⟩ none, ⟨0, 1⟩⟩,
    ⟨.identifier "x", ⟨0, 1⟩⟩]
  root := ⟨0⟩
  comments := []

/-- The tree of the field inside a field. -/
def Ust.sampleNested : Ust where
  toDocument := { Document.sampleNested with file := Document.sampleNested.file.indexed }
  parents := some #[none, some ⟨0⟩, some ⟨1⟩, some ⟨2⟩]

namespace Guarded

/-- Looking anywhere for a variable anywhere, a match inside the outer field asks for the
pattern in the inner field, and it comes to an end. -/
theorem acc_asks_sampleNested :
    Ust.ofDocument .sampleNested = .ok .sampleNested ∧
      Asks .sampleNested (.anywhere (.anywhere (.variableDeclaration none .any none)), ⟨0⟩)
        (.anywhere (.variableDeclaration none .any none), ⟨1⟩) ∧
        Asks .sampleNested (.variableDeclaration none .any none, ⟨0⟩)
          (.variableDeclaration none .any none, ⟨1⟩) ∧
          Acc (fun callee caller => Asks .sampleNested caller callee)
            (.anywhere (.anywhere (.variableDeclaration none .any none)), ⟨0⟩) := by
  have accepted : Ust.ofDocument .sampleNested = .ok .sampleNested := rfl
  have inside : Ust.sampleNested.Declares ⟨0⟩ ⟨1⟩ := ⟨none, [⟨1⟩], rfl, List.mem_singleton_self _⟩
  obtain ⟨below, -, ends, -⟩ :=
    acc_asks_under_root accepted .refl (.anywhere (.anywhere (.variableDeclaration none .any none)))
  obtain ⟨-, fields, -⟩ :=
    acc_asks_under_root accepted .refl (.variableDeclaration none .any none)
  exact ⟨accepted, below _ _ rfl (.single (Ust.isChild_of_declares inside)),
    fields _ _ _ _ rfl inside, ends⟩

end Guarded

end TreeSieve
