import TreeSieve.Proofs.Pattern.Alike
import TreeSieve.Proofs.Pattern.Holds
import TreeSieve.Proofs.Ust.Preorder

/-!
# What matching leaves behind

Wherever a part of a pattern matches, matching may leave a mark, and all that a
trail gathers are the spans of marks.  The verdict and the marks depend on the
pattern, the node and the treatment of case alone: not on what was gathered
before, and not on whether the spans of nodes with children are asked for, which
only chooses among the marks.

Where there can be marks is told by `Pattern.Turns`.  From a pattern at a node,
matching turns to parts of the pattern at the node or below it, to the arguments of
a call, from a variable to the type of the field around it, and inside a field to
the same pattern.

The steps that matching is built from leave marks, and so does each of the ways
it combines them; what matching leaves is then found by induction over the parts
of the pattern.
-/

namespace TreeSieve

open Relation

/-! ## Trails that have been added to -/

namespace Trail

/-- Add spans to a trail and decide whether it still succeeds. -/
def extend (trail : Trail) (success : Bool) (spans : List Span) : Trail :=
  { trail with success := success, locations := trail.locations ++ spans }

@[simp]
theorem success_extend (trail : Trail) (success : Bool) (spans : List Span) :
    (trail.extend success spans).success = success :=
  rfl

@[simp]
theorem locations_extend (trail : Trail) (success : Bool) (spans : List Span) :
    (trail.extend success spans).locations = trail.locations ++ spans :=
  rfl

@[simp]
theorem extend_extend (trail : Trail) (first second : Bool) (spans more : List Span) :
    (trail.extend first spans).extend second more = trail.extend second (spans ++ more) := by
  simp [extend]

theorem extend_true_nil {trail : Trail} (succeeding : trail.success = true) :
    trail.extend true [] = trail := by
  cases trail
  simp_all [extend]

theorem extend_false_nil (trail : Trail) : trail.extend false [] = trail.fail := by
  simp [extend, fail]

@[simp]
theorem success_add (trail : Trail) (span : Span) : (trail.add span).success = trail.success := by
  unfold add
  split <;> rfl

@[simp]
theorem success_close (trail : Trail) (span : Span) :
    (trail.close span).success = trail.success := by
  simp only [close, andThen, addNonterminal]
  split
  · split
    · exact success_add trail span
    · rfl
  · rfl

end Trail

theorem success_firstOf {α : Type} (attempt : Attempt α) (candidates : List α) (trail : Trail) :
    (firstOf attempt candidates trail).success =
      candidates.any fun candidate => (attempt candidate trail).success := by
  induction candidates with
  | nil => rfl
  | cons candidate rest ih =>
      rw [firstOf, List.any_cons]
      cases tried : (attempt candidate trail).success with
      | true => simp [tried]
      | false => simpa [tried] using ih

/-! ## Marks -/

namespace Pattern

/-- Whether the nodes where a pattern matches are gathered only if the spans of
nodes with children are asked for. -/
def isNonterminal : Pattern → Bool
  | binaryOperator .. | unaryOperator .. | assignment .. | memberReference .. | indexer ..
  | invocation .. | objectCreate .. | multipleExpressions _ | args _ | statements _
  | withStatement .. | classDeclaration .. | methodDeclaration .. | parameterDeclaration ..
  | variableDeclaration .. => true
  | _ => false

/-- Whether a pattern matches a node, from a fresh trail. -/
def fits (ust : Ust) (caseInsensitive : Bool) (pattern : Pattern) (id : NodeId) : Bool :=
  (pattern.matchAt ust id (.fresh {} caseInsensitive)).success

/-- Matching a pattern at a node turns to matching another pattern or at another
node. -/
inductive Turns (ust : Ust) : Pattern × NodeId → Pattern × NodeId → Prop
  | part {pattern part : Pattern} {id node : NodeId} (member : part ∈ pattern.parts)
      (reached : ust.Reaches id node) : Turns ust (pattern, id) (part, node)
  | arguments {pattern : Pattern} {arguments : List Pattern} {id node : NodeId}
      (given : pattern.callArguments? = some arguments) (isChild : ust.IsChild id node) :
      Turns ust (pattern, id) (args arguments, node)
  | declaredType {variableType name : Pattern} {initializer : Option Pattern}
      {id nameId typeId : NodeId} {initializerId : Option NodeId}
      (kindEq : ust.kind? id = some (.variableDeclaration nameId initializerId))
      (found : declaredType? ust id = some typeId) :
      Turns ust (variableDeclaration (some variableType) name initializer, id)
        (variableType, typeId)
  | declared {variableType initializer : Option Pattern} {name : Pattern} {id inner : NodeId}
      (declares : ust.Declares id inner) :
      Turns ust (variableDeclaration variableType name initializer, id)
        (variableDeclaration variableType name initializer, inner)

end Pattern

/-- A pattern that has matched at a node. -/
structure Mark where
  pattern : Pattern
  node : NodeId

namespace Mark

/-- The span that is gathered for a mark, if there is one to gather. -/
def span? (ust : Ust) (nonterminalSpans : Bool) (mark : Mark) : Option Span :=
  if (mark.pattern.isNonterminal && !nonterminalSpans) || (ust.span mark.node).isEmpty then none
  else some (ust.span mark.node)

theorem span?_eq_some_iff {ust : Ust} {nonterminalSpans : Bool} {mark : Mark} {span : Span} :
    mark.span? ust nonterminalSpans = some span ↔
      (mark.pattern.isNonterminal = true → nonterminalSpans = true) ∧
        (ust.span mark.node).isEmpty = false ∧ ust.span mark.node = span := by
  unfold span?
  cases mark.pattern.isNonterminal <;> cases nonterminalSpans <;>
    cases (ust.span mark.node).isEmpty <;> simp

/-- A mark that matching a pattern at a node can leave: matching turns to the
pattern and the node of the mark, and these match. -/
structure Known (ust : Ust) (caseInsensitive : Bool) (start : Pattern × NodeId) (mark : Mark) :
    Prop where
  path : ReflTransGen (Pattern.Turns ust) start (mark.pattern, mark.node)
  matched : mark.pattern.fits ust caseInsensitive mark.node = true

theorem Known.of_turns {ust : Ust} {caseInsensitive : Bool} {start next : Pattern × NodeId}
    (turns : Pattern.Turns ust start next) {mark : Mark}
    (known : Known ust caseInsensitive next mark) : Known ust caseInsensitive start mark :=
  ⟨known.path.head turns, known.matched⟩

theorem known_self {ust : Ust} {caseInsensitive : Bool} {pattern : Pattern} {id : NodeId}
    (matched : pattern.fits ust caseInsensitive id = true) :
    Known ust caseInsensitive (pattern, id) ⟨pattern, id⟩ :=
  ⟨.refl, matched⟩

end Mark

/-! ## Steps that leave marks -/

/-- From every trail that has not failed and treats case as given, a step comes to
the same verdict, and it gathers what is to be gathered for the same marks. -/
def Leaves (ust : Ust) (caseInsensitive : Bool) (step : Trail → Trail) (success : Bool)
    (marks : List Mark) : Prop :=
  ∀ ⦃trail : Trail⦄, trail.success = true → trail.caseInsensitive = caseInsensitive →
    step trail =
      trail.extend success (marks.filterMap (·.span? ust trail.options.nonterminalSpans))

namespace Leaves

variable {ust : Ust} {caseInsensitive : Bool} {step : Trail → Trail} {success : Bool}
  {marks : List Mark}

theorem success_fresh (leaves : Leaves ust caseInsensitive step success marks)
    (options : Options) : (step (.fresh options caseInsensitive)).success = success :=
  congrArg Trail.success (leaves rfl rfl)

theorem locations_fresh (leaves : Leaves ust caseInsensitive step success marks)
    (options : Options) :
    (step (.fresh options caseInsensitive)).locations =
      marks.filterMap (·.span? ust options.nonterminalSpans) :=
  congrArg Trail.locations (leaves rfl rfl)

end Leaves

/-- A step leaves marks of a known kind. -/
def Marked (ust : Ust) (caseInsensitive : Bool) (known : Mark → Prop) (step : Trail → Trail) :
    Prop :=
  ∃ success marks, Leaves ust caseInsensitive step success marks ∧ ∀ mark ∈ marks, known mark

/-- A test comes to the same verdict on every trail that has not failed and treats
case as given. -/
def Steady (caseInsensitive : Bool) (test : Trail → Bool) : Prop :=
  ∃ verdict, ∀ ⦃trail : Trail⦄, trail.success = true → trail.caseInsensitive = caseInsensitive →
    test trail = verdict

theorem steady_caseInsensitive {caseInsensitive : Bool} (test : Bool → Bool) :
    Steady caseInsensitive fun trail => test trail.caseInsensitive :=
  ⟨test caseInsensitive, fun _ _ caseEq => congrArg test caseEq⟩

theorem Steady.both {caseInsensitive : Bool} {test other : Trail → Bool}
    (first : Steady caseInsensitive test) (second : Steady caseInsensitive other)
    (join : Bool → Bool → Bool) :
    Steady caseInsensitive fun trail => join (test trail) (other trail) := by
  obtain ⟨verdict, tested⟩ := first
  obtain ⟨otherVerdict, otherTested⟩ := second
  exact ⟨join verdict otherVerdict, fun _ succeeding caseEq =>
    congrArg₂ join (tested succeeding caseEq) (otherTested succeeding caseEq)⟩

namespace Marked

variable {ust : Ust} {caseInsensitive : Bool} {known : Mark → Prop} {step next : Trail → Trail}
  {pattern : Pattern} {id : NodeId}

theorem mono {wider : Mark → Prop} (marked : Marked ust caseInsensitive known step)
    (implies : ∀ {mark}, known mark → wider mark) : Marked ust caseInsensitive wider step := by
  obtain ⟨success, marks, leaves, each⟩ := marked
  exact ⟨success, marks, leaves, fun mark member => implies (each mark member)⟩

theorem congr {other : Trail → Trail} (marked : Marked ust caseInsensitive known step)
    (same : ∀ trail, step trail = other trail) : Marked ust caseInsensitive known other :=
  funext same ▸ marked

theorem steady (marked : Marked ust caseInsensitive known step) :
    Steady caseInsensitive fun trail => (step trail).success := by
  obtain ⟨success, marks, leaves, -⟩ := marked
  exact ⟨success, fun trail succeeding caseEq => congrArg Trail.success (leaves succeeding caseEq)⟩

theorem self : Marked ust caseInsensitive known fun trail => trail :=
  ⟨true, [], fun _ succeeding _ => (Trail.extend_true_nil succeeding).symm, by simp⟩

theorem fail : Marked ust caseInsensitive known Trail.fail :=
  ⟨false, [], fun trail _ _ => (Trail.extend_false_nil trail).symm, by simp⟩

/-- A branch matters only if it is the one that the test chooses. -/
theorem ite {test : Trail → Bool} (steady : Steady caseInsensitive test)
    (passed : test (.fresh {} caseInsensitive) = true → Marked ust caseInsensitive known step)
    (failed : Marked ust caseInsensitive known next) :
    Marked ust caseInsensitive known fun trail =>
      if test trail then step trail else next trail := by
  obtain ⟨verdict, tested⟩ := steady
  cases verdict with
  | true =>
      obtain ⟨success, marks, leaves, each⟩ := passed (tested rfl rfl)
      refine ⟨success, marks, fun trail succeeding caseEq => ?_, each⟩
      simp only [tested succeeding caseEq, if_true, leaves succeeding caseEq]
  | false =>
      obtain ⟨success, marks, leaves, each⟩ := failed
      refine ⟨success, marks, fun trail succeeding caseEq => ?_, each⟩
      simp only [tested succeeding caseEq, Bool.false_eq_true, if_false, leaves succeeding caseEq]

theorem add (isKnown : known ⟨pattern, id⟩) (terminal : pattern.isNonterminal = false) :
    Marked ust caseInsensitive known fun trail => trail.add (ust.span id) := by
  refine ⟨true, [⟨pattern, id⟩], fun trail succeeding _ => ?_, by simpa using isKnown⟩
  cases empty : (ust.span id).isEmpty with
  | true => simp [Trail.add, Mark.span?, empty, Trail.extend_true_nil succeeding]
  | false => simp [Trail.add, Mark.span?, empty, terminal, Trail.extend, ← succeeding]

theorem addNonterminal (isKnown : known ⟨pattern, id⟩)
    (nonterminal : pattern.isNonterminal = true) :
    Marked ust caseInsensitive known fun trail => trail.addNonterminal (ust.span id) := by
  refine ⟨true, [⟨pattern, id⟩], fun trail succeeding _ => ?_, by simpa using isKnown⟩
  cases empty : (ust.span id).isEmpty with
  | true =>
      simp [Trail.addNonterminal, Trail.add, Mark.span?, empty, Trail.extend_true_nil succeeding]
  | false =>
      cases asked : trail.options.nonterminalSpans with
      | true =>
          simp [Trail.addNonterminal, Trail.add, Mark.span?, asked, empty, Trail.extend,
            ← succeeding]
      | false =>
          simp [Trail.addNonterminal, Mark.span?, asked, nonterminal,
            Trail.extend_true_nil succeeding]

/-- A node that passes a test is marked, so the mark is known if that follows from
passing the test. -/
theorem check {test : Trail → Bool} (steady : Steady caseInsensitive test)
    (isKnown : ((Trail.fresh {} caseInsensitive).check (test (.fresh {} caseInsensitive))
      (ust.span id)).success = true → known ⟨pattern, id⟩)
    (terminal : pattern.isNonterminal = false) :
    Marked ust caseInsensitive known fun trail => trail.check (test trail) (ust.span id) := by
  refine ite steady (fun passes => add (isKnown ?_) terminal) fail
  rw [Trail.check, if_pos passes, Trail.success_add]
  rfl

theorem andThen (first : Marked ust caseInsensitive known step)
    (second : Marked ust caseInsensitive known next) :
    Marked ust caseInsensitive known fun trail => (step trail).andThen next := by
  obtain ⟨success, marks, leaves, each⟩ := first
  cases success with
  | false =>
      refine ⟨false, marks, fun trail succeeding caseEq => ?_, each⟩
      simp [Trail.andThen, leaves succeeding caseEq]
  | true =>
      obtain ⟨verdict, more, leavesMore, eachMore⟩ := second
      refine ⟨verdict, marks ++ more, fun trail succeeding caseEq => ?_, ?_⟩
      · rw [List.filterMap_append, ← Trail.extend_extend _ true]
        simp only [leaves succeeding caseEq, Trail.andThen, Trail.success_extend, if_true]
        exact leavesMore rfl caseEq
      · intro mark member
        rcases List.mem_append.mp member with inFirst | inSecond
        · exact each mark inFirst
        · exact eachMore mark inSecond

/-- A step that succeeds leaves a trail to go on with, so going on is `andThen`. -/
theorem branch {last : Trail → Trail} (tried : Marked ust caseInsensitive known step)
    (passed : Marked ust caseInsensitive known next)
    (failed : Marked ust caseInsensitive known last) :
    Marked ust caseInsensitive known fun trail =>
      if (step trail).success then next (step trail) else last trail := by
  apply (ite tried.steady (fun _ => tried.andThen passed) failed).congr
  intro trail
  rw [Trail.andThen]
  split <;> rfl

/-- A node whose children have matched is marked, so the mark is known if that
follows from their having matched. -/
theorem close (marked : Marked ust caseInsensitive known step)
    (isKnown : ((step (.fresh {} caseInsensitive)).close (ust.span id)).success = true →
      known ⟨pattern, id⟩)
    (nonterminal : pattern.isNonterminal = true) :
    Marked ust caseInsensitive known fun trail => (step trail).close (ust.span id) := by
  obtain ⟨success, marks, leaves, each⟩ := marked
  cases success with
  | false =>
      refine ⟨false, marks, fun trail succeeding caseEq => ?_, each⟩
      simp [Trail.close, Trail.andThen, leaves succeeding caseEq]
  | true =>
      have succeeds : ((step (.fresh {} caseInsensitive)).close (ust.span id)).success = true := by
        rw [Trail.success_close, leaves rfl rfl, Trail.success_extend]
      exact andThen ⟨true, marks, leaves, each⟩ (addNonterminal (isKnown succeeds) nonterminal)

end Marked

/-! ## Searching among candidates -/

section Candidates

variable {ust : Ust} {caseInsensitive : Bool} {known : Mark → Prop} {α : Type}

theorem marked_firstOf {attempt : Attempt α} {candidates : List α}
    (each : ∀ candidate ∈ candidates, Marked ust caseInsensitive known (attempt candidate)) :
    Marked ust caseInsensitive known (firstOf attempt candidates) := by
  induction candidates with
  | nil => exact .fail
  | cons candidate rest ih =>
      have here := each candidate List.mem_cons_self
      have others := ih fun other member => each other (List.mem_cons_of_mem candidate member)
      exact .ite here.steady (fun _ => here) others

end Candidates

namespace Pattern

/-! ## Steps put together -/

/-- The ties of a run with itself: all nodes are the node or below it, and steps leave known
marks. -/
def markTies (ust : Ust) (caseInsensitive : Bool) (known : Mark → Prop) (id : NodeId) : Ties where
  nodes node other := other = node ∧ ust.Reaches id node
  children node other := other = node ∧ ust.IsChild id node
  nodes_of_children tied := ⟨tied.1, .single tied.2⟩
  names := Eq
  steps step _ := Marked ust caseInsensitive known (step.run ust id)
  outlines outline _ := Marked ust caseInsensitive known (outline.run ust id)

section Steps

variable {ust : Ust} {caseInsensitive : Bool} {known : Mark → Prop} {id : NodeId}

theorem kinds_of_reaches {node : NodeId} (reached : ust.Reaches id node) :
    (markTies ust caseInsensitive known id).Kinds (ust.kind? node) (ust.kind? node) :=
  Ust.rel_kind?_self fun _ isChild => ⟨rfl, reached.tail isChild⟩

theorem Test.Like.steady {test other : Test}
    (like : test.Like (markTies ust caseInsensitive known id) other) :
    Steady caseInsensitive (test.run ust ·) := by
  induction like with
  | ask question => exact steady_caseInsensitive question
  | fits tied => exact Marked.steady tied
  | both _ _ ihFirst ihSecond => exact ihFirst.both ihSecond and
  | either _ _ ihFirst ihSecond => exact ihFirst.both ihSecond or
  | look tied _ ih => exact ih (kinds_of_reaches tied.2)

theorem Step.Like.marked {step other : Step}
    (like : step.Like (markTies ust caseInsensitive known id) other) :
    Marked ust caseInsensitive known (step.run ust id) := by
  induction like with
  | skip => exact .self
  | fail => exact .fail
  | tied tied => exact tied
  | andThen _ _ ihFirst ihSecond => exact ihFirst.andThen ihSecond
  | branch _ _ _ ihTried ihPassed ihFailed => exact .branch ihTried ihPassed ihFailed
  | refuse tests => exact .ite tests.steady (fun _ => .fail) .self
  | look tied _ ih => exact ih (kinds_of_reaches tied.2)

/-- Whether an outline gathers the span of the node only if the spans of nodes with children
are asked for; one may not gather it at all. -/
def Outline.nonterminal? : Outline → Option Bool
  | mark | check _ => some false
  | close _ | declared _ _ _ => some true
  | bare _ => none

theorem isNonterminal_eq (pattern : Pattern) (id : NodeId) (kind? : Option NodeKind) :
    ∀ nonterminal ∈ (pattern.outline id kind?).nonterminal?,
      pattern.isNonterminal = nonterminal := by
  intro nonterminal given
  cases pattern with
  | any | anyExpression | conjunction _ | disjunction _ | negation _ | anywhere _
  | variableDeclaration _ _ _ => cases given <;> rfl
  | binaryOperator _ _ _ | unaryOperator _ _ =>
      cases kind? with
      | none => cases given
      | some kind =>
          cases kind <;> first
            | cases given
            | (simp only [outline, Option.elim_some, shape] at given
               split at given <;> cases given
               rfl)
  | _ =>
      cases kind? with
      | none => cases given
      | some kind => cases kind <;> cases given <;> rfl

theorem Outline.Like.marked {pattern : Pattern} {outline other : Outline}
    (like : outline.Like (markTies ust caseInsensitive known id) other)
    (own : (outline.run ust id (.fresh {} caseInsensitive)).success = true →
      known ⟨pattern, id⟩)
    (nonterminal : ∀ nonterminal ∈ outline.nonterminal?, pattern.isNonterminal = nonterminal) :
    Marked ust caseInsensitive known (outline.run ust id) := by
  cases like with
  | mark => exact .add (own (Trail.success_add _ _)) (nonterminal false rfl)
  | check tests => exact .check tests.steady own (nonterminal false rfl)
  | close steps => exact .close steps.marked own (nonterminal true rfl)
  | bare steps => exact steps.marked
  | tied tied => exact tied

end Steps

/-! ## Declarations -/

section Declarations

variable {ust : Ust} {caseInsensitive : Bool}
  {declared : NodeId → NodeId → Option NodeId → Trail → Trail}

/-- More depth spoils no success. -/
theorem success_matchDeclared_mono {depth deeper : Nat} (noDeeper : depth ≤ deeper) {id : NodeId}
    {trail : Trail} (succeeds : (matchDeclared ust declared depth id trail).success = true) :
    (matchDeclared ust declared deeper id trail).success = true := by
  induction depth generalizing deeper id with
  | zero => simp [matchDeclared, Trail.fail] at succeeds
  | succ depth ih =>
      obtain ⟨deeper, rfl⟩ := Nat.exists_eq_add_of_le' (Nat.le_of_add_left_le noDeeper)
      rw [matchDeclared, atKind] at succeeds ⊢
      cases kindEq : ust.kind? id with
      | none => simp [kindEq, Trail.fail] at succeeds
      | some kind =>
          cases kind with
          | variableDeclaration nameId initializerId => simpa [kindEq] using succeeds
          | fieldDeclaration fieldType declarators =>
              simp only [kindEq, Option.bind_some, Trail.success_close, success_firstOf,
                List.any_eq_true] at succeeds ⊢
              obtain ⟨inner, listed, innerSucceeds⟩ := succeeds
              exact ⟨inner, listed, ih (Nat.le_of_succ_le_succ noDeeper) innerSucceeds⟩
          | _ => simp [kindEq, Trail.fail] at succeeds

/-- Inside a field the depth is smaller.  What has matched there is known because
it matches at the whole depth too. -/
theorem marked_matchDeclared (known : NodeId → Mark → Prop) {pattern : Pattern}
    (isKnown : ∀ {id},
      (matchDeclared ust declared ust.size id (.fresh {} caseInsensitive)).success = true →
        known id ⟨pattern, id⟩)
    (nonterminal : pattern.isNonterminal = true)
    (each : ∀ {id nameId initializerId},
      ust.kind? id = some (.variableDeclaration nameId initializerId) →
        Marked ust caseInsensitive (known id) (declared id nameId initializerId))
    (inside : ∀ {id inner mark}, ust.Declares id inner → known inner mark → known id mark)
    {depth : Nat} (noDeeper : depth ≤ ust.size) (id : NodeId) :
    Marked ust caseInsensitive (known id) (matchDeclared ust declared depth id) := by
  induction depth generalizing id with
  | zero => exact .fail
  | succ depth ih =>
      have own : (matchDeclared ust declared (depth + 1) id (.fresh {} caseInsensitive)).success =
          true → known id ⟨pattern, id⟩ :=
        fun succeeds => isKnown (success_matchDeclared_mono noDeeper succeeds)
      revert own
      refine matchDeclared_cases
        (motive := fun step => ((step (.fresh {} caseInsensitive)).success = true →
          known id ⟨pattern, id⟩) → Marked ust caseInsensitive (known id) step)
        (fun nameId initializerId kindEq own => ?_) (fun fieldType declarators kindEq own => ?_)
        fun _ _ _ => .fail
      · exact (each kindEq).close own nonterminal
      · refine (marked_firstOf fun inner listed => ?_).close own nonterminal
        exact (ih (Nat.le_of_succ_le noDeeper) inner).mono
          (inside ⟨fieldType, declarators, kindEq, listed⟩)

end Declarations

/-! ## Matching -/

/-- Wherever a pattern is matched, it leaves marks that are known from there. -/
def Traced (ust : Ust) (caseInsensitive : Bool) (pattern : Pattern) : Prop :=
  ∀ id, Marked ust caseInsensitive (Mark.Known ust caseInsensitive (pattern, id))
    (matchAt ust pattern id)

section Matching

variable {ust : Ust} {caseInsensitive : Bool} {pattern : Pattern} {id : NodeId}

theorem Traced.patterns {part : Pattern} (traced : Traced ust caseInsensitive part)
    (member : part ∈ pattern.parts) :
    (markTies ust caseInsensitive (Mark.Known ust caseInsensitive (pattern, id)) id).Patterns part
      part := by
  rintro _ node ⟨rfl, reached⟩
  exact (traced node).mono (.of_turns (.part member reached))

/-- The type of a variable is the one part that is not matched at the node or below
it. -/
theorem marked_declared {variableType initializer : Option Pattern} {name : Pattern}
    (each : ∀ part ∈ (variableDeclaration variableType name initializer).parts,
      Traced ust caseInsensitive part) :
    Marked ust caseInsensitive
      (Mark.Known ust caseInsensitive (variableDeclaration variableType name initializer, id))
      ((Outline.declared variableType name initializer).run ust id) := by
  let whole := variableDeclaration variableType name initializer
  let known := fun node => Mark.Known ust caseInsensitive (whole, node)
  have own : ∀ {node}, ((Outline.declared variableType name initializer).run ust node
      (.fresh {} caseInsensitive)).success = true → known node ⟨whole, node⟩ := by
    intro node succeeds
    refine Mark.known_self ?_
    rwa [fits, matchAt_eq_run]
  refine marked_matchDeclared known own rfl (fun {id nameId initializerId} kindEq => ?_)
    (fun declares => .of_turns (.declared declares)) le_rfl id
  let ties := markTies ust caseInsensitive (known id) id
  have toChild : ∀ node ∈ nameId :: initializerId.toList, ties.nodes node node :=
    fun node member => ⟨rfl, .single (Ust.isChild_of_kind? kindEq member)⟩
  have onPart : ∀ part ∈ whole.parts, ties.Patterns part part :=
    fun part member => (each part member).patterns member
  have ofType : ties.steps (.typed variableType) (.typed variableType) := by
    change Marked ust caseInsensitive (known id)
      (matchOptional ust variableType (declaredType? ust id))
    cases variableType with
    | none => exact .self
    | some part =>
        cases found : declaredType? ust id with
        | none => exact .fail
        | some typeId =>
            exact (each part (by simp) typeId).mono (.of_turns (.declaredType kindEq found))
  exact (Step.like_ofVariable_self ofType onPart toChild).marked

/-- Matching leaves marks that are known if matching the parts does, and matching the
arguments that there may be as a whole. -/
theorem traced_of_parts (each : ∀ part ∈ pattern.parts, Traced ust caseInsensitive part)
    (arguments : ∀ {patterns}, pattern.callArguments? = some patterns →
      Traced ust caseInsensitive (args patterns)) :
    Traced ust caseInsensitive pattern := by
  intro id
  let known := Mark.Known ust caseInsensitive (pattern, id)
  have parts : (markTies ust caseInsensitive known id).Parts pattern fun _ part => part := by
    constructor
    · exact fun index part found =>
        have member := List.mem_of_getElem? found
        (each part member).patterns member
    · exact fun _ _ _ same => same
    · rintro patterns given _ node ⟨rfl, isChild⟩
      exact (arguments given node).mono (.of_turns (.arguments given isChild))
    · intro part other _ patterns
      exact marked_firstOf fun node member => patterns ⟨rfl, Ust.reaches_of_mem_descendants
        (List.mem_cons_of_mem id member)⟩
    · rintro _ _ _ _ _ _ rfl - - -
      exact marked_declared each
  have like := like_outline_self parts ⟨rfl, .refl⟩
    (Ust.rel_kind?_self fun child isChild => ⟨rfl, isChild⟩)
  rw [matchAt_eq_run]
  refine like.marked (fun succeeds => Mark.known_self ?_) (isNonterminal_eq pattern id _)
  rwa [fits, matchAt_eq_run]

/-- Matching leaves marks that are known from where it starts, by induction over
the parts of the pattern. -/
theorem traced (ust : Ust) (caseInsensitive : Bool) (pattern : Pattern) :
    Traced ust caseInsensitive pattern := by
  induction pattern using arguments_induction with
  | step pattern each arguments => exact traced_of_parts each arguments

end Matching

end Pattern

end TreeSieve
