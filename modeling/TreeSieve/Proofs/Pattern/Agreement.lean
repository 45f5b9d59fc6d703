import TreeSieve.Proofs.Pattern.Alike
import TreeSieve.Proofs.Pattern.Likeness
import TreeSieve.Proofs.Ust.Preorder

/-!
# Two runs of matching side by side

Two patterns agree if matching the one in a first tree and the other in a second takes
like trails to like trails.  Steps that are put together in the same way from steps that
agree do agree, so a pattern agrees with what comes of changing its parts, whenever the
parts agree with what they are changed to.

Only the tests of a name look at the names in which the trees differ.  Whether they
agree depends on what the trees and the trails have in common.
-/

namespace TreeSieve

namespace Pattern

/-- Matching two patterns, each in its tree, agrees at all nodes of interest. -/
def Agreeing (alike : Trail → Trail → Prop) (inside : NodeId → Prop) (first second : Ust)
    (pattern other : Pattern) : Prop :=
  ∀ ⦃id : NodeId⦄, inside id → Agree alike (pattern.matchAt first id) (other.matchAt second id)

/-- The ties between two runs at a node: the nodes are the same, and steps agree. -/
def agreementTies (alike : Trail → Trail → Prop) (same : String → String → Prop)
    (inside : NodeId → Prop) (first second : Ust) (id : NodeId) : Ties where
  nodes node other := other = node ∧ inside node
  children node other := other = node ∧ inside node
  nodes_of_children tied := tied
  names := same
  steps step other := Agree alike (step.run first id) (other.run second id)
  outlines outline other := Agree alike (outline.run first id) (other.run second id)

section Agreement

variable {alike : Trail → Trail → Prop} {same : String → String → Prop} {inside : NodeId → Prop}
  {first second : Ust} {id : NodeId}

/-! ## Steps put together -/

theorem kinds_of_inside (comparison : Comparison alike same inside first second)
    (isInside : inside id) (own : NodeId) :
    (agreementTies alike same inside first second own).Kinds (first.kind? id)
      (second.kind? id) := by
  have related := comparison.upToNames.kind?_rel id
  have children : ∀ {kind}, first.kind? id = some kind → ∀ child ∈ kind.children, inside child :=
    fun kindEq _ member => comparison.enclosed.child isInside (Ust.isChild_of_kind? kindEq member)
  generalize first.kind? id = kind? at related children ⊢
  generalize second.kind? id = other? at related ⊢
  cases related with
  | none => exact .none
  | some upToNames =>
      refine .some ?_
      cases upToNames with
      | refl => exact .refl fun child member => ⟨rfl, children rfl child member⟩
      | identifier names => exact .identifier names
      | typeToken names => exact .typeToken names

theorem Test.Like.sameVerdict (comparison : Comparison alike same inside first second)
    {test other : Test}
    (like : test.Like (agreementTies alike same inside first second id) other) :
    SameVerdict alike (test.run first ·) (other.run second ·) := by
  induction like with
  | ask question => exact comparison.likeness.sameVerdict_caseInsensitive question
  | fits tied => exact Agree.sameVerdict tied comparison.likeness
  | both _ _ ihFirst ihSecond =>
      exact fun _ _ succeeding related =>
        congrArg₂ and (ihFirst succeeding related) (ihSecond succeeding related)
  | either _ _ ihFirst ihSecond =>
      exact fun _ _ succeeding related =>
        congrArg₂ or (ihFirst succeeding related) (ihSecond succeeding related)
  | look tied _ ih =>
      obtain ⟨rfl, isInside⟩ := tied
      exact ih (kinds_of_inside comparison isInside id)

theorem Step.Like.agree (comparison : Comparison alike same inside first second)
    {step other : Step}
    (like : step.Like (agreementTies alike same inside first second id) other) :
    Agree alike (step.run first id) (other.run second id) := by
  have likeness := comparison.likeness
  induction like with
  | skip => exact agree_self
  | fail => exact likeness.agree_fail
  | tied tied => exact tied
  | andThen _ _ ihFirst ihSecond => exact ihFirst.andThen likeness ihSecond
  | branch _ _ _ ihTried ihPassed ihFailed => exact .branch likeness ihTried ihPassed ihFailed
  | refuse tests => exact .ite (tests.sameVerdict comparison) likeness.agree_fail agree_self
  | look tied _ ih =>
      obtain ⟨rfl, isInside⟩ := tied
      exact ih (kinds_of_inside comparison isInside id)

theorem Outline.Like.agree (comparison : Comparison alike same inside first second)
    {outline other : Outline}
    (like : outline.Like (agreementTies alike same inside first second id) other) :
    Agree alike (outline.run first id) (other.run second id) := by
  have likeness := comparison.likeness
  have spanEq := comparison.upToNames.span_eq id
  cases like with
  | mark =>
      change Agree alike (·.add (first.span id)) (·.add (second.span id))
      rw [spanEq]
      exact likeness.agree_add (first.span id)
  | @check test other tests =>
      change Agree alike (fun trail => trail.check (test.run first trail) (first.span id))
        fun trail => trail.check (other.run second trail) (second.span id)
      rw [spanEq]
      exact .check likeness (tests.sameVerdict comparison) (first.span id)
  | @close step other steps =>
      change Agree alike (fun trail => (step.run first id trail).close (first.span id))
        fun trail => (other.run second id trail).close (second.span id)
      rw [spanEq]
      exact (steps.agree comparison).close likeness (first.span id)
  | bare steps => exact steps.agree comparison
  | tied tied => exact tied

/-! ## Declarations inside fields -/

theorem agree_matchDeclared (comparison : Comparison alike same inside first second)
    {declared other : NodeId → NodeId → Option NodeId → Trail → Trail}
    (each : ∀ {variableId nameId initializerId}, inside variableId → inside nameId →
      (∀ node ∈ initializerId, inside node) →
        Agree alike (declared variableId nameId initializerId)
          (other variableId nameId initializerId))
    (depth : Nat) (isInside : inside id) :
    Agree alike (matchDeclared first declared depth id) (matchDeclared second other depth id) := by
  have likeness := comparison.likeness
  induction depth generalizing id with
  | zero => exact likeness.agree_fail
  | succ depth ih =>
      intro trail otherTrail succeeding alikeTrails
      have related := comparison.upToNames.kind?_rel id
      rw [matchDeclared, matchDeclared, atKind, atKind, comparison.upToNames.span_eq]
      generalize second.kind? id = other? at related ⊢
      cases kindEq : first.kind? id with
      | none =>
          rw [kindEq] at related
          cases related
          exact likeness.fail alikeTrails
      | some kind =>
          rw [kindEq] at related
          have children : ∀ child ∈ kind.children, inside child := fun child member =>
            comparison.enclosed.child isInside (Ust.isChild_of_kind? kindEq member)
          rcases related with @⟨_, _, upToNames⟩ | _
          cases upToNames with
          | identifier | typeToken => exact likeness.fail alikeTrails
          | refl =>
              cases kind with
              | variableDeclaration nameId initializerId =>
                  refine Agree.close likeness (each isInside ?_ ?_) _ succeeding alikeTrails
                  · exact children nameId (by simp [NodeKind.children])
                  · exact fun node given => children node (by simp_all [NodeKind.children])
              | fieldDeclaration fieldType declarators =>
                  refine Agree.close likeness (agree_firstOf likeness fun node member => ?_) _
                    succeeding alikeTrails
                  exact ih (children node (by simp [NodeKind.children, member]))
              | _ => exact likeness.fail alikeTrails

theorem declaredType?_eq (upToNames : first.UpToNames same second) (id : NodeId) :
    declaredType? second id = declaredType? first id := by
  rw [declaredType?, declaredType?, upToNames.parent?_eq]
  cases first.parent? id with
  | none => rfl
  | some parent =>
      have related := upToNames.kind?_rel parent
      simp only [Option.bind_eq_bind, Option.bind_some]
      generalize first.kind? parent = kind? at related ⊢
      generalize second.kind? parent = other? at related ⊢
      rcases related with @⟨kind, other, upToNames⟩ | _
      · cases upToNames <;> rfl
      · rfl

theorem patterns_eq_agreeing (own : NodeId) :
    (agreementTies alike same inside first second own).Patterns =
      Agreeing alike inside first second := by
  funext pattern other
  refine propext ⟨fun patterns id isInside => patterns ⟨rfl, isInside⟩, ?_⟩
  rintro agreeing id _ ⟨rfl, isInside⟩
  exact agreeing isInside

theorem agree_declared (comparison : Comparison alike same inside first second)
    {variableType otherType initializer otherInitializer : Option Pattern} {name other : Pattern}
    (onType : Option.Rel (Agreeing alike inside first second) variableType otherType)
    (onName : Agreeing alike inside first second name other)
    (onInitializer : Option.Rel (Agreeing alike inside first second) initializer otherInitializer)
    (isInside : inside id) :
    Agree alike ((Outline.declared variableType name initializer).run first id)
      ((Outline.declared otherType other otherInitializer).run second id) := by
  change Agree alike (matchDeclared first _ first.size id) (matchDeclared second _ second.size id)
  rw [comparison.upToNames.size_eq]
  refine agree_matchDeclared comparison
    (fun {variableId nameId initializerId} here nameInside initializerInside => ?_) first.size
    isInside
  let ties := agreementTies alike same inside first second variableId
  rw [← patterns_eq_agreeing variableId] at onType onName onInitializer
  have types : ties.steps (.typed variableType) (.typed otherType) := by
    change Agree alike (matchOptional first variableType (declaredType? first variableId))
      (matchOptional second otherType (declaredType? second variableId))
    rw [matchOptional_eq_run variableId, matchOptional_eq_run variableId,
      declaredType?_eq comparison.upToNames]
    exact (Step.like_optional onType (rel_self fun node found =>
      ⟨rfl, comparison.enclosed.declaredType here found⟩)).agree comparison
  exact (Step.like_ofVariable types onName onInitializer ⟨rfl, nameInside⟩
    (rel_self fun node given => ⟨rfl, initializerInside node given⟩)).agree comparison

/-! ## Matching -/

theorem agreeing_of_arguments (comparison : Comparison alike same inside first second)
    {pattern : Pattern} (nameless : pattern.isNameTest = false)
    {change : Nat → Pattern → Pattern}
    (each : ∀ index part, pattern.parts[index]? = some part →
      Agreeing alike inside first second part (change index part))
    (arguments : ∀ {patterns}, pattern.callArguments? = some patterns →
      Agreeing alike inside first second (args patterns)
        (args (patterns.mapIdx fun index => change (index + 1)))) :
    Agreeing alike inside first second pattern (pattern.mapParts change) := by
  intro id isInside trail otherTrail succeeding alikeTrails
  have parts : (agreementTies alike same inside first second id).Parts pattern change := by
    constructor
    · rw [patterns_eq_agreeing]
      exact each
    · simp [nameless]
    · rintro patterns given node _ ⟨rfl, nodeInside⟩
      exact arguments given nodeInside
    · intro part other _ patterns
      change Agree alike (firstOf (matchAt first part) (first.descendants id))
        (firstOf (matchAt second other) (second.descendants id))
      rw [comparison.upToNames.descendants_eq]
      refine agree_firstOf comparison.likeness fun node member => patterns ⟨rfl, ?_⟩
      exact comparison.enclosed.descendant isInside (Ust.reaches_of_mem_descendants
        (List.mem_cons_of_mem id member))
    · rintro _ _ _ _ _ _ rfl onType onName onInitializer
      rw [patterns_eq_agreeing] at onType onName onInitializer
      exact agree_declared comparison onType onName onInitializer isInside
  have like := like_outline parts ⟨rfl, isInside⟩ (kinds_of_inside comparison isInside id)
  rw [matchAt_eq_run, matchAt_eq_run]
  exact like.agree comparison succeeding alikeTrails

/-- A pattern agrees with what comes of changing its parts to patterns that agree
with them. -/
theorem agreeing_mapParts (comparison : Comparison alike same inside first second)
    {pattern : Pattern}
    (onName : pattern.isNameTest = true → Agreeing alike inside first second pattern pattern)
    {change : Nat → Pattern → Pattern}
    (each : ∀ index part, pattern.parts[index]? = some part →
      Agreeing alike inside first second part (change index part)) :
    Agreeing alike inside first second pattern (pattern.mapParts change) := by
  cases named : pattern.isNameTest with
  | true =>
      -- Such a pattern has no parts and stays as it is.
      have unchanged : pattern.mapParts change = pattern := by
        cases pattern <;> first
          | rfl
          | cases named
      rw [unchanged]
      exact onName named
  | false =>
      refine agreeing_of_arguments comparison named each fun {patterns} given => ?_
      have onPart : ∀ index part, (args patterns).parts[index]? = some part →
          Agreeing alike inside first second part (change (index + 1) part) :=
        fun index part found =>
          each (index + 1) part ((getElem?_parts_of_callArguments? given index).trans found)
      exact agreeing_of_arguments comparison rfl onPart nofun

end Agreement

end Pattern

end TreeSieve
