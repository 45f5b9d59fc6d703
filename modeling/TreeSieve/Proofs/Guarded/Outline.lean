import TreeSieve.Proofs.Guarded.Pattern
import TreeSieve.Proofs.Pattern.Outline

/-!
# Guarded runs of outlines

Guarded matching follows the same outlines as `Pattern.matchAt`.  Where an outline looks
at a node the node is read, and where it gathers the span of its own node that node is
read again.  Statements are matched in order by going along a list of steps instead of
keeping a place in a list of nodes.
-/

namespace TreeSieve

namespace Guarded

/-! ## Running an outline -/

section Guard

variable (ust : Ust) (call : Call)

/-- Whether a test is passed. -/
def guardTest (trail : Trail) : Pattern.Test → Run Bool
  | .ask question => return question trail.caseInsensitive
  | .fits pattern id => return (← call pattern id trail).success
  | .both first second => do
      if ← guardTest trail first then guardTest trail second else return false
  | .either first second => do
      if ← guardTest trail first then return true else guardTest trail second
  | .look id next => do
      let found ← node ust id
      guardTest trail (next (some found.kind))

/-- Take a step at a node of a kind, with so many steps for a walk below it. -/
def guardStep (steps : Nat) (id : NodeId) (kind : NodeKind) : Pattern.Step → Trail → Run Trail
  | .skip, trail => return trail
  | .fail, trail => return trail.fail
  | .call pattern node, trail => call pattern node trail
  | .arguments patterns node, trail => arguments ust call patterns node trail
  | .descend pattern, trail => firstBelow ust (call pattern) steps kind.children trail
  | .typed choice, trail => do
      let typeId ← declaredType ust id
      optional call choice typeId trail
  | .andThen first second, trail =>
      andThen (guardStep steps id kind first trail) (guardStep steps id kind second)
  | .branch first onward otherwise, trail => do
      let tried ← guardStep steps id kind first trail
      if tried.success then guardStep steps id kind onward tried
      else guardStep steps id kind otherwise trail
  | .refuse test, trail => do
      if ← guardTest ust call trail test then return trail.fail else return trail
  | .look target next, trail => do
      let found ← node ust target
      guardStep steps id kind (next (some found.kind)) trail

/-- Do what an outline says at a node that has been read. -/
def guardOutline (steps : Nat) (id : NodeId) (kind : NodeKind) (span : Span) :
    Pattern.Outline → Trail → Run Trail
  | .mark, trail => return trail.add span
  | .check test, trail => return trail.check (← guardTest ust call trail test) span
  | .close step, trail => close ust id (guardStep ust call steps id kind step trail)
  | .bare step, trail => guardStep ust call steps id kind step trail
  | .declared variableType name initializer, trail =>
      matchNode ust call steps id kind span (.variableDeclaration variableType name initializer)
        trail

end Guard

/-! ## Guarded matching as running an outline -/

section Equations

variable {ust : Ust} {call : Call} {steps : Nat} {id : NodeId} {kind : NodeKind} {trail : Trail}

theorem anyM_eq_guardTest {α : Type} (test : α → Pattern.Test) (items : List α) :
    items.anyM (fun item => guardTest ust call trail (test item)) =
      guardTest ust call trail (.anyOf (items.map test)) := by
  induction items with
  | nil => rfl
  | cons item rest ih =>
      rw [List.anyM, ih]
      change _ = guardTest ust call trail (.either _ _)
      rw [guardTest]
      refine bind_congr fun passed => ?_
      cases passed <;> rfl

theorem hasType_eq_guardTest (ust : Ust) (exceptionTypes : List Pattern)
    (declared : Option NodeId) :
    hasType call exceptionTypes trail declared =
      guardTest ust call trail (.hasType exceptionTypes declared) := by
  unfold hasType Pattern.Test.hasType
  split
  · rfl
  · cases declared with
    | none => rfl
    | some node => exact anyM_eq_guardTest (.fits · node) exceptionTypes

theorem clauseMatches_eq_guardTest (exceptionTypes : List Pattern) (bodyEmpty : Bool)
    (clause : NodeId) :
    clauseMatches ust call exceptionTypes bodyEmpty trail clause =
      guardTest ust call trail (.clause exceptionTypes bodyEmpty clause) := by
  rw [clauseMatches, Pattern.Test.clause, guardTest]
  refine bind_congr fun found => ?_
  cases found.kind with
  | catchClause exceptionType boundName body =>
      simp only [hasType_eq_guardTest ust]
      cases bodyEmpty <;> rfl
  | _ => rfl

theorem allOf_eq_guardStep {α : Type} (step : α → Pattern.Step) (items : List α) :
    allOf (fun item => guardStep ust call steps id kind (step item)) items =
      guardStep ust call steps id kind (.all (items.map step)) := by
  induction items with
  | nil => rfl
  | cons item rest ih =>
      funext trail
      rw [allOf, ih]
      rfl

theorem firstOf_eq_guardStep {α : Type} (step : α → Pattern.Step) (items : List α) :
    firstOf (fun item => guardStep ust call steps id kind (step item)) items =
      guardStep ust call steps id kind (.firstOf (items.map step)) := by
  induction items with
  | nil => rfl
  | cons item rest ih =>
      funext trail
      rw [firstOf, ih]
      rfl

theorem optional_eq_guardStep (choice : Option Pattern) (node? : Option NodeId) :
    optional call choice node? = guardStep ust call steps id kind (.optional choice node?) := by
  cases choice with
  | none => rfl
  | some pattern => cases node? <;> rfl

theorem someMember_eq_guardStep (choice : Option Pattern) (ids : List NodeId) :
    someMember call choice ids = guardStep ust call steps id kind (.someMember choice ids) := by
  cases choice with
  | none => rfl
  | some pattern => exact firstOf_eq_guardStep (.call pattern) ids

theorem positional_eq_guardStep (patterns : List Pattern) (ids : List NodeId) :
    positional call patterns ids =
      guardStep ust call steps id kind (.positional patterns ids) := by
  funext trail
  rw [positional, Pattern.Step.positional]
  split
  · rw [← List.map_uncurry_zip_eq_zipWith]
    exact congrFun (allOf_eq_guardStep (Function.uncurry .call) (patterns.zip ids)) trail
  · rfl

/-- A match that was tried and failed comes to the same when it is tried again. -/
theorem orInner_eq_guardStep (inner? : NodeKind → Option NodeId) (pattern : Pattern)
    (target : NodeId) :
    orInner ust inner? (call pattern) target =
      guardStep ust call steps id kind (.orInner inner? pattern target) := by
  funext trail
  rw [orInner, Pattern.Step.orInner, Pattern.Step.orElse, guardStep, guardStep]
  cases answer : call pattern target trail with
  | error stop => rfl
  | ok tried =>
      change (if _ then _ else node ust target >>= _) = if _ then _ else node ust target >>= _
      refine congrArg (ite _ _) (bind_congr fun found => ?_)
      change _ = guardStep ust call steps id kind
        ((inner? found.kind).elim (.call pattern target) (.call pattern)) trail
      cases inner? found.kind with
      | none => exact answer.symm
      | some inner => rfl

/-- To look for the first thing that matches and to go on from its place is to go along the
steps. -/
theorem findFirst_eq_guardStep {pattern : Pattern} {later : List Pattern} {ids : List NodeId}
    {proceed : Option (Nat × Trail) → Run Trail} {offset : Nat}
    (found : ∀ before item behind, ids = before ++ item :: behind → ∀ tried,
      proceed (some (offset + before.length, tried)) =
        guardStep ust call steps id kind (.inOrder later behind) tried)
    (nothing : proceed none = .ok trail.fail) :
    (findFirst (orInner ust Pattern.innerExpression? (call pattern)) offset ids trail >>=
        proceed) =
      guardStep ust call steps id kind (.inOrder (pattern :: later) ids) trail := by
  induction ids generalizing offset with
  | nil => exact nothing
  | cons item rest ih =>
      have foundLater : ∀ before other behind, rest = before ++ other :: behind → ∀ tried,
          proceed (some (offset + 1 + before.length, tried)) =
            guardStep ust call steps id kind (.inOrder later behind) tried := by
        intro before other behind split tried
        have step := found (item :: before) other behind (by rw [split]; rfl) tried
        rwa [List.length_cons, Nat.add_comm before.length, ← Nat.add_assoc] at step
      rw [findFirst, bind_assoc, orInner_eq_guardStep, Pattern.Step.inOrder, guardStep]
      refine bind_congr fun tried => ?_
      by_cases succeeds : tried.success = true
      · rw [if_pos succeeds, if_pos succeeds]
        exact found [] item rest rfl tried
      · rw [if_neg succeeds, if_neg succeeds]
        exact ih foundLater

/-- The statements that are left begin inside the list or at its end: behind a statement
that was found there. -/
theorem inOrder_eq_guardStep {ids : List NodeId} {cursor : Nat} (inRange : cursor ≤ ids.length)
    (patterns : List Pattern) (trail : Trail) :
    inOrder ust call ids cursor patterns trail =
      guardStep ust call steps id kind (.inOrder patterns (ids.drop cursor)) trail := by
  induction patterns generalizing cursor trail with
  | nil => cases ids.drop cursor <;> rfl
  | cons pattern rest ih =>
      rw [inOrder, sliceFrom_eq_ok inRange]
      refine findFirst_eq_guardStep ?_ rfl
      intro before node behind split tried
      have lengths := congrArg List.length split
      rw [List.length_drop, List.length_append, List.length_cons] at lengths
      have behindEq : ids.drop (cursor + (0 + before.length) + 1) = behind := by
        rw [Nat.zero_add, Nat.add_assoc, ← List.drop_drop, split, List.drop_append]
        simp
      rw [← behindEq]
      exact ih (by omega) tried

/-- What is done at a node that has been read is to run the outline of the pattern. -/
theorem matchNode_eq_guardOutline {span : Span} (nodeEq : node ust id = .ok ⟨kind, span⟩)
    (pattern : Pattern) (trail : Trail) :
    matchNode ust call steps id kind span pattern trail =
      guardOutline ust call steps id kind span (pattern.outline id (some kind)) trail := by
  cases pattern with
  | any | anyExpression | anywhere _ | variableDeclaration _ _ _ => rfl
  | conjunction patterns => exact congrFun (allOf_eq_guardStep (.call · id) patterns) trail
  | disjunction patterns => exact congrFun (firstOf_eq_guardStep (.call · id) patterns) trail
  | negation pattern =>
      simp only [matchNode, Pattern.outline, guardOutline, guardStep, guardTest, bind_assoc,
        pure_bind]
  | args patterns =>
      rw [matchNode, arguments, nodeEq]
      cases kind <;> first
        | rfl
        | exact congrArg (close ust id) (congrFun (positional_eq_guardStep _ _) trail)
  -- All others have the shape of a node, and do something at nodes of their kinds only.
  | binaryOperator _ _ _ | unaryOperator _ _ =>
      cases kind <;> first
        | rfl
        | (simp only [matchNode, atKind, Pattern.outline, Option.elim_some, Pattern.shape]
           split <;> rfl)
  | assignment _ _ | methodDeclaration _ _ | parameterDeclaration _ _ =>
      cases kind <;> first
        | rfl
        | (simp only [Pattern.outline, Option.elim_some, Pattern.shape, guardOutline, guardStep,
            ← optional_eq_guardStep]
           rfl)
  | memberReference _ _ =>
      cases kind <;> first
        | rfl
        | (simp only [Pattern.outline, Option.elim_some, Pattern.shape, guardOutline, guardStep,
            ← orInner_eq_guardStep]
           rfl)
  | multipleExpressions _ =>
      cases kind <;> first
        | rfl
        | (simp only [Pattern.outline, Option.elim_some, Pattern.shape, guardOutline,
            ← positional_eq_guardStep]
           rfl)
  | statements items =>
      cases kind <;> first
        | rfl
        | exact congrArg (close ust id) (inOrder_eq_guardStep (Nat.zero_le _) items trail)
  | tryCatch _ _ =>
      cases kind <;> first
        | rfl
        | (simp only [Pattern.outline, Option.elim_some, Pattern.shape, guardOutline,
            ← anyM_eq_guardTest, ← clauseMatches_eq_guardTest]
           rfl)
  | classDeclaration _ _ _ =>
      cases kind <;> first
        | rfl
        | (simp only [Pattern.outline, Option.elim_some, Pattern.shape, guardOutline, guardStep,
            ← optional_eq_guardStep, ← allOf_eq_guardStep, ← firstOf_eq_guardStep,
            ← someMember_eq_guardStep]
           rfl)
  | _ => cases kind <;> rfl

end Equations

end Guarded

end TreeSieve
