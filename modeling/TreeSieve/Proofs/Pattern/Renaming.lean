import TreeSieve.Proofs.Pattern.Alike

/-!
# Matching does not depend on the places of nodes

Matching finds nodes by their places, and for the type of a variable it also asks
for the parent of a node.  Between isomorphic trees none of this makes a
difference: at nodes that look the same, a pattern does the same to every trail.

The proof is an induction over the parts of the pattern.  Wherever matching goes
on from a node it goes on to nodes that look the same again.
-/

namespace TreeSieve

open Ust (Twins Translation)

theorem firstOf_map {α β : Type} {rename : α → β} {attempt : Attempt α}
    {other : Attempt β} {candidates : List α}
    (same : ∀ candidate ∈ candidates, other (rename candidate) = attempt candidate) :
    firstOf other (candidates.map rename) = firstOf attempt candidates := by
  induction candidates with
  | nil => rfl
  | cons candidate rest ih =>
      have others := ih fun later member => same later (List.mem_cons_of_mem candidate member)
      funext trail
      rw [List.map_cons, firstOf, firstOf, same candidate List.mem_cons_self, others]

namespace Pattern

/-- At nodes that look the same, a pattern does the same to every trail. -/
def Carried (first second : Ust) (rename : NodeId → NodeId) (pattern : Pattern) : Prop :=
  ∀ ⦃id twin⦄, Twins first second rename id twin →
    matchAt second pattern twin = matchAt first pattern id

/-- The ties between runs at two nodes: nodes look the same, and steps do the same. -/
def twinTies (first second : Ust) (rename : NodeId → NodeId) (id twin : NodeId) : Ties where
  nodes := Twins first second rename
  children := Twins first second rename
  nodes_of_children tied := tied
  names := Eq
  steps step other := other.run second twin = step.run first id
  outlines outline other := other.run second twin = outline.run first id

section Steps

variable {first second : Ust} {rename : NodeId → NodeId} {id twin : NodeId} {ids : List NodeId}

/-! ## Steps put together -/

theorem kinds_of_twins (translation : Translation first second rename)
    (twins : Twins first second rename id twin) :
    Option.Rel (NodeKind.Like (Twins first second rename) Eq) (first.kind? id)
      (second.kind? twin) := by
  rw [twins.kind_eq translation.toIsomorphism]
  cases kindEq : first.kind? id with
  | none => exact .none
  | some kind => exact .some (.renamed (twins.children kindEq))

theorem Test.Like.run_eq (translation : Translation first second rename) {test other : Test}
    (like : test.Like (twinTies first second rename id twin) other) (trail : Trail) :
    other.run second trail = test.run first trail := by
  induction like with
  | ask question => rfl
  | fits tied => exact congrArg Trail.success (congrFun tied trail)
  | both _ _ ihFirst ihSecond => exact congrArg₂ and ihFirst ihSecond
  | either _ _ ihFirst ihSecond => exact congrArg₂ or ihFirst ihSecond
  | look tied _ ih => exact ih (kinds_of_twins translation tied)

theorem Step.Like.run_eq (translation : Translation first second rename) {step other : Step}
    (like : step.Like (twinTies first second rename id twin) other) :
    other.run second twin = step.run first id := by
  induction like with
  | skip | fail => rfl
  | tied tied => exact tied
  | andThen _ _ ihFirst ihSecond =>
      funext trail
      rw [run, run, ihFirst, ihSecond]
  | branch _ _ _ ihTried ihPassed ihFailed =>
      funext trail
      rw [run, run, ihTried, ihPassed, ihFailed]
  | refuse tests =>
      funext trail
      rw [run, run, tests.run_eq translation]
  | look tied _ ih => exact ih (kinds_of_twins translation tied)

theorem Outline.Like.run_eq (translation : Translation first second rename)
    (twins : Twins first second rename id twin) {outline other : Outline}
    (like : outline.Like (twinTies first second rename id twin) other) :
    other.run second twin = outline.run first id := by
  have spanEq := twins.span_eq translation.toIsomorphism
  funext trail
  cases like with
  | mark => rw [run, run, spanEq]
  | check tests => rw [run, run, spanEq, tests.run_eq translation]
  | close steps => rw [run, run, spanEq, steps.run_eq translation]
  | bare steps => rw [run, run, steps.run_eq translation]
  | tied tied => exact congrFun tied trail

/-! ## Declarations inside fields -/

/-- The type of a variable under the root goes over to the type of the variable
that corresponds to it, through the parents of the two. -/
theorem declaredType?_rename (translation : Translation first second rename)
    (reached : first.Reaches first.root id) :
    declaredType? second (rename id) = (declaredType? first id).map rename := by
  simp only [declaredType?, translation.parent?_eq reached, Option.bind_eq_bind]
  cases parentEq : first.parent? id with
  | none => rfl
  | some parent =>
      have isChild := translation.first_parents.mp parentEq
      have parentReached := translation.first_rooted.reaches_of_above reached (.single isChild)
      have sameKind := (Twins.reached parentReached).kind_eq translation.toIsomorphism
      simp only [Option.map_some, Option.bind_some, sameKind]
      cases first.kind? parent with
      | none => rfl
      | some kind => cases kind <;> rfl

/-- The type of a variable under the root is under the root. -/
theorem twins_declaredType? (translation : Translation first second rename)
    (reached : first.Reaches first.root id) {typeId : NodeId}
    (found : declaredType? first id = some typeId) :
    Twins first second rename typeId (rename typeId) := by
  simp only [declaredType?, Option.bind_eq_bind, Option.bind_eq_some_iff] at found
  obtain ⟨parent, parentEq, kind, kindEq, typeEq⟩ := found
  have isChild := translation.first_parents.mp parentEq
  have parentReached := translation.first_rooted.reaches_of_above reached (.single isChild)
  split at typeEq
  · cases typeEq
    exact (Twins.reached parentReached).children kindEq typeId (by simp [NodeKind.children])
  · contradiction

/-- Nodes that look the same fit the same shapes, where a shape takes account of
the places of children only by what it does there. -/
theorem atKind_twin (translation : Translation first second rename)
    (twins : Twins first second rename id twin) {shape other : NodeKind → Option (Trail → Trail)}
    (same : ∀ kind, first.kind? id = some kind → other (kind.rename rename) = shape kind) :
    atKind second other twin = atKind first shape id := by
  funext trail
  rw [atKind, atKind, twins.kind_eq translation.toIsomorphism]
  cases kindEq : first.kind? id with
  | none => rfl
  | some kind => rw [Option.map_some, Option.bind_some, Option.bind_some, same kind kindEq]

/-- Depths that are not less than the number of nodes below make no difference,
as neither is ever used up. -/
theorem matchDeclared_rename (translation : Translation first second rename)
    {declared other : NodeId → NodeId → Option NodeId → Trail → Trail}
    (each : ∀ {variableId nameId initializerId}, first.Reaches first.root variableId →
      first.kind? variableId = some (.variableDeclaration nameId initializerId) →
        other (rename variableId) (rename nameId) (initializerId.map rename) =
          declared variableId nameId initializerId)
    {order : List NodeId} (walk : first.Preorder ids order)
    (reached : ∀ id ∈ ids, first.Reaches first.root id) {depth otherDepth : Nat}
    (enough : order.length ≤ depth) (otherEnough : order.length ≤ otherDepth)
    (member : id ∈ ids) :
    matchDeclared second other otherDepth (rename id) = matchDeclared first declared depth id := by
  induction walk generalizing depth otherDepth id with
  | nil => simp at member
  | @cons node rest below after under beside ihUnder ihBeside =>
      simp only [List.length_cons, List.length_append] at enough otherEnough
      rcases List.mem_cons.mp member with rfl | member
      · have here := reached id List.mem_cons_self
        have twins : Twins first second rename id (rename id) := .reached here
        obtain ⟨depth, rfl⟩ := Nat.exists_eq_add_of_le' (show 1 ≤ depth by omega)
        obtain ⟨otherDepth, rfl⟩ := Nat.exists_eq_add_of_le' (show 1 ≤ otherDepth by omega)
        funext trail
        rw [matchDeclared, matchDeclared]
        refine congrFun (atKind_twin translation twins fun kind kindEq => ?_) trail
        rw [twins.span_eq translation.toIsomorphism]
        cases kind with
        | variableDeclaration nameId initializerId =>
            simp only [NodeKind.rename, each here kindEq]
        | fieldDeclaration fieldType declarators =>
            have search : firstOf (matchDeclared second other otherDepth)
                (declarators.map rename) =
                  firstOf (matchDeclared first declared depth) declarators := by
              refine firstOf_map fun inner inside => ?_
              have isChild : first.IsChild id inner :=
                Ust.isChild_of_kind? kindEq (by simp [NodeKind.children, inside])
              exact ihUnder (fun child isChild => here.tail isChild) (by omega) (by omega) isChild
            simp only [NodeKind.rename, search]
        | _ => rfl
      · exact ihBeside (fun later inside => reached later (List.mem_cons_of_mem node inside))
          (by omega) (by omega) member

/-- A comment declares nothing. -/
theorem matchDeclared_comment {ust : Ust} {text : String}
    (kindEq : ust.kind? id = some (.comment text))
    (declared : NodeId → NodeId → Option NodeId → Trail → Trail) (depth : Nat) :
    matchDeclared ust declared depth id = Trail.fail := by
  funext trail
  cases depth with
  | zero => rfl
  | succ depth => rw [matchDeclared, atKind, kindEq, Option.bind_some]

/-! ## Matching -/

theorem run_declared_eq (translation : Translation first second rename)
    {variableType otherType initializer otherInitializer : Option Pattern} {name other : Pattern}
    (types : Option.Rel (twinTies first second rename id twin).Patterns variableType otherType)
    (names : (twinTies first second rename id twin).Patterns name other)
    (initializers : Option.Rel (twinTies first second rename id twin).Patterns initializer
      otherInitializer)
    (twins : Twins first second rename id twin) :
    (Outline.declared otherType other otherInitializer).run second twin =
      (Outline.declared variableType name initializer).run first id := by
  cases twins with
  | comment same =>
      obtain ⟨text, span, firstEq, secondEq⟩ := same
      have firstKind : first.kind? id = some (.comment text) := by rw [Ust.kind?, firstEq]; rfl
      have secondKind : second.kind? twin = some (.comment text) := by
        rw [Ust.kind?, secondEq]
        rfl
      exact (matchDeclared_comment secondKind _ _).trans (matchDeclared_comment firstKind _ _).symm
  | reached reached =>
      have bounds := translation.length_descendants_lt reached
      refine matchDeclared_rename translation
        (fun {variableId nameId initializerId} here kindEq => ?_)
        (translation.first_rooted.preorder_descendants reached) (by simpa using reached)
        bounds.1 bounds.2 List.mem_cons_self
      have twins : Twins first second rename variableId (rename variableId) := .reached here
      have children := twins.children kindEq
      simp only [NodeKind.children, List.forall_mem_cons, Option.mem_toList] at children
      let ties := twinTies first second rename variableId (rename variableId)
      have ofType : ties.steps (.typed variableType) (.typed otherType) := by
        change matchOptional second otherType (declaredType? second (rename variableId)) =
          matchOptional first variableType (declaredType? first variableId)
        rw [declaredType?_rename translation here, matchOptional_eq_run (rename id),
          matchOptional_eq_run id]
        exact (Step.like_optional types (rel_map fun node found =>
          twins_declaredType? translation here found)).run_eq translation
      exact (Step.like_ofVariable ofType names initializers children.1
        (rel_map children.2)).run_eq translation

/-- At nodes that look the same a pattern does the same if its parts do, and the
arguments that it may have as a whole. -/
theorem carried_of_parts (translation : Translation first second rename) {pattern : Pattern}
    (each : ∀ part ∈ pattern.parts, Carried first second rename part)
    (arguments : ∀ {patterns}, pattern.callArguments? = some patterns →
      Carried first second rename (args patterns)) :
    Carried first second rename pattern := by
  intro id twin twins
  have parts : (twinTies first second rename id twin).Parts pattern fun _ part => part := by
    constructor
    · exact fun index part found => each part (List.mem_of_getElem? found)
    · exact fun _ _ _ same => same
    · intro patterns given node other tied
      rw [mapIdx_self]
      exact arguments given tied
    · intro part other _ patterns
      have search : firstOf (matchAt second other) ((first.descendants id).map rename) =
          firstOf (matchAt first part) (first.descendants id) :=
        firstOf_map fun node member =>
          patterns (translation.twins_of_mem_descendants twins member)
      rw [← translation.descendants_eq twins] at search
      exact search
    · intro _ _ _ _ _ _ _ types names initializers
      exact run_declared_eq translation types names initializers twins
  have like := like_outline_self parts twins (kinds_of_twins translation twins)
  rw [matchAt_eq_run, matchAt_eq_run, like.run_eq translation twins]

/-- At nodes that look the same every pattern does the same, by induction over
the parts of the pattern. -/
theorem carried (translation : Translation first second rename) (pattern : Pattern) :
    Carried first second rename pattern := by
  induction pattern using arguments_induction with
  | step pattern each arguments => exact carried_of_parts translation each arguments

end Steps

end Pattern

end TreeSieve
