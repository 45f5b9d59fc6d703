import TreeSieve.Proofs.Pattern.Alike
import TreeSieve.Proofs.Pattern.Decides
import TreeSieve.Proofs.Ust.Preorder

/-!
# Matching decides what a pattern means

Matching a pattern at a node under the root succeeds exactly when the pattern
holds there.  Every step decides what it means, if the steps that it is put
together from do, and so does the outline of a pattern.

The fields inside fields are the exception, since there matching goes down the
tree with the same pattern.  The depth that it allows for is the number of nodes,
and the nodes in one walk from the root are never more than that.
-/

namespace TreeSieve

open Relation

namespace Pattern

/-- Matching a pattern under the root decides whether the pattern holds. -/
def Decided (ust : Ust) (caseInsensitive : Bool) (pattern : Pattern) : Prop :=
  ∀ id, ust.Reaches ust.root id →
    Decides caseInsensitive (matchAt ust pattern id) (Holds ust caseInsensitive pattern id)

/-- The ties of a run with itself: all nodes are under the root, and steps decide what they
mean. -/
def meaningTies (ust : Ust) (caseInsensitive : Bool) (id : NodeId) : Ties where
  nodes node other := other = node ∧ ust.Reaches ust.root node
  children node other := other = node ∧ ust.Reaches ust.root node
  nodes_of_children tied := tied
  names := Eq
  steps step _ := Decides caseInsensitive (step.run ust id) (step.Means ust caseInsensitive id)
  outlines outline _ :=
    Decides caseInsensitive (outline.run ust id) (outline.Means ust caseInsensitive id)

theorem Decided.patterns {ust : Ust} {caseInsensitive : Bool} {pattern : Pattern}
    (decided : Decided ust caseInsensitive pattern) (id : NodeId) :
    (meaningTies ust caseInsensitive id).Patterns pattern pattern := by
  rintro _ node ⟨rfl, reached⟩
  exact decided node reached

/-! ## Steps put together -/

section Steps

variable {ust : Ust} {caseInsensitive : Bool} {id : NodeId}

theorem kinds_of_reached {node : NodeId} (reached : ust.Reaches ust.root node) :
    (meaningTies ust caseInsensitive id).Kinds (ust.kind? node) (ust.kind? node) :=
  Ust.rel_kind?_self fun _ isChild => ⟨rfl, reached.tail isChild⟩

theorem Test.Like.decides {test other : Test}
    (like : test.Like (meaningTies ust caseInsensitive id) other) {trail : Trail}
    (succeeding : trail.success = true) (caseEq : trail.caseInsensitive = caseInsensitive) :
    test.run ust trail = true ↔ test.Means ust caseInsensitive := by
  induction like with
  | ask question => rw [run, Means, caseEq]
  | fits tied => exact (tied succeeding caseEq).2
  | both _ _ ihFirst ihSecond => rw [run, Means, Bool.and_eq_true, ihFirst, ihSecond]
  | either _ _ ihFirst ihSecond => rw [run, Means, Bool.or_eq_true, ihFirst, ihSecond]
  | look tied _ ih => exact ih (kinds_of_reached tied.2)

theorem Step.Like.decides {step other : Step}
    (like : step.Like (meaningTies ust caseInsensitive id) other) :
    Decides caseInsensitive (step.run ust id) (step.Means ust caseInsensitive id) := by
  induction like with
  | skip => exact .self
  | fail => exact .fail
  | tied tied => exact tied
  | andThen _ _ ihFirst ihSecond => exact ihFirst.andThen ihSecond
  | branch _ _ _ ihTried ihPassed ihFailed => exact .branch ihTried ihPassed ihFailed
  | refuse tests =>
      refine .ite (fun trail succeeding caseEq => tests.decides succeeding caseEq) ?_ ?_
      · exact fun passed => Decides.fail.congr (by simp [passed])
      · exact fun failed => Decides.self.congr (by simp [failed])
  | look tied _ ih => exact ih (kinds_of_reached tied.2)

theorem Outline.Like.decides {outline other : Outline}
    (like : outline.Like (meaningTies ust caseInsensitive id) other) :
    Decides caseInsensitive (outline.run ust id) (outline.Means ust caseInsensitive id) := by
  cases like with
  | mark => exact .add _
  | check tests => exact .check (fun trail succeeding caseEq => tests.decides succeeding caseEq) _
  | close steps => exact steps.decides.close _
  | bare steps => exact steps.decides
  | tied tied => exact tied

end Steps

/-! ## Declarations inside fields -/

section Declarations

variable {ust : Ust} {caseInsensitive : Bool}

/-- What a node declares is the node itself or declared by one that it declares. -/
theorem declared_iff {meaning : NodeId → NodeId → Option NodeId → Prop} {id : NodeId} :
    Declared ust meaning id ↔
      (∃ nameId initializerId,
        ust.kind? id = some (.variableDeclaration nameId initializerId) ∧
          meaning id nameId initializerId) ∨
        ∃ inner, ust.Declares id inner ∧ Declared ust meaning inner := by
  constructor
  · rintro ⟨variableId, declares, holds⟩
    rcases ReflTransGen.cases_head declares with rfl | ⟨inner, first, rest⟩
    · exact Or.inl holds
    · exact Or.inr ⟨inner, first, variableId, rest, holds⟩
  · rintro (holds | ⟨inner, first, variableId, rest, holds⟩)
    · exact ⟨id, .refl, holds⟩
    · exact ⟨variableId, .head first rest, holds⟩

/-- A depth that is not less than the number of nodes below is never used up. -/
theorem decides_matchDeclared {declared : NodeId → NodeId → Option NodeId → Trail → Trail}
    {meaning : NodeId → NodeId → Option NodeId → Prop}
    (each : ∀ {variableId nameId initializerId}, ust.Reaches ust.root variableId →
      ust.kind? variableId = some (.variableDeclaration nameId initializerId) →
        Decides caseInsensitive (declared variableId nameId initializerId)
          (meaning variableId nameId initializerId))
    {ids order : List NodeId} (walk : ust.Preorder ids order)
    (reached : ∀ id ∈ ids, ust.Reaches ust.root id) {depth : Nat} (enough : order.length ≤ depth)
    {id : NodeId} (member : id ∈ ids) :
    Decides caseInsensitive (matchDeclared ust declared depth id) (Declared ust meaning id) := by
  induction walk generalizing depth id with
  | nil => simp at member
  | @cons first rest below after under beside ihUnder ihBeside =>
      simp only [List.length_cons, List.length_append] at enough
      rcases List.mem_cons.mp member with rfl | member
      · have here := reached id List.mem_cons_self
        obtain ⟨depth, rfl⟩ := Nat.exists_eq_add_of_le' (show 1 ≤ depth by omega)
        rw [declared_iff]
        refine matchDeclared_cases (motive := fun step => Decides caseInsensitive step _)
          (fun nameId initializerId kindEq => ?_) (fun fieldType declarators kindEq => ?_) ?_
        · exact ((each here kindEq).close _).congr (by simp [Ust.Declares, kindEq])
        · have isChild : ∀ inner ∈ declarators, ust.IsChild id inner := fun inner inside =>
            Ust.isChild_of_kind? kindEq (by simp [NodeKind.children, inside])
          have search := decides_firstOf fun inner inside =>
            ihUnder (fun child inside => here.tail inside) (show below.length ≤ depth by omega)
              (isChild inner inside)
          exact (search.close _).congr (by simp [Ust.Declares, kindEq])
        · intro noVariable noField
          exact Decides.fail.congr (by simp [Ust.Declares, noVariable, noField])
      · exact ihBeside (fun other inside => reached other (List.mem_cons_of_mem first inside))
          (by omega) member

/-- The type of a variable under the root is under the root: it stands in the
field that the variable stands in. -/
theorem reaches_typeOf (rooted : ust.Rooted) {variableId typeId : NodeId}
    (reached : ust.Reaches ust.root variableId) (typeOf : ust.TypeOf variableId typeId) :
    ust.Reaches ust.root typeId := by
  obtain ⟨field, declarators, isChild, fieldEq⟩ := typeOf
  exact Ust.reaches_of_kind? (rooted.reaches_of_above reached (.single isChild)) fieldEq
    (by simp [NodeKind.children])

theorem decides_declared (rooted : ust.Rooted)
    (parents : ∀ {parent child}, ust.parent? child = some parent ↔ ust.IsChild parent child)
    {variableType initializer : Option Pattern} {name : Pattern} {id : NodeId}
    (each : ∀ part ∈ (variableDeclaration variableType name initializer).parts,
      Decided ust caseInsensitive part)
    (reached : ust.Reaches ust.root id) :
    Decides caseInsensitive ((Outline.declared variableType name initializer).run ust id)
      ((Outline.declared variableType name initializer).Means ust caseInsensitive id) := by
  refine decides_matchDeclared (fun {variableId nameId initializerId} here kindEq => ?_)
    (rooted.preorder_descendants reached) (by simpa using reached)
    (rooted.length_descendants_lt reached) List.mem_cons_self
  let ties := meaningTies ust caseInsensitive variableId
  have toChild : ∀ node ∈ nameId :: initializerId.toList, ties.nodes node node :=
    fun node member => ⟨rfl, Ust.reaches_of_kind? here kindEq member⟩
  have onPart : ∀ part ∈ (variableDeclaration variableType name initializer).parts,
      ties.Patterns part part := fun part member => (each part member).patterns variableId
  have ofType : ties.steps (.typed variableType) (.typed variableType) := by
    change Decides caseInsensitive (matchOptional ust variableType (declaredType? ust variableId))
      (∀ part ∈ meaning? ust caseInsensitive variableType,
        ∃ typeId, ust.TypeOf variableId typeId ∧ part typeId)
    rw [matchOptional_eq_run variableId]
    have like : (Step.optional variableType (declaredType? ust variableId)).Like ties
        (Step.optional variableType (declaredType? ust variableId)) :=
      Step.like_optional (rel_self fun part given => onPart part (by simp [given]))
        (rel_self fun node found =>
          ⟨rfl, reaches_typeOf rooted here ((declaredType?_eq_some_iff parents).mp found)⟩)
    refine like.decides.congr ?_
    simp only [Step.means_optional, Option.mem_def, declaredType?_eq_some_iff parents]
  exact (Step.like_ofVariable_self ofType onPart toChild).decides

end Declarations

/-! ## Matching -/

section Matching

variable {ust : Ust} {caseInsensitive : Bool} {pattern : Pattern}

theorem decided_of_parts (rooted : ust.Rooted)
    (parents : ∀ {parent child}, ust.parent? child = some parent ↔ ust.IsChild parent child)
    (each : ∀ part ∈ pattern.parts, Decided ust caseInsensitive part)
    (arguments : ∀ {patterns}, pattern.callArguments? = some patterns →
      Decided ust caseInsensitive (args patterns)) :
    Decided ust caseInsensitive pattern := by
  intro id reached
  have parts : (meaningTies ust caseInsensitive id).Parts pattern fun _ part => part := by
    constructor
    · exact fun index part found => (each part (List.mem_of_getElem? found)).patterns id
    · exact fun _ _ _ same => same
    · rintro patterns given _ node ⟨rfl, nodeReached⟩
      exact arguments given node nodeReached
    · intro part other _ patterns
      have search : Decides caseInsensitive (firstOf (matchAt ust part) (ust.descendants id))
          (∃ node ∈ ust.descendants id, part.Holds ust caseInsensitive node) :=
        decides_firstOf fun node member => patterns ⟨rfl, reached.trans
          ((rooted.mem_descendants_iff reached).mp member).to_reflTransGen⟩
      simp only [rooted.mem_descendants_iff reached] at search
      exact search
    · rintro _ _ _ _ _ _ rfl - - -
      exact decides_declared rooted parents each reached
  have like := like_outline_self parts ⟨rfl, reached⟩ (kinds_of_reached reached)
  rw [matchAt_eq_run]
  exact like.decides.congr (holds_iff_means pattern).symm

/-- Matching under the root decides whether the pattern holds, by induction over
the parts of the pattern. -/
theorem decided (rooted : ust.Rooted)
    (parents : ∀ {parent child}, ust.parent? child = some parent ↔ ust.IsChild parent child)
    (pattern : Pattern) : Decided ust caseInsensitive pattern := by
  induction pattern using arguments_induction with
  | step pattern each arguments => exact decided_of_parts rooted parents each arguments

end Matching

/-- In an accepted document of a size that identifiers can count, matching a
pattern at a node under the root succeeds exactly when the pattern holds there,
from every trail that has not failed. -/
theorem matchAt_succeeds_iff_holds {document : Document} {ust : Ust}
    (accepted : Ust.ofDocument document = .ok ust)
    (small : document.nodes.size ≤ UInt32.size) {id : NodeId}
    (reached : ust.Reaches ust.root id) (pattern : Pattern) (trail : Trail)
    (succeeding : trail.success = true) :
    (pattern.matchAt ust id trail).success = true ↔
      pattern.Holds ust trail.caseInsensitive id := by
  have rooted := Ust.rooted_of_ofDocument accepted
  have parents : ∀ {parent child}, ust.parent? child = some parent ↔ ust.IsChild parent child :=
    Ust.parent?_eq_some_iff accepted small
  exact (decided rooted parents pattern id reached succeeding rfl).2

/-- Somewhere in the sample a variable of the type `int` is called `x`. -/
theorem holds_sampleField :
    (anywhere (variableDeclaration (some (idToken "int")) (idToken "x") none)).Holds
      Ust.sampleField false Ust.sampleField.root :=
  (matchAt_succeeds_iff_holds Ust.ofDocument_sampleField (by decide) .refl _ (.fresh {} false)
    rfl).mp (by decide)

end Pattern

end TreeSieve
