import TreeSieve.Proofs.Pattern.Outline
import TreeSieve.Proofs.Pattern.Places
import TreeSieve.Proofs.Ust.Renaming

/-!
# Outlines side by side

Two outlines are alike if they are put together in the same way from steps that
correspond to each other.  A pattern and the pattern with changed parts have outlines
that are alike, whenever the parts correspond to what they are changed to and the kinds
of the nodes are alike.  This is the one place where matching is followed through all
patterns and all kinds of nodes: what two runs of matching have in common, or a run and
what it is to be compared with, is then only to be told for the few ways of putting
steps together.
-/

namespace TreeSieve

/-- Kinds of nodes that differ at most in a name, and in the places of children that
correspond to each other. -/
inductive NodeKind.Like (nodes : NodeId → NodeId → Prop) (names : String → String → Prop) :
    NodeKind → NodeKind → Prop
  | renamed {kind : NodeKind} {rename : NodeId → NodeId}
      (children : ∀ child ∈ kind.children, nodes child (rename child)) :
      Like nodes names kind (kind.rename rename)
  | identifier {name other : String} (same : names name other) :
      Like nodes names (.identifier name) (.identifier other)
  | typeToken {name other : String} (same : names name other) :
      Like nodes names (.typeToken name) (.typeToken other)

theorem NodeKind.Like.refl {nodes : NodeId → NodeId → Prop} {names : String → String → Prop}
    {kind : NodeKind} (children : ∀ child ∈ kind.children, nodes child child) :
    kind.Like nodes names kind := by
  have like : kind.Like nodes names (kind.rename fun id => id) := .renamed children
  rwa [kind.rename_self] at like

theorem Ust.rel_kind?_self {ust : Ust} {nodes : NodeId → NodeId → Prop}
    {names : String → String → Prop} {id : NodeId}
    (children : ∀ child, ust.IsChild id child → nodes child child) :
    Option.Rel (NodeKind.Like nodes names) (ust.kind? id) (ust.kind? id) := by
  cases kindEq : ust.kind? id with
  | none => exact .none
  | some kind =>
      exact .some (.refl fun child member => children child (isChild_of_kind? kindEq member))

namespace Pattern

/-- What correspondence between two outlines rests on. -/
structure Ties where
  /-- Nodes that correspond to each other. -/
  nodes : NodeId → NodeId → Prop
  /-- Children of the two nodes at which the outlines are run. -/
  children : NodeId → NodeId → Prop
  nodes_of_children : ∀ {id twin}, children id twin → nodes id twin
  /-- Names that correspond to each other. -/
  names : String → String → Prop
  /-- Steps that correspond to each other although they are not put together from others. -/
  steps : Step → Step → Prop
  /-- Outlines for variables that correspond to each other. -/
  outlines : Outline → Outline → Prop

/-- Kinds of nodes that correspond to each other. -/
abbrev Ties.Kinds (ties : Ties) : Option NodeKind → Option NodeKind → Prop :=
  Option.Rel (NodeKind.Like ties.nodes ties.names)

/-- Patterns correspond to each other: so do calls for them at nodes that do. -/
def Ties.Patterns (ties : Ties) (pattern other : Pattern) : Prop :=
  ∀ ⦃id twin⦄, ties.nodes id twin → ties.steps (.call pattern id) (.call other twin)

section Alike

variable (ties : Ties)

inductive Test.Like : Test → Test → Prop
  | ask (question : Bool → Bool) : Like (.ask question) (.ask question)
  | fits {pattern other : Pattern} {id twin : NodeId}
      (tied : ties.steps (.call pattern id) (.call other twin)) :
      Like (.fits pattern id) (.fits other twin)
  | both {first second other another : Test} (left : Like first other)
      (right : Like second another) : Like (.both first second) (.both other another)
  | either {first second other another : Test} (left : Like first other)
      (right : Like second another) : Like (.either first second) (.either other another)
  | look {id twin : NodeId} {next other : Option NodeKind → Test} (tied : ties.nodes id twin)
      (onward : ∀ {kind? twin?}, ties.Kinds kind? twin? → Like (next kind?) (other twin?)) :
      Like (.look id next) (.look twin other)

inductive Step.Like : Step → Step → Prop
  | skip : Like .skip .skip
  | fail : Like .fail .fail
  | tied {step other : Step} (tied : ties.steps step other) : Like step other
  | andThen {first second other another : Step} (left : Like first other)
      (right : Like second another) : Like (.andThen first second) (.andThen other another)
  | branch {first onward otherwise other onwardOther otherwiseOther : Step}
      (tried : Like first other) (passed : Like onward onwardOther)
      (failed : Like otherwise otherwiseOther) :
      Like (.branch first onward otherwise) (.branch other onwardOther otherwiseOther)
  | refuse {test other : Test} (tests : test.Like ties other) : Like (.refuse test) (.refuse other)
  | look {id twin : NodeId} {next other : Option NodeKind → Step} (tied : ties.nodes id twin)
      (onward : ∀ {kind? twin?}, ties.Kinds kind? twin? → Like (next kind?) (other twin?)) :
      Like (.look id next) (.look twin other)

inductive Outline.Like : Outline → Outline → Prop
  | mark : Like .mark .mark
  | check {test other : Test} (tests : test.Like ties other) : Like (.check test) (.check other)
  | close {step other : Step} (steps : step.Like ties other) : Like (.close step) (.close other)
  | bare {step other : Step} (steps : step.Like ties other) : Like (.bare step) (.bare other)
  | tied {outline other : Outline} (tied : ties.outlines outline other) : Like outline other

end Alike

/-! ## Steps put together -/

section Steps

variable {ties : Ties}

theorem Test.like_anyOf {tests others : List Test}
    (each : List.Forall₂ (Test.Like ties) tests others) :
    (anyOf tests).Like ties (anyOf others) := by
  induction each with
  | nil => exact .ask _
  | cons here _ ih => exact .either here ih

theorem Step.like_all {steps others : List Step}
    (each : List.Forall₂ (Step.Like ties) steps others) : (all steps).Like ties (all others) := by
  induction each with
  | nil => exact .skip
  | cons here _ ih => exact .andThen here ih

theorem Step.like_firstOf {steps others : List Step}
    (each : List.Forall₂ (Step.Like ties) steps others) :
    (firstOf steps).Like ties (firstOf others) := by
  induction each with
  | nil => exact .fail
  | cons here _ ih => exact .branch here .skip ih

variable {pattern other : Pattern} {patterns others : List Pattern}
  {choice otherChoice : Option Pattern} {id twin : NodeId} {ids twins : List NodeId}
  {id? twin? : Option NodeId}

theorem Step.like_optional (each : Option.Rel ties.Patterns choice otherChoice)
    (nodes : Option.Rel ties.nodes id? twin?) :
    (optional choice id?).Like ties (optional otherChoice twin?) := by
  cases each with
  | none => exact .skip
  | some patterns =>
      cases nodes with
      | none => exact .fail
      | some tied => exact .tied (patterns tied)

theorem Step.like_positional (each : List.Forall₂ ties.Patterns patterns others)
    (nodes : List.Forall₂ ties.nodes ids twins) :
    (positional patterns ids).Like ties (positional others twins) := by
  have calls : ∀ {patterns others ids twins}, List.Forall₂ ties.Patterns patterns others →
      List.Forall₂ ties.nodes ids twins →
        List.Forall₂ (Step.Like ties) (List.zipWith .call patterns ids)
          (List.zipWith .call others twins) := by
    intro patterns others ids twins each nodes
    induction each generalizing ids twins with
    | nil => exact .nil
    | cons here _ ih =>
        cases nodes with
        | nil => exact .nil
        | cons tied nodes => exact .cons (.tied (here tied)) (ih nodes)
  rw [positional, positional, each.length_eq, nodes.length_eq]
  split
  · exact like_all (calls each nodes)
  · exact .fail

theorem Step.like_calls (patterns : ties.Patterns pattern other)
    (nodes : List.Forall₂ ties.nodes ids twins) :
    (firstOf (ids.map (.call pattern))).Like ties (firstOf (twins.map (.call other))) := by
  refine like_firstOf ?_
  rw [List.forall₂_map_left_iff, List.forall₂_map_right_iff]
  exact nodes.imp fun _ _ tied => .tied (patterns tied)

theorem Step.like_someMember (each : Option.Rel ties.Patterns choice otherChoice)
    (nodes : List.Forall₂ ties.nodes ids twins) :
    (someMember choice ids).Like ties (someMember otherChoice twins) := by
  cases each with
  | none => exact .skip
  | some patterns => exact like_calls patterns nodes

theorem Step.like_orInner {inner? : NodeKind → Option NodeId}
    (inside : ∀ {kind? twin?}, ties.Kinds kind? twin? →
      Option.Rel ties.nodes (kind?.bind inner?) (twin?.bind inner?))
    (patterns : ties.Patterns pattern other) (tied : ties.nodes id twin) :
    (orInner inner? pattern id).Like ties (orInner inner? other twin) := by
  refine .branch (.tied (patterns tied)) .skip (.look tied fun {kind? twin?} kinds => ?_)
  have found := inside kinds
  generalize kind?.bind inner? = inner, twin?.bind inner? = otherInner at found ⊢
  cases found with
  | none => exact .tied (patterns tied)
  | some tiedInner => exact .tied (patterns tiedInner)

theorem rel_lastSegment? {kind? twin? : Option NodeKind}
    (kinds : ties.Kinds kind? twin?) :
    Option.Rel ties.nodes (kind?.bind lastSegment?) (twin?.bind lastSegment?) := by
  rcases kinds with @⟨kind, other, like⟩ | _
  · cases like with
    | renamed children =>
        cases kind with
        | memberReference target name =>
            exact .some (children name (by simp [NodeKind.children]))
        | _ => exact .none
    | _ => exact .none
  · exact .none

theorem rel_innerExpression? {kind? twin? : Option NodeKind}
    (kinds : ties.Kinds kind? twin?) :
    Option.Rel ties.nodes (kind?.bind innerExpression?) (twin?.bind innerExpression?) := by
  rcases kinds with @⟨kind, other, like⟩ | _
  · cases like with
    | renamed children =>
        cases kind with
        | expressionStatement expression =>
            exact .some (children expression (by simp [NodeKind.children]))
        | _ => exact .none
    | _ => exact .none
  · exact .none

theorem Step.like_inOrder (each : List.Forall₂ ties.Patterns patterns others)
    (nodes : List.Forall₂ ties.nodes ids twins) :
    (inOrder patterns ids).Like ties (inOrder others twins) := by
  induction nodes generalizing patterns others with
  | nil => cases each <;> first | exact .skip | exact .fail
  | cons tied nodes ih =>
      cases each with
      | nil => exact .skip
      | cons here later =>
          exact .branch (like_orInner rel_innerExpression? here tied) (ih later)
            (ih (.cons here later))

theorem Test.like_emptyBlock (tied : ties.nodes id twin) :
    (emptyBlock id).Like ties (emptyBlock twin) := by
  refine .look tied fun {kind? twin?} kinds => ?_
  have same : (twin?.bind blockItems?).any List.isEmpty =
      (kind?.bind blockItems?).any List.isEmpty := by
    rcases kinds with @⟨kind, other, like⟩ | _
    · cases like with
      | renamed children => cases kind <;> simp [blockItems?]
      | _ => rfl
    · rfl
  rw [same]
  exact .ask _

theorem Test.like_hasType (each : List.Forall₂ ties.Patterns patterns others)
    (nodes : Option.Rel ties.nodes id? twin?) :
    (hasType patterns id?).Like ties (hasType others twin?) := by
  have sameAny : others.isEmpty = patterns.isEmpty := by cases each <;> rfl
  rw [hasType, hasType, sameAny]
  split
  · exact .ask _
  · cases nodes with
    | none => exact .ask _
    | some tied =>
        refine like_anyOf ?_
        rw [List.forall₂_map_left_iff, List.forall₂_map_right_iff]
        exact each.imp fun _ _ patterns => .fits (patterns tied)

theorem Test.like_clause (each : List.Forall₂ ties.Patterns patterns others) (bodyEmpty : Bool)
    (tied : ties.nodes id twin) :
    (clause patterns bodyEmpty id).Like ties (clause others bodyEmpty twin) := by
  refine .look tied fun {kind? twin?} kinds => ?_
  rcases kinds with @⟨kind, other, like⟩ | _
  · cases like with
    | renamed children =>
        cases kind with
        | catchClause exceptionType boundName body =>
            refine .both (like_hasType each (rel_map fun node given => ?_)) ?_
            · exact children node (by simp [NodeKind.children, given])
            · cases bodyEmpty with
              | true => exact like_emptyBlock (children body (by simp [NodeKind.children]))
              | false => exact .ask _
        | _ => exact .ask _
    | _ => exact .ask _
  · exact .ask _

theorem Step.like_ofVariable {variableType otherType initializer otherInitializer : Option Pattern}
    (types : ties.steps (.typed variableType) (.typed otherType))
    (names : ties.Patterns pattern other)
    (initializers : Option.Rel ties.Patterns initializer otherInitializer)
    (tied : ties.nodes id twin) (nodes : Option.Rel ties.nodes id? twin?) :
    (ofVariable variableType pattern initializer id id?).Like ties
      (ofVariable otherType other otherInitializer twin twin?) :=
  .andThen (.andThen (.tied types) (.tied (names tied))) (like_optional initializers nodes)

/-! ## Patterns of the same form -/

variable {change : Nat → Pattern → Pattern}

/-- Whether a pattern tests the name of a node. -/
def isNameTest : Pattern → Bool
  | idToken _ | idRegex _ => true
  | _ => false

/-- The arguments that the pattern of a call has. -/
def callArguments? : Pattern → Option (List Pattern)
  | indexer _ arguments | invocation _ arguments | objectCreate _ arguments => some arguments
  | _ => none

theorem getElem?_parts_of_callArguments? {arguments : List Pattern}
    (given : pattern.callArguments? = some arguments) (index : Nat) :
    pattern.parts[index + 1]? = arguments[index]? := by
  cases pattern <;> cases given <;> rfl

theorem mem_parts_of_callArguments? {part : Pattern} {arguments : List Pattern}
    (given : pattern.callArguments? = some arguments) (member : part ∈ arguments) :
    part ∈ pattern.parts := by
  obtain ⟨index, found⟩ := List.mem_iff_getElem?.mp member
  exact List.mem_of_getElem? ((getElem?_parts_of_callArguments? given index).trans found)

/-- Induction over the parts of a pattern, where the arguments of a call are also taken
as a whole. -/
theorem arguments_induction {motive : Pattern → Prop}
    (step : ∀ pattern : Pattern, (∀ part ∈ pattern.parts, motive part) →
      (∀ {patterns}, pattern.callArguments? = some patterns → motive (args patterns)) →
        motive pattern)
    (pattern : Pattern) : motive pattern := by
  induction pattern using parts_induction with
  | step pattern ih =>
      refine step pattern ih fun given => step _ ?_ nofun
      exact fun part member => ih part (mem_parts_of_callArguments? given member)

/-- Changed parts of a pattern correspond to the parts that they stand for, and so does
what matching does with all of them. -/
structure Ties.Parts (ties : Ties) (pattern : Pattern) (change : Nat → Pattern → Pattern) :
    Prop where
  part : ∀ index part, pattern.parts[index]? = some part → ties.Patterns part (change index part)
  names : pattern.isNameTest = true → ∀ {name other}, ties.names name other → name = other
  arguments : ∀ {patterns}, pattern.callArguments? = some patterns →
    ∀ ⦃id twin⦄, ties.children id twin → ties.steps (.arguments patterns id)
      (.arguments (patterns.mapIdx fun index => change (index + 1)) twin)
  descend : ∀ {part other}, pattern = anywhere part → ties.Patterns part other →
    ties.steps (.descend part) (.descend other)
  declared : ∀ {variableType name initializer otherType other otherInitializer},
    pattern = variableDeclaration variableType name initializer →
    Option.Rel ties.Patterns variableType otherType → ties.Patterns name other →
    Option.Rel ties.Patterns initializer otherInitializer →
      ties.outlines (.declared variableType name initializer)
        (.declared otherType other otherInitializer)

theorem forall₂_nodes {ids : List NodeId} {rename : NodeId → NodeId}
    (each : ∀ id ∈ ids, ties.nodes id (rename id)) :
    List.Forall₂ ties.nodes ids (ids.map rename) :=
  List.forall₂_map_right_iff.mpr (List.forall₂_same.mpr each)

/-- At kinds with children that correspond to each other, a pattern and the one with
changed parts do alike. -/
def Ties.Shaped (ties : Ties) (pattern : Pattern) (change : Nat → Pattern → Pattern) : Prop :=
  ∀ {kind : NodeKind} {rename : NodeId → NodeId},
    (∀ child ∈ kind.children, ties.nodes child (rename child)) →
      (pattern.shape kind).Like ties ((pattern.mapParts change).shape (kind.rename rename))

variable {left right target name : Pattern} {arguments : List Pattern}

theorem like_binaryOperator {operator : Option BinaryOperator}
    (parts : ties.Parts (binaryOperator left operator right) change) :
    ties.Shaped (binaryOperator left operator right) change := by
  intro kind rename children
  cases kind with
  | binaryOperator leftId actual rightId =>
      simp only [NodeKind.children, List.forall_mem_cons] at children
      simp only [mapParts, NodeKind.rename, shape]
      split
      · exact .close (.andThen (.tied (parts.part 0 left rfl children.1))
          (.tied (parts.part 1 right rfl children.2.1)))
      · exact .bare .fail
  | _ => exact .bare .fail

theorem like_unaryOperator {operator : Option UnaryOperator}
    (parts : ties.Parts (unaryOperator operator target) change) :
    ties.Shaped (unaryOperator operator target) change := by
  intro kind rename children
  cases kind with
  | unaryOperator actual operandId =>
      simp only [NodeKind.children, List.forall_mem_cons] at children
      simp only [mapParts, NodeKind.rename, shape]
      split
      · exact .close (.tied (parts.part 0 target rfl children.1))
      · exact .bare .fail
  | _ => exact .bare .fail

theorem like_assignment {value : Option Pattern}
    (parts : ties.Parts (assignment left value) change) :
    ties.Shaped (assignment left value) change := by
  intro kind rename children
  cases kind with
  | assignment leftId rightId =>
      simp only [NodeKind.children, List.forall_mem_cons, Option.mem_toList] at children
      refine .close (.andThen (.tied (parts.part 0 left rfl children.1))
        (Step.like_optional (rel_map fun part given => ?_) (rel_map children.2)))
      exact parts.part 1 part (by rw [given]; rfl)
  | _ => exact .bare .fail

theorem like_memberReference (parts : ties.Parts (memberReference target name) change) :
    ties.Shaped (memberReference target name) change := by
  intro kind rename children
  cases kind with
  | memberReference targetId nameId =>
      simp only [NodeKind.children, List.forall_mem_cons] at children
      exact .close (.andThen
        (Step.like_orInner rel_lastSegment? (parts.part 0 target rfl) children.1)
        (.tied (parts.part 1 name rfl children.2.1)))
  | _ => exact .bare .fail

theorem like_statements (parts : ties.Parts (statements patterns) change) :
    ties.Shaped (statements patterns) change := by
  intro kind rename children
  cases kind with
  | block actual | statements actual =>
      exact .close (Step.like_inOrder (forall₂_mapIdx parts.part) (forall₂_nodes children))
  | _ => exact .bare .fail

theorem like_tryCatch {catchBodyEmpty : Bool}
    (parts : ties.Parts (tryCatch patterns catchBodyEmpty) change) :
    ties.Shaped (tryCatch patterns catchBodyEmpty) change := by
  intro kind rename children
  cases kind with
  | tryCatch tryBlock catchClauses finallyBlock =>
      simp only [NodeKind.children, List.forall_mem_cons, List.forall_mem_append] at children
      refine .check (Test.like_anyOf ?_)
      rw [List.forall₂_map_left_iff, List.forall₂_map_right_iff]
      exact (forall₂_nodes children.2.1).imp fun _ _ tied =>
        Test.like_clause (forall₂_mapIdx parts.part) catchBodyEmpty tied
  | _ => exact .bare .fail

theorem like_withStatement (parts : ties.Parts (withStatement left right) change) :
    ties.Shaped (withStatement left right) change := by
  intro kind rename children
  cases kind with
  | withStatement expressionId statementId =>
      simp only [NodeKind.children, List.forall_mem_cons] at children
      exact .close (.andThen (.tied (parts.part 0 left rfl children.1))
        (.tied (parts.part 1 right rfl children.2.1)))
  | _ => exact .bare .fail

theorem like_classDeclaration {className body : Option Pattern}
    (parts : ties.Parts (classDeclaration className patterns body) change) :
    ties.Shaped (classDeclaration className patterns body) change := by
  intro kind rename children
  cases kind with
  | classDeclaration nameId baseIds members =>
      simp only [NodeKind.children, List.forall_mem_cons, List.forall_mem_append] at children
      obtain ⟨onName, onBases, onMembers⟩ := children
      refine .close (.andThen (.andThen ?_ ?_) ?_)
      · refine Step.like_optional (rel_map fun part given => ?_) (.some onName)
        exact parts.part 0 part (by simp [given])
      · refine Step.like_all ?_
        rw [List.forall₂_map_left_iff, List.forall₂_map_right_iff]
        refine (forall₂_mapIdx fun index part given => ?_).imp fun _ _ patterns =>
          Step.like_calls patterns (forall₂_nodes onBases)
        exact parts.part (index + className.toList.length) part (by grind [Pattern.parts])
      · refine Step.like_someMember (rel_map fun part given => ?_) (forall₂_nodes onMembers)
        exact parts.part _ part (by simp [given])
  | _ => exact .bare .fail

theorem like_methodDeclaration {methodName body : Option Pattern}
    (parts : ties.Parts (methodDeclaration methodName body) change) :
    ties.Shaped (methodDeclaration methodName body) change := by
  intro kind rename children
  cases kind with
  | methodDeclaration nameId parameters bodyId | constructorDeclaration nameId parameters bodyId =>
      simp only [NodeKind.children, List.forall_mem_cons, List.forall_mem_append,
        Option.mem_toList] at children
      obtain ⟨onName, -, onBody⟩ := children
      refine .close (.andThen ?_ ?_)
      · refine Step.like_optional (rel_map fun part given => ?_) (.some onName)
        exact parts.part 0 part (by simp [given])
      · refine Step.like_optional (rel_map fun part given => ?_) (rel_map onBody)
        exact parts.part _ part (by simp [given])
  | _ => exact .bare .fail

theorem like_parameterDeclaration {parameterType : Option Pattern}
    (parts : ties.Parts (parameterDeclaration parameterType name) change) :
    ties.Shaped (parameterDeclaration parameterType name) change := by
  intro kind rename children
  cases kind with
  | parameterDeclaration typeId nameId initializerId =>
      simp only [NodeKind.children, List.forall_mem_cons, List.forall_mem_append,
        Option.mem_toList] at children
      obtain ⟨onType, onName, -⟩ := children
      refine .close (.andThen ?_ (.tied (parts.part _ name (by simp) onName)))
      refine Step.like_optional (rel_map fun part given => ?_) (rel_map onType)
      exact parts.part 0 part (by simp [given])
  | _ => exact .bare .fail

/-- At kinds that are alike, a pattern and the one with changed parts do alike. -/
theorem like_shape {kind other : NodeKind} (parts : ties.Parts pattern change)
    (kinds : kind.Like ties.children ties.names other) :
    (pattern.shape kind).Like ties ((pattern.mapParts change).shape other) := by
  cases kinds with
  | identifier names | typeToken names =>
      cases pattern with
      | idToken _ | idRegex _ =>
          rw [parts.names rfl names]
          exact .check (.ask _)
      | _ => exact .bare .fail
  | @renamed _ rename children =>
      have nodes : ∀ child ∈ kind.children, ties.nodes child (rename child) :=
        fun child member => ties.nodes_of_children (children child member)
      cases pattern with
      | any | anyExpression | conjunction _ | disjunction _ | negation _ | anywhere _
      | variableDeclaration _ _ _ => exact .bare .fail
      | idToken _ | idRegex _ | stringLiteral _ | stringRegex _ | commentRegex _ | intLiteral _
      | intRange _ _ | floatLiteral _ | booleanLiteral _ =>
          cases kind <;> first
            | exact .check (.ask _)
            | exact .bare .fail
      | nullLiteral | baseReference =>
          cases kind <;> first
            | exact .mark
            | exact .bare .fail
      | binaryOperator _ _ _ => exact like_binaryOperator parts nodes
      | unaryOperator _ _ => exact like_unaryOperator parts nodes
      | assignment _ _ => exact like_assignment parts nodes
      | memberReference _ _ => exact like_memberReference parts nodes
      | indexer target _ | invocation target _ | objectCreate target _ =>
          cases kind <;> first
            | exact .bare .fail
            | (simp only [NodeKind.children, List.forall_mem_cons] at children nodes
               exact .close (.andThen (.tied (parts.part 0 target rfl nodes.1))
                 (.tied (parts.arguments rfl children.2.1))))
      | multipleExpressions _ | args _ =>
          cases kind <;> first
            | exact .bare .fail
            | exact .close
                (Step.like_positional (forall₂_mapIdx parts.part) (forall₂_nodes nodes))
      | statements _ => exact like_statements parts nodes
      | tryCatch _ _ => exact like_tryCatch parts nodes
      | withStatement _ _ => exact like_withStatement parts nodes
      | classDeclaration _ _ _ => exact like_classDeclaration parts nodes
      | methodDeclaration _ _ => exact like_methodDeclaration parts nodes
      | parameterDeclaration _ _ => exact like_parameterDeclaration parts nodes

/-- A pattern and the pattern with changed parts have outlines that are alike. -/
theorem like_outline {kind? twin? : Option NodeKind} (parts : ties.Parts pattern change)
    (own : ties.nodes id twin)
    (kinds : Option.Rel (NodeKind.Like ties.children ties.names) kind? twin?) :
    (pattern.outline id kind?).Like ties ((pattern.mapParts change).outline twin twin?) := by
  cases pattern with
  | any => exact .mark
  | anyExpression =>
      have same : twin?.any NodeKind.isExpression = kind?.any NodeKind.isExpression := by
        rcases kinds with @⟨kind, other, like⟩ | _
        · cases like with
          | renamed => cases kind <;> rfl
          | _ => rfl
        · rfl
      change Outline.Like ties (.check (.ask fun _ => kind?.any NodeKind.isExpression))
        (.check (.ask fun _ => twin?.any NodeKind.isExpression))
      rw [same]
      exact .check (.ask _)
  | conjunction patterns =>
      refine .bare (Step.like_all ?_)
      rw [List.forall₂_map_left_iff, List.forall₂_map_right_iff]
      exact (forall₂_mapIdx parts.part).imp fun _ _ patterns => .tied (patterns own)
  | disjunction patterns =>
      refine .bare (Step.like_firstOf ?_)
      rw [List.forall₂_map_left_iff, List.forall₂_map_right_iff]
      exact (forall₂_mapIdx parts.part).imp fun _ _ patterns => .tied (patterns own)
  | negation pattern => exact .bare (.refuse (.fits (parts.part 0 pattern rfl own)))
  | anywhere pattern =>
      have patterns := parts.part 0 pattern rfl
      exact .bare (.branch (.tied (patterns own)) .skip (.tied (parts.descend rfl patterns)))
  | variableDeclaration variableType name initializer =>
      refine .tied (parts.declared rfl (rel_map fun part given => ?_) ?_
        (rel_map fun part given => ?_))
      · exact parts.part 0 part (by simp [given])
      · exact parts.part _ name (by simp)
      · exact parts.part _ part (by simp [given])
  | _ =>
      cases kinds with
      | none => exact .bare .fail
      | some like => exact like_shape parts like

/-! ### The same pattern on both sides -/

theorem mapIdx_self (patterns : List Pattern) :
    (patterns.mapIdx fun _ pattern => pattern) = patterns := by
  simp [List.mapIdx_eq_zipIdx_map]

theorem mapParts_self (pattern : Pattern) : (pattern.mapParts fun _ part => part) = pattern := by
  cases pattern <;> simp [mapIdx_self]

theorem Step.like_ofVariable_self {variableType initializer : Option Pattern} {nameId : NodeId}
    {initializerId : Option NodeId} (types : ties.steps (.typed variableType) (.typed variableType))
    (onPart : ∀ part ∈ (variableDeclaration variableType name initializer).parts,
      ties.Patterns part part)
    (toChild : ∀ node ∈ nameId :: initializerId.toList, ties.nodes node node) :
    (ofVariable variableType name initializer nameId initializerId).Like ties
      (ofVariable variableType name initializer nameId initializerId) :=
  like_ofVariable types (onPart name (by simp))
    (rel_self fun part given => onPart part (by simp [given]))
    (toChild nameId List.mem_cons_self) (rel_self fun node given => toChild node (by simp [given]))

theorem like_outline_self {kind? twin? : Option NodeKind}
    (parts : ties.Parts pattern fun _ part => part) (own : ties.nodes id twin)
    (kinds : Option.Rel (NodeKind.Like ties.children ties.names) kind? twin?) :
    (pattern.outline id kind?).Like ties (pattern.outline twin twin?) := by
  have like := like_outline parts own kinds
  rwa [mapParts_self] at like

end Steps

end Pattern

end TreeSieve
