import TreeSieve.Proofs.Ust.Faults
import TreeSieve.Proofs.Ust.Plans

/-!
# Sessions with a builder

A session is a sequence of steps done by one builder, each of which uses only nodes that
an earlier step has given back.  Its list of nodes is the list of the nodes its steps
planned, in their order, and every child stands before its parent, whether the root
reaches it or not.

What a session cannot rule out is that a node is used twice.  The tree is accepted
exactly if none is, and then it has the nodes of the session unchanged.  The arguments
of an invocation, which only the invocation itself uses, are never in the way.
-/

namespace TreeSieve

open Relation

/-! ## Documents with all nodes in range -/

namespace Document

variable {document : Document}

theorem fault?_of_inside (root_lt : document.root.index < document.nodes.size)
    (comment_lt : ∀ comment ∈ document.comments, comment.index < document.nodes.size) :
    document.fault? = document.linkFault? [] document.links := by
  have present : document.comments.find? (fun comment => !document.hasNode comment) = none := by
    rw [List.find?_eq_none]
    intro comment member
    simp [hasNode_iff.mpr (comment_lt comment member)]
  simp only [fault?, hasNode_iff.mpr root_lt, present, Bool.not_true, Bool.false_eq_true, if_false]

/-- Where all nodes are in range, only a node that is used twice is in the way. -/
theorem fault?_eq_none_or_secondParent (root_lt : document.root.index < document.nodes.size)
    (comment_lt : ∀ comment ∈ document.comments, comment.index < document.nodes.size)
    (child_lt : ∀ child ∈ document.nodes.toList.flatMap (·.kind.children),
      child.index < document.nodes.size) :
    (document.fault? = none ↔ (document.nodes.toList.flatMap (·.kind.children)).Nodup ∧
      document.root ∉ document.nodes.toList.flatMap (·.kind.children)) ∧
    ∀ fault, document.fault? = some fault → ∃ child, fault = .secondParent child := by
  rw [← map_child_linksFrom 0] at child_lt ⊢
  rw [fault?_of_inside root_lt comment_lt]
  constructor
  · rw [linkFault?_eq_none_iff]
    constructor
    · rintro ⟨checked, nodup⟩
      refine ⟨nodup, ?_⟩
      intro isChild
      rcases List.mem_map.mp isChild with ⟨link, member, isRoot⟩
      exact (checked link member).2.1 isRoot
    · rintro ⟨nodup, notChild⟩
      refine ⟨?_, nodup⟩
      intro link member
      have isChild := List.mem_map_of_mem (f := Link.child) member
      refine ⟨hasNode_iff.mpr (child_lt _ isChild), ?_, List.not_mem_nil⟩
      intro isRoot
      exact notChild (isRoot ▸ isChild)
  · intro fault found
    rcases linkFault?_eq_some_iff.mp found with ⟨before, link, after, split, -, stops⟩
    cases stops with
    | missing missing =>
        have isChild : link.child ∈ document.links.map Link.child := by
          simp [split]
        rw [hasNode_iff.mpr (child_lt _ isChild)] at missing
        contradiction
    | refused _ _ => exact ⟨link.child, rfl⟩

end Document

/-! ## Calls -/

/-- A step that has been done: how many nodes there were before, and which node it gave
back. -/
structure Call where
  step : BuildStep
  place : Nat
  id : NodeId

namespace Call

/-- The nodes that the call added. -/
def plans (call : Call) : List Plan :=
  call.step.plans (.ofIndex call.place)

/-- The nodes that the call was told to use as children. -/
def passed (call : Call) : List NodeId :=
  call.step.passed

/-- The nodes that the call added and used as children itself. -/
def own (call : Call) : List NodeId :=
  call.step.own (.ofIndex call.place)

/-- The comments that the call wrote down. -/
def noted (call : Call) : List NodeId :=
  call.step.noted call.id

end Call

namespace Builder

/-- Calls made one after the other, from a builder without nodes on.  Every node that a
call is told to use has been given back by an earlier one. -/
inductive Session (language : Language) (file : SourceFile) : List Call → Builder → Prop
  | start : Session language file [] { language, file }
  | call {calls : List Call} {builder next : Builder} {step : BuildStep} {id : NodeId}
      (session : Session language file calls builder)
      (returned : ∀ child ∈ step.passed, child ∈ calls.map Call.id)
      (performed : builder.perform? step = some (id, next)) :
      Session language file (calls ++ [⟨step, builder.nodes.size, id⟩]) next

/-! ## One call -/

section Call

variable {builder next : Builder} {step : BuildStep} {id : NodeId}

/-- What a step does: it appends its planned nodes, gives back the last one and keeps
everything else. -/
structure Performed (builder : Builder) (step : BuildStep) (id : NodeId) (next : Builder) :
    Prop where
  language_eq : next.language = builder.language
  file_eq : next.file = builder.file
  comments_eq : next.comments = builder.comments ++ step.noted id
  id_eq : id = .ofIndex (next.nodes.size - 1)
  exists_added : ∃ added : List Node, next.nodes.toList = builder.nodes.toList ++ added ∧
    List.Forall₂ next.Made (step.plans (.ofIndex builder.nodes.size)) added

theorem performed_of_perform? (performed : builder.perform? step = some (id, next)) :
    Performed builder step id next := by
  rw [perform?_eq, Option.map_eq_some_iff] at performed
  rcases performed with ⟨last, added, closed⟩
  rcases exists_added_of_addPlans? added with ⟨nodes, rfl, made⟩
  cases closed
  refine ⟨rfl, rfl, rfl, rfl, nodes, by simp, ?_⟩
  apply made.imp
  intro plan node planned
  exact planned.of_spans fun found => found

/-- A step over nodes that are there can be done. -/
theorem exists_perform? (present : ∀ child ∈ step.passed, child.index < builder.nodes.size) :
    ∃ id next, builder.perform? step = some (id, next) := by
  rcases exists_addPlans? (step.descend_plans present) with ⟨last, added⟩
  rw [perform?_eq, added]
  exact ⟨_, _, rfl⟩

namespace Performed

theorem size_eq (performed : Performed builder step id next) :
    next.nodes.size = builder.nodes.size + step.count := by
  rcases performed.exists_added with ⟨added, nodesEq, made⟩
  have sizes := congrArg List.length nodesEq
  rw [List.length_append, ← made.length_eq, BuildStep.length_plans] at sizes
  exact sizes

theorem index_id (performed : Performed builder step id next)
    (small : next.nodes.size ≤ UInt32.size) :
    id.index + 1 = builder.nodes.size + step.count := by
  have sizeEq := performed.size_eq
  have positive := step.count_pos
  rw [performed.id_eq, NodeId.index_ofIndex (by omega)]
  omega

end Performed

end Call

/-! ## Whole sessions -/

/-- The nodes that calls leave behind are those they planned. -/
structure Grown (language : Language) (file : SourceFile) (calls : List Call)
    (builder : Builder) : Prop where
  language_eq : builder.language = language
  file_eq : builder.file = file
  comments_eq : builder.comments = calls.flatMap Call.noted
  made : List.Forall₂ builder.Made (calls.flatMap Call.plans) builder.nodes.toList

/-- The numbers of the nodes that calls add, `size` of them.  Each call counts on from the
ones before it, gives back its last node and is told to use nodes given back before. -/
structure Numbered (calls : List Call) (size : Nat) : Prop where
  length_plans : (calls.flatMap Call.plans).length = size
  descend : Plan.Descend 0 (calls.flatMap Call.plans)
  place_eq : ∀ index call, calls[index]? = some call →
    call.place = ((calls.take index).flatMap Call.plans).length
  index_id : ∀ call ∈ calls, call.id.index + 1 = call.place + call.step.count
  id_lt : ∀ id ∈ calls.map Call.id, id.index < size
  passed_returned : ∀ child ∈ calls.flatMap Call.passed, child ∈ calls.map Call.id

/-- The nodes that calls use themselves are all different and never given back. -/
structure Apart (calls : List Call) (size : Nat) : Prop where
  own_lt : ∀ id ∈ calls.flatMap Call.own, id.index < size
  own_nodup : (calls.flatMap Call.own).Nodup
  own_not_returned : ∀ id ∈ calls.flatMap Call.own, id ∉ calls.map Call.id

section Session

variable {language : Language} {file : SourceFile} {calls : List Call} {builder next : Builder}
  {step : BuildStep} {id : NodeId}

theorem Grown.concat (grown : Grown language file calls builder)
    (performed : Performed builder step id next) :
    Grown language file (calls ++ [⟨step, builder.nodes.size, id⟩]) next := by
  constructor
  · exact performed.language_eq.trans grown.language_eq
  · exact performed.file_eq.trans grown.file_eq
  · rw [performed.comments_eq, grown.comments_eq, List.flatMap_append, List.flatMap_singleton,
      Call.noted]
  · rcases performed.exists_added with ⟨added, nodesEq, made⟩
    rw [List.flatMap_append, List.flatMap_singleton, nodesEq]
    apply List.rel_append _ made
    apply grown.made.imp
    intro plan node planned
    exact planned.of_spans (span?_of_append nodesEq)

theorem numbered_nil : Numbered [] 0 := by
  constructor <;> simp [Plan.Descend]

theorem apart_nil : Apart [] 0 := by
  constructor <;> simp

/-- A call that goes on with the numbers. -/
theorem Numbered.concat {size : Nat} (numbered : Numbered calls size)
    (returned : ∀ child ∈ step.passed, child ∈ calls.map Call.id)
    (indexEq : id.index + 1 = size + step.count) :
    Numbered (calls ++ [⟨step, size, id⟩]) (size + step.count) := by
  constructor
  · rw [List.flatMap_append, List.length_append, numbered.length_plans, List.flatMap_singleton,
      Call.plans, BuildStep.length_plans]
  · rw [List.flatMap_append, List.flatMap_singleton]
    apply numbered.descend.append
    rw [Nat.zero_add, numbered.length_plans]
    apply step.descend_plans
    intro child member
    exact numbered.id_lt child (returned child member)
  · intro index call found
    by_cases early : index < calls.length
    · rw [List.getElem?_append_left early] at found
      rw [List.take_append_of_le_length early.le]
      exact numbered.place_eq index call found
    · have last : index = calls.length := by
        have inside := (List.getElem?_eq_some_iff.mp found).1
        rw [List.length_append, List.length_singleton] at inside
        omega
      rw [last, List.getElem?_concat_length] at found
      cases found
      rw [last, List.take_left, numbered.length_plans]
  · rw [List.forall_mem_append]
    exact ⟨numbered.index_id, by simpa using indexEq⟩
  · rw [List.map_append, List.forall_mem_append]
    constructor
    · intro other member
      exact Nat.lt_add_right _ (numbered.id_lt other member)
    · intro other member
      have otherEq : other = id := List.mem_singleton.mp member
      rw [otherEq, ← indexEq]
      exact Nat.lt_succ_self _
  · rw [List.flatMap_append, List.flatMap_singleton, List.forall_mem_append, List.map_append]
    constructor
    · intro child member
      exact List.mem_append_left _ (numbered.passed_returned child member)
    · intro child member
      exact List.mem_append_left _ (returned child member)

/-- A call that goes on with the numbers uses a new node itself, if any, and gives back
another new one. -/
theorem Apart.concat {size : Nat} (apart : Apart calls size)
    (id_lt : ∀ other ∈ calls.map Call.id, other.index < size)
    (indexEq : id.index + 1 = size + step.count) (small : size + step.count ≤ UInt32.size) :
    Apart (calls ++ [⟨step, size, id⟩]) (size + step.count) := by
  have ownIndex : ∀ own ∈ step.own (.ofIndex size), own.index = size ∧ own.index < id.index := by
    intro own member
    rcases BuildStep.mem_own member with ⟨rfl, countEq⟩
    rw [NodeId.index_ofIndex (by omega)]
    omega
  constructor
  · rw [List.flatMap_append, List.flatMap_singleton, List.forall_mem_append]
    constructor
    · intro own old
      exact Nat.lt_add_right _ (apart.own_lt own old)
    · intro own new
      rw [(ownIndex own new).1]
      exact Nat.lt_add_of_pos_right step.count_pos
  · rw [List.flatMap_append, List.flatMap_singleton, List.nodup_append]
    refine ⟨apart.own_nodup, BuildStep.nodup_own _ step, ?_⟩
    rintro own old other new rfl
    exact (ownIndex own new).1.not_lt (apart.own_lt own old)
  · rw [List.flatMap_append, List.flatMap_singleton, List.forall_mem_append, List.map_append]
    constructor
    · intro own old member
      rcases List.mem_append.mp member with oldId | newId
      · exact apart.own_not_returned own old oldId
      · have ownEq : own = id := List.mem_singleton.mp newId
        have ownLt := apart.own_lt own old
        have positive := step.count_pos
        rw [ownEq] at ownLt
        omega
    · intro own new member
      rcases List.mem_append.mp member with oldId | newId
      · exact (ownIndex own new).1.not_lt (id_lt own oldId)
      · have ownEq : own = id := List.mem_singleton.mp newId
        exact (ownIndex own new).2.ne (congrArg NodeId.index ownEq)

namespace Session

theorem grown (session : Session language file calls builder) :
    Grown language file calls builder := by
  induction session with
  | start => exact ⟨rfl, rfl, rfl, .nil⟩
  | call _ _ performed ih => exact ih.concat (performed_of_perform? performed)

theorem numbered_apart (session : Session language file calls builder)
    (small : builder.nodes.size ≤ UInt32.size) :
    Numbered calls builder.nodes.size ∧ Apart calls builder.nodes.size := by
  induction session with
  | start => exact ⟨numbered_nil, apart_nil⟩
  | call _ returned performed ih =>
      have effect := performed_of_perform? performed
      have indexEq := effect.index_id small
      rw [effect.size_eq] at small ⊢
      obtain ⟨numbered, apart⟩ := ih (Nat.le_of_add_right_le small)
      exact ⟨numbered.concat returned indexEq, apart.concat numbered.id_lt indexEq small⟩

end Session

/-! ## Order and spans of the nodes -/

theorem Grown.exists_plan (grown : Grown language file calls builder) {place : Nat} {node : Node}
    (found : builder.nodes[place]? = some node) :
    ∃ plan, (calls.flatMap Call.plans)[place]? = some plan ∧ builder.Made plan node := by
  rw [← Array.getElem?_toList, List.getElem?_eq_some_iff] at found
  rcases found with ⟨inside, rfl⟩
  have planInside : place < (calls.flatMap Call.plans).length := by
    rw [grown.made.length_eq]
    exact inside
  exact ⟨_, List.getElem?_eq_getElem planInside, grown.made.get planInside inside⟩

/-- Every node stands behind its children. -/
def Ordered (builder : Builder) : Prop :=
  ∀ (place : Nat) (node : Node), builder.nodes[place]? = some node →
    ∀ child ∈ node.kind.children, child.index < place

theorem Grown.ordered (grown : Grown language file calls builder)
    (descend : Plan.Descend 0 (calls.flatMap Call.plans)) : builder.Ordered := by
  intro place node found
  rcases grown.exists_plan found with ⟨plan, planned, made⟩
  have children := descend place plan planned
  rwa [Nat.zero_add, ← made.kind_eq] at children

/-- Nodes that stand behind their children are in no circle. -/
theorem Ordered.not_above_self (ordered : builder.Ordered) (root id : NodeId) :
    ¬ Ust.Above { toDocument := builder.toDocument root } id id := by
  have below : ∀ {above under}, Ust.Above { toDocument := builder.toDocument root } above under →
      under.index < above.index := by
    intro above under path
    induction path with
    | single isChild =>
        rcases Ust.isChild_iff_exists_node.mp isChild with ⟨node, found, member⟩
        exact ordered _ node found _ member
    | tail _ isChild ih =>
        rcases Ust.isChild_iff_exists_node.mp isChild with ⟨node, found, member⟩
        exact (ordered _ node found _ member).trans ih
  intro circle
  exact lt_irrefl _ (below circle)

theorem fits_of_nodes {ids : List NodeId} {spans : List Span}
    (found : ids.map builder.span? = spans.map some)
    (fits : ∀ id ∈ ids, ∀ node, builder.nodes[id.index]? = some node → node.span.Fits) :
    ∀ part ∈ spans, part.Fits := by
  intro part member
  have isSpan : some part ∈ ids.map builder.span? := found ▸ List.mem_map_of_mem member
  rcases List.mem_map.mp isSpan with ⟨id, isId, spanEq⟩
  rcases Option.map_eq_some_iff.mp spanEq with ⟨node, nodeAt, rfl⟩
  exact fits id isId node nodeAt

/-- If the given spans end at offsets, all spans do. -/
theorem Grown.fits (grown : Grown language file calls builder) (ordered : builder.Ordered)
    (given : ∀ plan ∈ calls.flatMap Call.plans, ∀ span ∈ plan.span, span.Fits)
    {place : Nat} {node : Node} (found : builder.nodes[place]? = some node) : node.span.Fits := by
  induction place using Nat.strong_induction_on generalizing node with
  | _ place ih =>
      rcases grown.exists_plan found with ⟨plan, planned, made⟩
      cases spanEq : plan.span with
      | some span =>
          have same := made.span_eq
          rw [spanFor?, spanEq, Option.some_or, Option.some_inj] at same
          rw [← same]
          exact given plan (List.mem_of_getElem? planned) span spanEq
      | none =>
          rcases made.exists_spans spanEq with ⟨spans, spansAt, coverEq⟩
          rw [← coverEq]
          apply Span.fits_cover
          apply fits_of_nodes spansAt
          intro child member other otherAt
          exact ih child.index (ordered place node found child (made.kind_eq ▸ member)) otherAt

/-- A node without a span of its own has the least span over its children. -/
theorem Grown.exists_leastOver (grown : Grown language file calls builder)
    (ordered : builder.Ordered)
    (given : ∀ plan ∈ calls.flatMap Call.plans, ∀ span ∈ plan.span, span.Fits)
    {place : Nat} {plan : Plan} {node : Node}
    (planned : (calls.flatMap Call.plans)[place]? = some plan) (derived : plan.span = none)
    (found : builder.nodes[place]? = some node) :
    ∃ spans, node.kind.children.map builder.span? = spans.map some ∧
      ((∃ part ∈ spans, part.isEmpty = false) → Span.LeastOver spans node.span) ∧
        ((∀ part ∈ spans, part.isEmpty = true) → node.span = spans.getLastD .empty) := by
  rcases grown.exists_plan found with ⟨other, otherPlanned, made⟩
  rw [planned] at otherPlanned
  cases otherPlanned
  rcases made.exists_spans derived with ⟨spans, spansAt, coverEq⟩
  have covers : node.span.Covers spans := by
    rw [← coverEq]
    apply Span.covers_cover
    apply fits_of_nodes spansAt
    intro child _ childNode childAt
    exact grown.fits ordered given childAt
  rw [made.kind_eq]
  exact ⟨spans, spansAt, fun someText => (covers.hull someText).leastOver, covers.last⟩

/-! ## Children -/

theorem Grown.flatMap_children (grown : Grown language file calls builder) :
    builder.nodes.toList.flatMap (·.kind.children) =
      calls.flatMap fun call => call.passed ++ call.own := by
  have kinds : ∀ {plans : List Plan} {nodes : List Node},
      List.Forall₂ builder.Made plans nodes →
        nodes.flatMap (·.kind.children) = plans.flatMap (·.kind.children) := by
    intro plans nodes made
    induction made with
    | nil => rfl
    | cons first _ ih => rw [List.flatMap_cons, List.flatMap_cons, ih, first.kind_eq]
  rw [kinds grown.made, List.flatMap_assoc]
  apply List.flatMap_congr
  intro call _
  exact BuildStep.flatMap_children_plans _ call.step

/-- The children of all nodes are those the calls were told to use and those they used
themselves. -/
theorem Grown.children_perm (grown : Grown language file calls builder) :
    (builder.nodes.toList.flatMap (·.kind.children)).Perm
      (calls.flatMap Call.passed ++ calls.flatMap Call.own) := by
  rw [grown.flatMap_children]
  exact (List.flatMap_append_perm calls Call.passed Call.own).symm

/-- Children that calls use themselves are used once and nowhere else. -/
theorem Apart.nodup_children_iff {size : Nat} (apart : Apart calls size)
    (passed_returned : ∀ child ∈ calls.flatMap Call.passed, child ∈ calls.map Call.id) :
    (calls.flatMap Call.passed ++ calls.flatMap Call.own).Nodup ↔
      (calls.flatMap Call.passed).Nodup := by
  rw [List.nodup_append]
  constructor
  · exact And.left
  · intro nodup
    refine ⟨nodup, apart.own_nodup, ?_⟩
    rintro child passed own isOwn rfl
    exact apart.own_not_returned child isOwn (passed_returned child passed)

theorem Apart.mem_children_iff {size : Nat} (apart : Apart calls size)
    (returned : id ∈ calls.map Call.id) :
    id ∈ calls.flatMap Call.passed ++ calls.flatMap Call.own ↔ id ∈ calls.flatMap Call.passed := by
  rw [List.mem_append, or_iff_left]
  intro isOwn
  exact apart.own_not_returned id isOwn returned

theorem Numbered.comment_lt {size : Nat} (numbered : Numbered calls size) :
    ∀ comment ∈ calls.flatMap Call.noted, comment.index < size := by
  intro comment listed
  rcases List.mem_flatMap.mp listed with ⟨call, member, isNoted⟩
  rw [BuildStep.eq_of_mem_noted isNoted]
  exact numbered.id_lt call.id (List.mem_map_of_mem member)

theorem Ordered.child_lt (ordered : builder.Ordered) :
    ∀ child ∈ builder.nodes.toList.flatMap (·.kind.children),
      child.index < builder.nodes.size := by
  intro child listed
  rcases List.mem_flatMap.mp listed with ⟨node, isNode, member⟩
  rcases List.getElem?_of_mem isNode with ⟨place, found⟩
  rw [Array.getElem?_toList] at found
  exact (ordered place node found child member).trans (Array.getElem?_eq_some_iff.mp found).1

/-! ## Finishing -/

/-- A tree of nodes in order is refused only for a node that is used twice. -/
theorem Ordered.finish_ok_iff (ordered : builder.Ordered) {root : NodeId}
    (root_lt : root.index < builder.nodes.size)
    (comment_lt : ∀ comment ∈ builder.comments, comment.index < builder.nodes.size) :
    ((∃ ust, builder.finish root = .ok ust) ↔
      (builder.nodes.toList.flatMap (·.kind.children)).Nodup ∧
        root ∉ builder.nodes.toList.flatMap (·.kind.children)) ∧
    ((¬ ∃ ust, builder.finish root = .ok ust) →
      ∃ child, builder.finish root = .error (.secondParent child)) := by
  obtain ⟨passes, refused⟩ := Document.fault?_eq_none_or_secondParent
    (show (builder.toDocument root).root.index < _ from root_lt) comment_lt ordered.child_lt
  have accepted : (∃ ust, builder.finish root = .ok ust) ↔
      (builder.toDocument root).fault? = none := by
    simp [finish, Ust.ofDocument_eq_ok_iff, Document.fault?_eq_none_iff]
  refine ⟨accepted.trans passes, ?_⟩
  intro failed
  rw [accepted] at failed
  rcases Option.ne_none_iff_exists'.mp failed with ⟨fault, found⟩
  rcases refused fault found with ⟨child, rfl⟩
  refine ⟨child, ?_⟩
  rw [finish, Ust.ofDocument, found]

end Session

/-- A session can always go on: a step that uses nodes given back before appends the nodes
it plans, two for an invocation and one for any other step, and gives back the place of
the last one.  The nodes of a session are those its steps planned, in their order.  Every
node stands behind its children, so there is no circle anywhere.  Where a node was
given no span, it has the least one over those of its children that have text, or the
last of them if none has.  A node that was given back is the root of a tree exactly if no
node was used twice as a child and the root not at all, whether one looks at the steps or
at the nodes; otherwise there is a node with more than one parent.  The tree has the
nodes of the session as they are. -/
theorem session_builds_tree {language : Language} {file : SourceFile} {calls : List Call}
    {builder : Builder} (session : Session language file calls builder)
    (small : builder.nodes.size ≤ UInt32.size)
    (fits : ∀ call ∈ calls, ∀ plan ∈ call.plans, ∀ span ∈ plan.span, span.Fits) :
    (∀ step : BuildStep, (∀ child ∈ step.passed, child ∈ calls.map Call.id) →
      ∃ id next added, builder.perform? step = some (id, next) ∧
        next.nodes.toList = builder.nodes.toList ++ added ∧ added.length = step.count ∧
          List.Forall₂ next.Made (step.plans (.ofIndex builder.nodes.size)) added ∧
            (next.nodes.size ≤ UInt32.size → id.index + 1 = next.nodes.size)) ∧
    List.Forall₂ builder.Made (calls.flatMap Call.plans) builder.nodes.toList ∧
    (∀ index call, calls[index]? = some call →
      call.place = ((calls.take index).flatMap Call.plans).length ∧
        call.id.index + 1 = call.place + call.step.count) ∧
    builder.Ordered ∧
    (∀ root id, ¬ Ust.Above { toDocument := builder.toDocument root } id id) ∧
    (∀ (place : Nat) (plan : Plan) (node : Node),
      (calls.flatMap Call.plans)[place]? = some plan → plan.span = none →
      builder.nodes[place]? = some node →
        ∃ spans, node.kind.children.map builder.span? = spans.map some ∧
          ((∃ part ∈ spans, part.isEmpty = false) → Span.LeastOver spans node.span) ∧
            ((∀ part ∈ spans, part.isEmpty = true) → node.span = spans.getLastD .empty)) ∧
    ∀ root ∈ calls.map Call.id,
      ((∃ ust, builder.finish root = .ok ust) ↔
        (calls.flatMap Call.passed).Nodup ∧ root ∉ calls.flatMap Call.passed) ∧
      ((∃ ust, builder.finish root = .ok ust) ↔
        (builder.nodes.toList.flatMap (·.kind.children)).Nodup ∧
          root ∉ builder.nodes.toList.flatMap (·.kind.children)) ∧
      ((¬ ∃ ust, builder.finish root = .ok ust) →
        ∃ child, builder.finish root = .error (.secondParent child)) ∧
      ∀ ust, builder.finish root = .ok ust →
        ust.toDocument =
          { language, file := file.indexed, nodes := builder.nodes, root,
            comments := calls.flatMap Call.noted } := by
  have grown := session.grown
  obtain ⟨numbered, apart⟩ := session.numbered_apart small
  have ordered := grown.ordered numbered.descend
  have given : ∀ plan ∈ calls.flatMap Call.plans, ∀ span ∈ plan.span, span.Fits := by
    intro plan planned
    rcases List.mem_flatMap.mp planned with ⟨call, member, isPlan⟩
    exact fits call member plan isPlan
  refine ⟨?_, grown.made, ?_, ordered, ordered.not_above_self, ?_, ?_⟩
  · intro step returned
    rcases exists_perform? fun child member => numbered.id_lt child (returned child member) with
      ⟨id, next, performed⟩
    have effect := performed_of_perform? performed
    rcases effect.exists_added with ⟨added, nodesEq, made⟩
    refine ⟨id, next, added, performed, nodesEq, ?_, made, ?_⟩
    · rw [← made.length_eq, BuildStep.length_plans]
    · intro nextSmall
      rw [effect.index_id nextSmall, effect.size_eq]
  · intro index call found
    exact ⟨numbered.place_eq index call found, numbered.index_id call (List.mem_of_getElem? found)⟩
  · intro place plan node planned derived found
    exact grown.exists_leastOver ordered given planned derived found
  · intro root returned
    have comment_lt := numbered.comment_lt
    rw [← grown.comments_eq] at comment_lt
    obtain ⟨accepted, refused⟩ := ordered.finish_ok_iff (numbered.id_lt root returned) comment_lt
    refine ⟨?_, accepted, refused, ?_⟩
    · rw [accepted, grown.children_perm.nodup_iff, grown.children_perm.mem_iff,
        apart.nodup_children_iff numbered.passed_returned, apart.mem_children_iff returned]
    · intro ust finished
      rcases Ust.eq_of_ofDocument finished with ⟨-, rfl⟩
      rw [toDocument, grown.language_eq, grown.file_eq, grown.comments_eq]

/-- The steps of `f(x); // y`. -/
def sampleCalls : List Call :=
  [⟨.identifier "f" ⟨0, 1⟩, 0, ⟨0⟩⟩, ⟨.identifier "x" ⟨2, 1⟩, 1, ⟨1⟩⟩,
    ⟨.invocation ⟨0⟩ [⟨1⟩] ⟨0, 4⟩, 2, ⟨3⟩⟩, ⟨.comment " y" ⟨6, 4⟩, 4, ⟨4⟩⟩,
    ⟨.expressionStatement ⟨3⟩, 5, ⟨5⟩⟩]

/-- The nodes of `f(x); // y`. -/
def sampleBuilder : Builder where
  language := .javascript
  file := .unindexed "a.js" "f(x); // y"
  nodes := #[
    ⟨.identifier "f", ⟨0, 1⟩⟩,
    ⟨.identifier "x", ⟨2, 1⟩⟩,
    ⟨.args [⟨1⟩], ⟨2, 1⟩⟩,
    ⟨.invocation ⟨0⟩ ⟨2⟩, ⟨0, 4⟩⟩,
    ⟨.comment " y", ⟨6, 4⟩⟩,
    ⟨.expressionStatement ⟨3⟩, ⟨0, 4⟩⟩]
  comments := [⟨4⟩]

theorem session_sampleCalls :
    Session .javascript (.unindexed "a.js" "f(x); // y") sampleCalls sampleBuilder := by
  have opened : Session .javascript (.unindexed "a.js" "f(x); // y") [] _ := .start
  have target := opened.call (by decide)
    (show perform? _ (.identifier "f" ⟨0, 1⟩) = some _ from rfl)
  have argument := target.call (by decide)
    (show perform? _ (.identifier "x" ⟨2, 1⟩) = some _ from rfl)
  have invocation := argument.call (by decide)
    (show perform? _ (.invocation ⟨0⟩ [⟨1⟩] ⟨0, 4⟩) = some _ from rfl)
  have comment := invocation.call (by decide)
    (show perform? _ (.comment " y" ⟨6, 4⟩) = some _ from rfl)
  exact comment.call (by decide)
    (show perform? _ (.expressionStatement ⟨3⟩) = some _ from rfl)

/-- The statement is the root of a tree; the invocation is not, since it is used. -/
theorem finish_sampleBuilder :
    sampleBuilder.nodes.size ≤ UInt32.size ∧
      (∃ ust, sampleBuilder.finish ⟨5⟩ = .ok ust) ∧
        ∃ child, sampleBuilder.finish ⟨3⟩ = .error (.secondParent child) := by
  have small : sampleBuilder.nodes.size ≤ UInt32.size := by decide
  have fits : ∀ call ∈ sampleCalls, ∀ plan ∈ call.plans, ∀ span ∈ plan.span, span.Fits := by
    decide
  obtain ⟨-, -, -, -, -, -, finished⟩ := session_builds_tree session_sampleCalls small fits
  obtain ⟨accepted, -⟩ := finished ⟨5⟩ (by decide)
  obtain ⟨used, -, refused, -⟩ := finished ⟨3⟩ (by decide)
  refine ⟨small, accepted.mpr (by decide), refused ?_⟩
  rw [used]
  decide

end Builder

end TreeSieve
