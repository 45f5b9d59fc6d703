import Mathlib.Data.List.Forall2
import TreeSieve.Proofs.Source.Cover
import TreeSieve.Proofs.Ust.Rooted

/-!
# Steps as planned nodes

A step of building adds one node or, for an invocation, two.  `BuildStep.plans` is the
table of what each step adds: kinds, and spans where they are given.  Performing a step
is adding its planned nodes one after the other, `Builder.perform?_eq`, so what follows
is about planned nodes and no longer about the kinds of steps.

Planned nodes that name nodes before them only, `Plan.Descend`, can always be added.
-/

namespace TreeSieve

/-- A node to be added: its kind and its span.  Without a span it covers its children. -/
structure Plan where
  kind : NodeKind
  span : Option Span

namespace BuildStep

/-- The nodes that a step adds if `place` is the next free place. -/
def plans (place : NodeId) : BuildStep → List Plan
  | .identifier name span => [⟨.identifier name, some span⟩]
  | .typeToken name span => [⟨.typeToken name, some span⟩]
  | .string text span => [⟨.stringLiteral text, some span⟩]
  | .int value span => [⟨.intLiteral value, some span⟩]
  | .boolean value span => [⟨.booleanLiteral value, some span⟩]
  | .null span => [⟨.nullLiteral, some span⟩]
  | .comment text span => [⟨.comment text, some span⟩]
  | .memberReference target name => [⟨.memberReference target name, none⟩]
  | .args arguments => [⟨.args arguments, none⟩]
  | .invocation target arguments span =>
      [⟨.args arguments, none⟩, ⟨.invocation target place, some span⟩]
  | .binary left operator right => [⟨.binaryOperator left operator right, none⟩]
  | .unary operator operand span => [⟨.unaryOperator operator operand, some span⟩]
  | .assign left right => [⟨.assignment left (some right), none⟩]
  | .expressionStatement expression => [⟨.expressionStatement expression, none⟩]
  | .block items span => [⟨.block items, some span⟩]
  | .catchClause exceptionType body span => [⟨.catchClause exceptionType none body, some span⟩]
  | .tryCatch tryBlock catchClauses => [⟨.tryCatch tryBlock catchClauses none, none⟩]
  | .statements items => [⟨.statements items, none⟩]
  | .add kind span => [⟨kind, some span⟩]

/-- The nodes that a step is told to use as children. -/
def passed : BuildStep → List NodeId
  | .invocation target arguments _ => arguments ++ [target]
  | step => (step.plans default).flatMap (·.kind.children)

/-- The nodes that a step adds and uses as children itself: the arguments of an
invocation. -/
def own (place : NodeId) : BuildStep → List NodeId
  | .invocation .. => [place]
  | _ => []

/-- The comments that a step writes down once its node has a place. -/
def noted (id : NodeId) : BuildStep → List NodeId
  | .comment .. => [id]
  | _ => []

/-- How many nodes a step adds. -/
def count : BuildStep → Nat
  | .invocation .. => 2
  | _ => 1

theorem length_plans (place : NodeId) (step : BuildStep) :
    (step.plans place).length = step.count := by
  cases step <;> rfl

theorem count_pos (step : BuildStep) : 0 < step.count := by
  cases step <;> exact Nat.succ_pos _

theorem mem_own {place id : NodeId} {step : BuildStep} (member : id ∈ step.own place) :
    id = place ∧ step.count = 2 := by
  cases step with
  | invocation => exact ⟨List.mem_singleton.mp member, rfl⟩
  | _ => exact absurd member List.not_mem_nil

theorem nodup_own (place : NodeId) (step : BuildStep) : (step.own place).Nodup := by
  cases step <;> simp [own]

theorem eq_of_mem_noted {id comment : NodeId} {step : BuildStep}
    (member : comment ∈ step.noted id) : comment = id := by
  cases step with
  | comment => exact List.mem_singleton.mp member
  | _ => exact absurd member List.not_mem_nil

theorem flatMap_children_plans (place : NodeId) (step : BuildStep) :
    (step.plans place).flatMap (·.kind.children) = step.passed ++ step.own place := by
  cases step with
  | invocation => simp [plans, passed, own, NodeKind.children]
  | _ => exact (List.append_nil _).symm

end BuildStep

/-! ## Planned nodes one after the other -/

/-- Planned nodes, the first of which goes to the place `start`, that have only nodes at
earlier places for children. -/
def Plan.Descend (start : Nat) (plans : List Plan) : Prop :=
  ∀ offset plan, plans[offset]? = some plan →
    ∀ child ∈ plan.kind.children, child.index < start + offset

namespace Plan.Descend

variable {start : Nat} {plans : List Plan}

theorem nil : Descend start [] := by
  simp [Descend]

theorem cons {plan : Plan} (children : ∀ child ∈ plan.kind.children, child.index < start)
    (descend : Descend (start + 1) plans) : Descend start (plan :: plans) := by
  intro offset other found child member
  cases offset with
  | zero =>
      cases found
      exact children child member
  | succ offset =>
      have childLt := descend offset other found child member
      omega

theorem head {plan : Plan} (descend : Descend start (plan :: plans)) :
    ∀ child ∈ plan.kind.children, child.index < start :=
  descend 0 plan rfl

theorem tail {plan : Plan} (descend : Descend start (plan :: plans)) :
    Descend (start + 1) plans := by
  intro offset other found child member
  have childLt := descend (offset + 1) other found child member
  omega

theorem append {more : List Plan} (descend : Descend start plans)
    (moreDescend : Descend (start + plans.length) more) : Descend start (plans ++ more) := by
  intro offset plan found child member
  by_cases early : offset < plans.length
  · rw [List.getElem?_append_left early] at found
    exact descend offset plan found child member
  · rw [List.getElem?_append_right (Nat.le_of_not_lt early)] at found
    have childLt := moreDescend _ plan found child member
    omega

end Plan.Descend

theorem NodeId.index_ofIndex_le (index : Nat) : (NodeId.ofIndex index).index ≤ index :=
  Nat.mod_le _ _

/-- A step that is told to use earlier nodes adds nodes over earlier ones. -/
theorem BuildStep.descend_plans {step : BuildStep} {start : Nat}
    (present : ∀ child ∈ step.passed, child.index < start) :
    Plan.Descend start (step.plans (.ofIndex start)) := by
  cases step with
  | invocation target arguments span =>
      have targetLt : target.index < start :=
        present target (List.mem_append_right _ List.mem_cons_self)
      apply Plan.Descend.cons
      · intro child member
        exact present child (List.mem_append_left _ member)
      apply Plan.Descend.cons _ .nil
      -- The invocation follows its arguments, which are at `start`.
      intro child member
      rcases List.mem_pair.mp member with rfl | rfl
      · exact Nat.lt_succ_of_lt targetLt
      · exact Nat.lt_succ_of_le (NodeId.index_ofIndex_le start)
  | _ =>
      apply Plan.Descend.cons _ .nil
      intro child member
      exact present child (List.mem_flatMap_of_mem List.mem_cons_self member)

/-! ## Adding planned nodes -/

namespace Builder

/-- The span of a planned node. -/
def spanFor? (builder : Builder) (plan : Plan) : Option Span :=
  plan.span.or (builder.cover? plan.kind.children)

/-- Add a planned node. -/
def addPlan? (builder : Builder) (plan : Plan) : Option Builder :=
  (builder.spanFor? plan).map fun span => (builder.add plan.kind span).2

/-- Add planned nodes one after the other. -/
def addPlans? (builder : Builder) (plans : List Plan) : Option Builder :=
  plans.foldlM addPlan? builder

/-- The last node of a builder, and the builder with what a step writes down about it. -/
def close (builder : Builder) (step : BuildStep) : NodeId × Builder :=
  let last := NodeId.ofIndex (builder.nodes.size - 1)
  (last, { builder with comments := builder.comments ++ step.noted last })

theorem addPlans?_cons (builder : Builder) (plan : Plan) (plans : List Plan) :
    builder.addPlans? (plan :: plans) = (builder.addPlan? plan).bind (·.addPlans? plans) :=
  List.foldlM_cons

theorem addPlan?_over (builder : Builder) (kind : NodeKind) :
    builder.addPlan? ⟨kind, none⟩ = (builder.addOver? kind).map Prod.snd := by
  rw [addPlan?, addOver?, Option.map_map]
  rfl

/-- A node that has just been added is the last one. -/
theorem close_add (builder : Builder) (kind : NodeKind) (span : Span) {step : BuildStep}
    (unnoted : ∀ id, step.noted id = []) :
    (builder.add kind span).2.close step = builder.add kind span := by
  simp [close, add, unnoted]

theorem map_close_given (builder : Builder) (kind : NodeKind) (span : Span) {step : BuildStep}
    (unnoted : ∀ id, step.noted id = []) :
    (builder.addPlans? [⟨kind, some span⟩]).map (·.close step) = some (builder.add kind span) :=
  congrArg some (close_add builder kind span unnoted)

theorem map_close_over (builder : Builder) (kind : NodeKind) {step : BuildStep}
    (unnoted : ∀ id, step.noted id = []) :
    (builder.addPlans? [⟨kind, none⟩]).map (·.close step) = builder.addOver? kind := by
  rw [addPlans?_cons, addPlan?_over, addOver?]
  cases builder.cover? kind.children with
  | none => rfl
  | some span => exact congrArg some (close_add builder kind span unnoted)

/-- A step adds its planned nodes and gives the place of the last one. -/
theorem perform?_eq (builder : Builder) (step : BuildStep) :
    builder.perform? step =
      (builder.addPlans? (step.plans (.ofIndex builder.nodes.size))).map (·.close step) := by
  cases step with
  | comment text span => simp [perform?, addComment, add, addPlans?, addPlan?, spanFor?,
      BuildStep.plans, close, BuildStep.noted]
  | invocation target arguments span =>
      rw [perform?, BuildStep.plans, addPlans?_cons, addPlan?_over, addOver?]
      cases builder.cover? (NodeKind.args arguments).children with
      | none => rfl
      | some covering => exact (map_close_given _ _ span fun _ => rfl).symm
  | memberReference | args | binary | assign | expressionStatement | tryCatch | statements =>
      exact (map_close_over builder _ fun _ => rfl).symm
  | _ => exact (map_close_given builder _ _ fun _ => rfl).symm

/-- A node is the planned one, with its span as the spans of its children make it. -/
structure Made (builder : Builder) (plan : Plan) (node : Node) : Prop where
  kind_eq : node.kind = plan.kind
  span_eq : builder.spanFor? plan = some node.span

/-- A node without a span of its own has the cover of the spans of its children. -/
theorem Made.exists_spans {builder : Builder} {plan : Plan} {node : Node}
    (made : builder.Made plan node) (derived : plan.span = none) :
    ∃ spans, plan.kind.children.map builder.span? = spans.map some ∧
      Span.cover spans = node.span := by
  have spanEq := made.span_eq
  rwa [spanFor?, derived, Option.none_or, cover?_eq_some_iff] at spanEq

theorem Made.of_spans {builder next : Builder} {plan : Plan} {node : Node}
    (made : builder.Made plan node)
    (kept : ∀ {id span}, builder.span? id = some span → next.span? id = some span) :
    next.Made plan node := by
  refine ⟨made.kind_eq, ?_⟩
  cases given : plan.span with
  | some span =>
      have spanEq := made.span_eq
      rw [spanFor?, given] at *
      exact spanEq
  | none =>
      rcases made.exists_spans given with ⟨spans, found, coverEq⟩
      rw [spanFor?, given, Option.none_or, cover?_eq_some_iff]
      refine ⟨spans, ?_, coverEq⟩
      rw [← found]
      apply List.map_congr_left
      intro child member
      have isSome : builder.span? child ∈ spans.map some := found ▸ List.mem_map_of_mem member
      rcases List.mem_map.mp isSome with ⟨span, -, spanEq⟩
      rw [← spanEq, kept spanEq.symm]

section Addition

variable {builder next : Builder} {plan : Plan} {plans : List Plan}

/-- Nodes that have been added keep their spans when more are added. -/
theorem span?_of_append {added : List Node}
    (nodesEq : next.nodes.toList = builder.nodes.toList ++ added) {id : NodeId} {span : Span}
    (found : builder.span? id = some span) : next.span? id = some span := by
  rcases Option.map_eq_some_iff.mp found with ⟨node, nodeAt, rfl⟩
  have inside := (Array.getElem?_eq_some_iff.mp nodeAt).1
  rw [span?, ← Array.getElem?_toList, nodesEq, List.getElem?_append_left inside,
    Array.getElem?_toList, nodeAt, Option.map_some]

theorem addPlan?_eq_some_iff :
    builder.addPlan? plan = some next ↔
      ∃ span, builder.spanFor? plan = some span ∧
        { builder with nodes := builder.nodes.push ⟨plan.kind, span⟩ } = next :=
  Option.map_eq_some_iff

/-- Adding planned nodes appends them and keeps everything else. -/
theorem exists_added_of_addPlans? (added : builder.addPlans? plans = some next) :
    ∃ nodes : List Node, next = { builder with nodes := builder.nodes ++ nodes.toArray } ∧
      List.Forall₂ next.Made plans nodes := by
  induction plans generalizing builder with
  | nil =>
      cases added
      exact ⟨[], by simp, .nil⟩
  | cons plan plans ih =>
      rw [addPlans?_cons, Option.bind_eq_some_iff] at added
      rcases added with ⟨middle, first, rest⟩
      rcases addPlan?_eq_some_iff.mp first with ⟨span, spanEq, rfl⟩
      rcases ih rest with ⟨nodes, nextEq, made⟩
      have whole : next =
          { builder with nodes := builder.nodes ++ (⟨plan.kind, span⟩ :: nodes).toArray } := by
        rw [nextEq]
        simp
      have nodesEq : next.nodes.toList =
          builder.nodes.toList ++ (⟨plan.kind, span⟩ :: nodes) := by
        rw [whole]
        simp
      exact ⟨⟨plan.kind, span⟩ :: nodes, whole,
        .cons (.of_spans ⟨rfl, spanEq⟩ (span?_of_append nodesEq)) made⟩

theorem exists_span? {id : NodeId} (present : id.index < builder.nodes.size) :
    ∃ span, builder.span? id = some span := by
  rw [span?, Array.getElem?_eq_getElem present]
  exact ⟨_, rfl⟩

theorem exists_spanFor? (present : ∀ child ∈ plan.kind.children, child.index < builder.nodes.size) :
    ∃ span, builder.spanFor? plan = some span := by
  rw [spanFor?]
  cases plan.span with
  | some span => exact ⟨span, rfl⟩
  | none =>
      refine ⟨_, cover?_eq_some_iff.mpr
        ⟨plan.kind.children.map fun child => (builder.span? child).getD .empty, ?_, rfl⟩⟩
      rw [List.map_map]
      apply List.map_congr_left
      intro child member
      rcases exists_span? (present child member) with ⟨span, found⟩
      rw [Function.comp_apply, found, Option.getD_some]

/-- Planned nodes over earlier ones can be added. -/
theorem exists_addPlans? (descend : Plan.Descend builder.nodes.size plans) :
    ∃ next, builder.addPlans? plans = some next := by
  induction plans generalizing builder with
  | nil => exact ⟨builder, rfl⟩
  | cons plan plans ih =>
      rcases exists_spanFor? descend.head with ⟨span, spanEq⟩
      have first : builder.addPlan? plan =
          some { builder with nodes := builder.nodes.push ⟨plan.kind, span⟩ } :=
        addPlan?_eq_some_iff.mpr ⟨span, spanEq, rfl⟩
      rw [addPlans?_cons, first, Option.bind_some]
      apply ih
      rw [Array.size_push]
      exact descend.tail

end Addition

end Builder

end TreeSieve
