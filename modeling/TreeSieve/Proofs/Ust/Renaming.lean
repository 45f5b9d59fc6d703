import Mathlib.Data.Set.Function
import TreeSieve.Proofs.Ust.Preorder

/-!
# Renaming nodes

A node is known by its place in the list of nodes, and the places are arbitrary:
the same tree can be written down with its nodes in another order, and among
nodes that the root does not reach.  An isomorphism between two trees gives the
nodes under one root the places of the nodes under the other.  It carries walks,
descendants and parents along.
-/

namespace TreeSieve

open Relation

/-- The same kind, with other places for the children. -/
@[simp]
def NodeKind.rename (rename : NodeId → NodeId) : NodeKind → NodeKind
  | identifier name => identifier name
  | typeToken name => typeToken name
  | stringLiteral text => stringLiteral text
  | intLiteral value => intLiteral value
  | floatLiteral value => floatLiteral value
  | booleanLiteral value => booleanLiteral value
  | nullLiteral => nullLiteral
  | comment text => comment text
  | binaryOperator left operator right => binaryOperator (rename left) operator (rename right)
  | unaryOperator operator operand => unaryOperator operator (rename operand)
  | assignment left right => assignment (rename left) (right.map rename)
  | memberReference target name => memberReference (rename target) (rename name)
  | indexer target arguments => indexer (rename target) (rename arguments)
  | invocation target arguments => invocation (rename target) (rename arguments)
  | objectCreate typeName arguments => objectCreate (rename typeName) (rename arguments)
  | baseReference => baseReference
  | multipleExpressions expressions => multipleExpressions (expressions.map rename)
  | block items => block (items.map rename)
  | expressionStatement expression => expressionStatement (rename expression)
  | tryCatch tryBlock catchClauses finallyBlock =>
      tryCatch (rename tryBlock) (catchClauses.map rename) (finallyBlock.map rename)
  | catchClause exceptionType boundName body =>
      catchClause (exceptionType.map rename) (boundName.map rename) (rename body)
  | withStatement expression statement => withStatement (rename expression) (rename statement)
  | args arguments => args (arguments.map rename)
  | statements items => statements (items.map rename)
  | classDeclaration name baseTypes members =>
      classDeclaration (rename name) (baseTypes.map rename) (members.map rename)
  | methodDeclaration name parameters body =>
      methodDeclaration (rename name) (parameters.map rename) (body.map rename)
  | constructorDeclaration name parameters body =>
      constructorDeclaration (rename name) (parameters.map rename) (body.map rename)
  | fieldDeclaration fieldType declarators =>
      fieldDeclaration (fieldType.map rename) (declarators.map rename)
  | parameterDeclaration parameterType name initializer =>
      parameterDeclaration (parameterType.map rename) (rename name) (initializer.map rename)
  | variableDeclaration name initializer =>
      variableDeclaration (rename name) (initializer.map rename)

/-- The same node, with other places for the children. -/
def Node.rename (rename : NodeId → NodeId) (node : Node) : Node where
  kind := node.kind.rename rename
  span := node.span

theorem NodeKind.children_rename (rename : NodeId → NodeId) (kind : NodeKind) :
    (kind.rename rename).children = kind.children.map rename := by
  cases kind <;> simp [children, Option.toList_map]

theorem NodeKind.rename_self (kind : NodeKind) : kind.rename (fun id => id) = kind := by
  cases kind <;> simp

namespace Ust

/-- The nodes under one root correspond to the nodes under another, root to root:
they have the same kinds with the same contents, the same spans, and children
that correspond. -/
structure Isomorphism (first second : Ust) (rename : NodeId → NodeId) : Prop where
  bijOn : Set.BijOn rename {id | first.Reaches first.root id} {id | second.Reaches second.root id}
  root_eq : rename first.root = second.root
  node_eq : ∀ {id}, first.Reaches first.root id →
    second.node? (rename id) = (first.node? id).map (Node.rename rename)

/-- Two nodes are comments with the same text and span. -/
def SameComment (first second : Ust) (id twin : NodeId) : Prop :=
  ∃ text span, first.node? id = some ⟨.comment text, span⟩ ∧
    second.node? twin = some ⟨.comment text, span⟩

namespace Isomorphism

variable {first second : Ust} {rename : NodeId → NodeId} {id : NodeId}

theorem reaches (iso : Isomorphism first second rename) (reached : first.Reaches first.root id) :
    second.Reaches second.root (rename id) :=
  iso.bijOn.mapsTo reached

theorem children_eq (iso : Isomorphism first second rename)
    (reached : first.Reaches first.root id) :
    second.children (rename id) = (first.children id).map rename := by
  rw [children, children, kind?, kind?, iso.node_eq reached]
  cases first.node? id with
  | none => rfl
  | some node => exact node.kind.children_rename rename

/-- The walk of some nodes goes over to the walk of the nodes that correspond to
them. -/
theorem preorder (iso : Isomorphism first second rename) {ids order : List NodeId}
    (forest : first.Preorder ids order) (reached : ∀ id ∈ ids, first.Reaches first.root id) :
    second.Preorder (ids.map rename) (order.map rename) := by
  induction forest with
  | nil => exact .nil
  | @cons id rest below after under beside ihUnder ihBeside =>
      have here := reached id List.mem_cons_self
      have underTwin := ihUnder fun child isChild => here.tail isChild
      have besideTwin := ihBeside fun other member =>
        reached other (List.mem_cons_of_mem id member)
      rw [← iso.children_eq here] at underTwin
      rw [List.map_cons, List.map_cons, List.map_append]
      exact .cons underTwin besideTwin

theorem descendants_eq (iso : Isomorphism first second rename) (firstRooted : first.Rooted)
    (secondRooted : second.Rooted) (reached : first.Reaches first.root id) :
    second.descendants (rename id) = (first.descendants id).map rename := by
  have forest := iso.preorder (firstRooted.preorder_children reached)
    fun child isChild => reached.tail isChild
  rw [← iso.children_eq reached] at forest
  exact (secondRooted.preorder_children (iso.reaches reached)).unique forest

/-- The nodes under the second root are those under the first with their places
there. -/
theorem order_eq (iso : Isomorphism first second rename) (firstRooted : first.Rooted)
    (secondRooted : second.Rooted) :
    second.root :: second.descendants second.root =
      (first.root :: first.descendants first.root).map rename := by
  rw [List.map_cons, ← iso.descendants_eq firstRooted secondRooted .refl, iso.root_eq]

/-- Conversely, an isomorphism is known by the two walks from the roots. -/
theorem of_order (firstRooted : first.Rooted) (secondRooted : second.Rooted)
    (orderEq : second.root :: second.descendants second.root =
      (first.root :: first.descendants first.root).map rename)
    (nodes : ∀ id ∈ first.root :: first.descendants first.root,
      second.node? (rename id) = (first.node? id).map (Node.rename rename)) :
    Isomorphism first second rename := by
  have firstIff {id} : id ∈ first.root :: first.descendants first.root ↔
      first.Reaches first.root id := firstRooted.mem_cons_descendants_iff .refl
  have secondIff {id} : id ∈ second.root :: second.descendants second.root ↔
      second.Reaches second.root id := secondRooted.mem_cons_descendants_iff .refl
  have nodup := secondRooted.nodup_descendants .refl
  rw [orderEq] at secondIff nodup
  constructor
  · refine ⟨?_, ?_, ?_⟩
    · intro id reached
      exact secondIff.mp (List.mem_map_of_mem (firstIff.mpr reached))
    · intro id reached other otherReached same
      exact List.inj_on_of_nodup_map nodup (firstIff.mpr reached) (firstIff.mpr otherReached) same
    · intro twin reached
      obtain ⟨id, member, same⟩ := List.mem_map.mp (secondIff.mpr reached)
      exact ⟨id, firstIff.mp member, same⟩
  · rw [List.map_cons] at orderEq
    exact (List.cons.inj orderEq).1.symm
  · intro id reached
    exact nodes id (firstIff.mpr reached)

end Isomorphism

/-! ## Nodes that look the same -/

/-- An isomorphism between trees that are rooted and know the parents of their
nodes. -/
structure Translation (first second : Ust) (rename : NodeId → NodeId) : Prop
    extends Isomorphism first second rename where
  first_rooted : first.Rooted
  second_rooted : second.Rooted
  first_parents : ∀ {parent child}, first.parent? child = some parent ↔ first.IsChild parent child
  second_parents : ∀ {parent child},
    second.parent? child = some parent ↔ second.IsChild parent child

/-- Two nodes look the same: an isomorphism takes the one to the other, or they
are the same comment.  Comments need not be under the roots. -/
inductive Twins (first second : Ust) (rename : NodeId → NodeId) : NodeId → NodeId → Prop
  | reached {id : NodeId} (reached : first.Reaches first.root id) :
      Twins first second rename id (rename id)
  | comment {id twin : NodeId} (same : SameComment first second id twin) :
      Twins first second rename id twin

theorem SameComment.children_eq_nil {first second : Ust} {id twin : NodeId}
    (same : SameComment first second id twin) :
    first.children id = [] ∧ second.children twin = [] := by
  obtain ⟨text, span, firstEq, secondEq⟩ := same
  simp [children, kind?, firstEq, secondEq, NodeKind.children]

section Translation

variable {first second : Ust} {rename : NodeId → NodeId} {id twin : NodeId}
  {kind : NodeKind}

/-- Nodes that look the same have the same kind, up to the places of children,
and the same span. -/
theorem Twins.node_eq (iso : Isomorphism first second rename)
    (twins : Twins first second rename id twin) :
    second.node? twin = (first.node? id).map (Node.rename rename) := by
  cases twins with
  | reached reached => exact iso.node_eq reached
  | comment same =>
      obtain ⟨text, span, firstEq, secondEq⟩ := same
      rw [firstEq, secondEq]
      rfl

theorem Twins.kind_eq (iso : Isomorphism first second rename)
    (twins : Twins first second rename id twin) :
    second.kind? twin = (first.kind? id).map (NodeKind.rename rename) := by
  rw [kind?, kind?, twins.node_eq iso, Option.map_map, Option.map_map]
  rfl

theorem Twins.span_eq (iso : Isomorphism first second rename)
    (twins : Twins first second rename id twin) : second.span twin = first.span id := by
  rw [span, span, twins.node_eq iso, Option.map_map]
  rfl

/-- Children of nodes that look the same look the same.  Only a node that the
isomorphism takes to another has children. -/
theorem Twins.children (twins : Twins first second rename id twin)
    (kindEq : first.kind? id = some kind) :
    ∀ child ∈ kind.children, Twins first second rename child (rename child) := by
  intro child member
  have isChild := isChild_of_kind? kindEq member
  cases twins with
  | reached reached => exact .reached (reached.tail isChild)
  | comment same =>
      rw [IsChild, same.children_eq_nil.1] at isChild
      exact absurd isChild List.not_mem_nil

namespace Translation

theorem descendants_eq (translation : Translation first second rename)
    (twins : Twins first second rename id twin) :
    second.descendants twin = (first.descendants id).map rename := by
  cases twins with
  | reached reached =>
      exact translation.toIsomorphism.descendants_eq translation.first_rooted
        translation.second_rooted reached
  | comment same =>
      rw [descendants_eq_nil same.children_eq_nil.1, descendants_eq_nil same.children_eq_nil.2]
      rfl

theorem twins_of_mem_descendants (translation : Translation first second rename)
    (twins : Twins first second rename id twin) {node : NodeId}
    (member : node ∈ first.descendants id) : Twins first second rename node (rename node) := by
  cases twins with
  | reached reached =>
      have below := (translation.first_rooted.mem_descendants_iff reached).mp member
      exact .reached (reached.trans below.to_reflTransGen)
  | comment same =>
      rw [descendants_eq_nil same.children_eq_nil.1] at member
      exact absurd member List.not_mem_nil

/-- The parent of a node goes over to the parent of the node that corresponds to
it. -/
theorem parent?_eq (translation : Translation first second rename)
    (reached : first.Reaches first.root id) :
    second.parent? (rename id) = (first.parent? id).map rename := by
  rcases reached.cases_tail with isRoot | ⟨parent, toParent, isChild⟩
  · have noParent : first.parent? first.root = none := by
      rw [Option.eq_none_iff_forall_ne_some]
      intro parent found
      exact translation.first_rooted.root_not_child parent (translation.first_parents.mp found)
    have noTwinParent : second.parent? second.root = none := by
      rw [Option.eq_none_iff_forall_ne_some]
      intro parent found
      exact translation.second_rooted.root_not_child parent (translation.second_parents.mp found)
    rw [isRoot, translation.root_eq, noParent, noTwinParent]
    rfl
  · have twinChild : second.IsChild (rename parent) (rename id) := by
      rw [IsChild, translation.toIsomorphism.children_eq toParent]
      exact List.mem_map_of_mem isChild
    rw [translation.first_parents.mpr isChild, translation.second_parents.mpr twinChild]
    rfl

/-- The walk below a node is shorter than either list of nodes. -/
theorem length_descendants_lt (translation : Translation first second rename)
    (reached : first.Reaches first.root id) :
    (first.descendants id).length < first.size ∧
      (first.descendants id).length < second.size := by
  constructor
  · exact translation.first_rooted.length_descendants_lt reached
  · have bound := translation.second_rooted.length_descendants_lt (translation.reaches reached)
    rwa [translation.descendants_eq (.reached reached), List.length_map] at bound

end Translation

end Translation

end Ust

end TreeSieve
