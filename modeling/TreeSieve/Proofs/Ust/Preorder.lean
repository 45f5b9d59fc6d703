import Mathlib.Data.Finset.Card
import Mathlib.Data.Finset.Range
import TreeSieve.Proofs.Ust.Rooted

/-!
# Parents before children

`Ust.Preorder` says what the walk of some nodes and all that lies under them
is, by recursion on the tree and without a bound on its depth: a node, the walk
of its children, and the walk of the nodes beside it.  Such a walk exists from
every node that does not lie above itself, as no node under the root does, and it
visits every node there once.

A walk that keeps a list of pending nodes visits the same nodes in the same
order, because the pending nodes always are nodes whose walk is still to come.
-/

namespace TreeSieve

namespace Ust

open Relation

/-- The second list is the walk of the nodes of the first and all that lies
under them. -/
inductive Preorder (ust : Ust) : List NodeId → List NodeId → Prop
  | nil : Preorder ust [] []
  | cons {id : NodeId} {rest below after : List NodeId}
      (under : Preorder ust (ust.children id) below) (beside : Preorder ust rest after) :
      Preorder ust (id :: rest) (id :: (below ++ after))

namespace Preorder

variable {ust : Ust} {ids order : List NodeId}

theorem append (first : ust.Preorder ids order) {others behind : List NodeId}
    (second : ust.Preorder others behind) :
    ust.Preorder (ids ++ others) (order ++ behind) := by
  induction first with
  | nil => exact second
  | cons under _ _ ihBeside =>
      simpa only [List.cons_append, List.append_assoc] using cons under ihBeside

/-- A node has one walk. -/
theorem unique (first : ust.Preorder ids order) {other : List NodeId}
    (second : ust.Preorder ids other) : order = other := by
  induction first generalizing other with
  | nil =>
      cases second
      rfl
  | cons _ _ ihUnder ihBeside =>
      cases second with
      | cons under beside => rw [ihUnder under, ihBeside beside]

/-- The walk visits exactly the nodes that are reached from where it starts. -/
theorem mem_iff (walk : ust.Preorder ids order) {node : NodeId} :
    node ∈ order ↔ ∃ id ∈ ids, ust.Reaches id node := by
  induction walk with
  | nil => simp
  | @cons id rest below after _ _ ihUnder ihBeside =>
      simp only [List.mem_cons, List.mem_append, ihUnder, ihBeside, exists_eq_or_imp]
      rw [← or_assoc]
      apply or_congr_left
      change _ ↔ ReflTransGen ust.IsChild id node
      rw [ReflTransGen.cases_head_iff, eq_comm]
      rfl

/-- Walking with a list of pending nodes visits the same nodes in the same order:
as many of them as there are steps, and none after the last. -/
theorem walk_eq_take (walk : ust.Preorder ids order) (count : Nat) :
    ust.walk count ids = order.take count := by
  induction count generalizing ids order with
  | zero => rw [Ust.walk, List.take_zero]
  | succ count ih =>
      cases walk with
      | nil => rfl
      | cons under beside => rw [Ust.walk, ih (under.append beside), List.take_succ_cons]

/-- If there are steps enough, all of them are visited. -/
theorem walk_eq (walk : ust.Preorder ids order) {count : Nat} (enough : order.length ≤ count) :
    ust.walk count ids = order := by
  rw [walk.walk_eq_take, List.take_of_length_le enough]

end Preorder

theorem descendants_eq_nil {ust : Ust} {id : NodeId} (leaf : ust.children id = []) :
    ust.descendants id = [] := by
  rw [descendants, leaf]
  cases ust.size <;> rfl

theorem exists_reaches_of_mem_walk {ust : Ust} {count : Nat} {pending : List NodeId}
    {node : NodeId} (visited : node ∈ ust.walk count pending) :
    ∃ id ∈ pending, ust.Reaches id node := by
  induction count generalizing pending with
  | zero => simp [walk] at visited
  | succ count ih =>
      cases pending with
      | nil => simp [walk] at visited
      | cons id rest =>
          rcases List.mem_cons.mp visited with rfl | later
          · exact ⟨node, List.mem_cons_self, .refl⟩
          · obtain ⟨start, member, path⟩ := ih later
            rcases List.mem_append.mp member with isChild | beside
            · exact ⟨id, List.mem_cons_self, path.head isChild⟩
            · exact ⟨start, List.mem_cons_of_mem id beside, path⟩

/-- A walk never leaves what lies under the node where it starts, even if it is
cut off. -/
theorem reaches_of_mem_descendants {ust : Ust} {id node : NodeId}
    (visited : node ∈ id :: ust.descendants id) : ust.Reaches id node := by
  rcases List.mem_cons.mp visited with rfl | below
  · exact .refl
  · obtain ⟨child, isChild, path⟩ := exists_reaches_of_mem_walk below
    exact path.head isChild

namespace Rooted

variable {ust : Ust} {id : NodeId}

/-- Nodes that have a walk each have a walk together. -/
theorem exists_preorder_of_forall {ids : List NodeId}
    (each : ∀ id ∈ ids, ∃ order, ust.Preorder [id] order) :
    ∃ order, ust.Preorder ids order := by
  induction ids with
  | nil => exact ⟨[], .nil⟩
  | cons id rest ih =>
      obtain ⟨order, walk⟩ := each id List.mem_cons_self
      obtain ⟨behind, walkRest⟩ := ih fun other member =>
        each other (List.mem_cons_of_mem id member)
      exact ⟨order ++ behind, walk.append walkRest⟩

/-- Every node that does not lie above itself has a walk. -/
theorem exists_preorder (rooted : ust.Rooted) (straight : ¬ ust.Above id id) :
    ∃ order, ust.Preorder [id] order := by
  induction id using ust.wellFounded_below.induction with
  | _ id ih =>
      obtain ⟨below, under⟩ := exists_preorder_of_forall fun child isChild =>
        ih child ⟨straight, TransGen.single isChild⟩
          (rooted.not_above_self_of_reaches straight (.single isChild))
      exact ⟨_, under.cons .nil⟩

/-- Neither of two nodes reaches the other. -/
def Apart (ust : Ust) (first second : NodeId) : Prop :=
  ¬ ust.Reaches first second ∧ ¬ ust.Reaches second first

/-- Of two children of a node that does not lie above itself, neither reaches the
other. -/
theorem apart_of_isChild (rooted : ust.Rooted) (straight : ¬ ust.Above id id)
    {first second : NodeId} (isFirst : ust.IsChild id first) (isSecond : ust.IsChild id second)
    (distinct : first ≠ second) : Apart ust first second := by
  have never : ∀ {upper lower}, ust.IsChild id upper → ust.IsChild id lower → upper ≠ lower →
      ¬ ust.Reaches upper lower := by
    intro upper lower isUpper isLower distinct path
    rcases reflTransGen_iff_eq_or_transGen.mp path with equal | path
    · exact distinct equal.symm
    · have toParent := (rooted.above_iff_reaches_parent isLower).mp path
      exact straight (TransGen.head' isUpper toParent)
  exact ⟨never isFirst isSecond distinct, never isSecond isFirst distinct.symm⟩

/-- The children of a node that does not lie above itself are apart from each
other. -/
theorem children_apart (rooted : ust.Rooted) (straight : ¬ ust.Above id id) :
    (ust.children id).Pairwise (Apart ust) := by
  refine (rooted.children_nodup id).imp_of_mem ?_
  intro first second isFirst isSecond distinct
  exact rooted.apart_of_isChild straight isFirst isSecond distinct

/-- A walk from nodes that are apart from each other visits no node twice. -/
theorem nodup_preorder (rooted : ust.Rooted) {ids order : List NodeId}
    (walk : ust.Preorder ids order) (straight : ∀ id ∈ ids, ¬ ust.Above id id)
    (apart : ids.Pairwise (Apart ust)) : order.Nodup := by
  induction walk with
  | nil => exact List.nodup_nil
  | @cons id rest below after under beside ihUnder ihBeside =>
      have here := straight id List.mem_cons_self
      rw [List.pairwise_cons] at apart
      have belowNodup := ihUnder
        (fun child isChild => rooted.not_above_self_of_reaches here (.single isChild))
        (rooted.children_apart here)
      have afterNodup := ihBeside
        (fun other member => straight other (List.mem_cons_of_mem id member)) apart.2
      have notAfter : ∀ {node}, ust.Reaches id node → node ∉ after := by
        intro node fromId inAfter
        rcases beside.mem_iff.mp inAfter with ⟨other, member, fromOther⟩
        rcases rooted.reaches_total fromId fromOther with path | path
        · exact (apart.1 other member).1 path
        · exact (apart.1 other member).2 path
      have belowReached : ∀ {node}, node ∈ below → ust.Above id node := by
        intro node inBelow
        rcases under.mem_iff.mp inBelow with ⟨child, isChild, fromChild⟩
        exact TransGen.head' isChild fromChild
      rw [List.nodup_cons, List.mem_append, not_or]
      refine ⟨⟨?_, notAfter .refl⟩, belowNodup.append afterNodup ?_⟩
      · intro inBelow
        exact here (belowReached inBelow)
      · intro node inBelow inAfter
        exact notAfter (belowReached inBelow).to_reflTransGen inAfter

/-- Nodes of the document, none of them twice, are not more than it has. -/
theorem length_le_size {order : List NodeId} (nodup : order.Nodup)
    (present : ∀ node ∈ order, node.index < ust.size) : order.length ≤ ust.size := by
  have inRange : (order.map NodeId.index).toFinset ⊆ Finset.range ust.size := by
    intro index member
    rcases List.mem_map.mp (List.mem_toFinset.mp member) with ⟨node, inOrder, rfl⟩
    exact Finset.mem_range.mpr (present node inOrder)
  have bound := Finset.card_le_card inRange
  rwa [List.toFinset_card_of_nodup (nodup.map NodeId.index_injective), List.length_map,
    Finset.card_range] at bound

/-! ## Below a node that does not lie above itself -/

theorem preorder_children_of_not_above (rooted : ust.Rooted) (straight : ¬ ust.Above id id) :
    ust.Preorder (ust.children id) (ust.descendants id) := by
  have childStraight : ∀ child ∈ ust.children id, ¬ ust.Above child child :=
    fun child isChild => rooted.not_above_self_of_reaches straight (.single isChild)
  obtain ⟨below, under⟩ := exists_preorder_of_forall fun child isChild =>
    rooted.exists_preorder (childStraight child isChild)
  have present : ∀ node ∈ below, node.index < ust.size := by
    intro node inBelow
    rcases under.mem_iff.mp inBelow with ⟨child, isChild, path⟩
    exact rooted.lt_of_above (TransGen.head' isChild path)
  have nodup := rooted.nodup_preorder under childStraight (rooted.children_apart straight)
  rwa [Ust.descendants, under.walk_eq (length_le_size nodup present)]

theorem nodup_descendants_of_not_above (rooted : ust.Rooted) (straight : ¬ ust.Above id id) :
    (id :: ust.descendants id).Nodup := by
  have walk : ust.Preorder [id] (id :: ust.descendants id) := by
    simpa using (rooted.preorder_children_of_not_above straight).cons .nil
  exact rooted.nodup_preorder walk (by simpa using straight) (List.pairwise_singleton _ id)

/-- The walk from such a node is not longer than the list of nodes. -/
theorem length_descendants_lt_of_not_above (rooted : ust.Rooted) (straight : ¬ ust.Above id id) :
    (ust.descendants id).length < ust.size := by
  by_cases present : id.index < ust.size
  · refine length_le_size (rooted.nodup_descendants_of_not_above straight) ?_
    rw [List.forall_mem_cons]
    refine ⟨present, fun node member => ?_⟩
    rcases (rooted.preorder_children_of_not_above straight).mem_iff.mp member with
      ⟨child, isChild, path⟩
    exact rooted.lt_of_above (TransGen.head' isChild path)
  · have leaf : ust.children id = [] := by
      rw [children, kind?, node?, Array.getElem?_eq_none (Nat.le_of_not_lt present)]
      rfl
    rw [descendants_eq_nil leaf]
    exact Nat.zero_lt_of_lt rooted.root_lt

/-! ## Below a node under the root -/

/-- The descendants of a node under the root are the walk of its children. -/
theorem preorder_children (rooted : ust.Rooted) (reached : ust.Reaches ust.root id) :
    ust.Preorder (ust.children id) (ust.descendants id) :=
  rooted.preorder_children_of_not_above (rooted.not_above_self reached)

/-- The walk of a node under the root visits the node and then its
descendants. -/
theorem preorder_descendants (rooted : ust.Rooted) (reached : ust.Reaches ust.root id) :
    ust.Preorder [id] (id :: ust.descendants id) := by
  simpa using (rooted.preorder_children reached).cons .nil

theorem mem_descendants_iff (rooted : ust.Rooted) (reached : ust.Reaches ust.root id)
    {node : NodeId} : node ∈ ust.descendants id ↔ ust.Above id node := by
  rw [(rooted.preorder_children reached).mem_iff]
  exact (TransGen.head'_iff (r := ust.IsChild)).symm

theorem mem_cons_descendants_iff (rooted : ust.Rooted) (reached : ust.Reaches ust.root id)
    {node : NodeId} : node ∈ id :: ust.descendants id ↔ ust.Reaches id node := by
  rw [(rooted.preorder_descendants reached).mem_iff]
  simp

theorem nodup_descendants (rooted : ust.Rooted) (reached : ust.Reaches ust.root id) :
    (id :: ust.descendants id).Nodup :=
  rooted.nodup_descendants_of_not_above (rooted.not_above_self reached)

/-- The walk of a node under the root is not longer than the list of nodes. -/
theorem length_descendants_lt (rooted : ust.Rooted) (reached : ust.Reaches ust.root id) :
    (ust.descendants id).length < ust.size :=
  rooted.length_descendants_lt_of_not_above (rooted.not_above_self reached)

/-- A node under the root that is not the root has one parent, and the parent is
under the root too. -/
theorem exists_parent (rooted : ust.Rooted) (reached : ust.Reaches ust.root id)
    (notRoot : id ≠ ust.root) :
    ∃ parent, ust.Reaches ust.root parent ∧ ∀ other, ust.IsChild other id ↔ other = parent := by
  rcases reached.cases_tail with isRoot | ⟨parent, toParent, isChild⟩
  · exact absurd isRoot notRoot
  · refine ⟨parent, toParent, fun other => ?_⟩
    constructor
    · intro otherChild
      exact rooted.parent_unique otherChild isChild
    · rintro rfl
      exact isChild

end Rooted

/-! ## The tree under the root -/

/-- The part of an accepted document that the root reaches is a tree, although
nothing looks for circles: the root has no parent, every other node there has one
parent, and no node there lies above itself.  From every node there the walk of
its descendants ends.  However many steps it is given, it yields the first nodes
of one list, which has fewer members than the document has nodes; the list has
neither the node itself nor any node twice, it has exactly the nodes that lie
below the node, and it is the walk that takes parents before children. -/
theorem acyclic_and_descendants_eq_preorder {document : Document} {ust : Ust}
    (accepted : ofDocument document = .ok ust) :
    (∀ parent, ¬ ust.IsChild parent ust.root) ∧
      (∀ id, ust.Reaches ust.root id → id ≠ ust.root →
        ∃ parent, ust.Reaches ust.root parent ∧
          ∀ other, ust.IsChild other id ↔ other = parent) ∧
        (∀ id, ust.Reaches ust.root id → ¬ ust.Above id id) ∧
          ∀ id, ust.Reaches ust.root id →
            (∀ count, ust.walk count (ust.children id) = (ust.descendants id).take count) ∧
              (ust.descendants id).length < document.nodes.size ∧
                id ∉ ust.descendants id ∧ (ust.descendants id).Nodup ∧
                  (∀ node, node ∈ ust.descendants id ↔ ust.Above id node) ∧
                    ∀ order, ust.Preorder (ust.children id) order ↔
                      order = ust.descendants id := by
  have rooted := rooted_of_ofDocument accepted
  have sizeEq : ust.size = document.nodes.size := by
    rcases eq_of_ofDocument accepted with ⟨-, rfl⟩
    rfl
  constructor
  · exact rooted.root_not_child
  constructor
  · intro id reached notRoot
    exact rooted.exists_parent reached notRoot
  constructor
  · intro id reached
    exact rooted.not_above_self reached
  intro id reached
  have forest := rooted.preorder_children reached
  have nodup := List.nodup_cons.mp (rooted.nodup_descendants reached)
  constructor
  · exact forest.walk_eq_take
  constructor
  · rw [← sizeEq]
    exact rooted.length_descendants_lt reached
  constructor
  · exact nodup.1
  constructor
  · exact nodup.2
  constructor
  · intro node
    exact rooted.mem_descendants_iff reached
  · intro order
    constructor
    · intro other
      exact other.unique forest
    · rintro rfl
      exact forest

/-- In the sample the variable has its name and its value below it, and they are
all that a walk from it yields. -/
theorem preorder_sampleField :
    ofDocument Document.sampleField = .ok sampleField ∧
      sampleField.Reaches sampleField.root ⟨2⟩ ∧ ¬ sampleField.Above ⟨2⟩ ⟨2⟩ ∧
        (∀ count, sampleField.walk count [⟨3⟩, ⟨4⟩] = List.take count [⟨3⟩, ⟨4⟩]) ∧
          sampleField.Preorder [⟨3⟩, ⟨4⟩] [⟨3⟩, ⟨4⟩] := by
  have reached : sampleField.Reaches sampleField.root ⟨2⟩ :=
    .single (show (⟨2⟩ : NodeId) ∈ sampleField.children ⟨0⟩ by decide)
  obtain ⟨-, -, acyclic, below⟩ := acyclic_and_descendants_eq_preorder ofDocument_sampleField
  obtain ⟨walks, -, -, -, -, preorder⟩ := below ⟨2⟩ reached
  exact ⟨ofDocument_sampleField, reached, acyclic ⟨2⟩ reached, walks, (preorder _).mpr rfl⟩

end Ust

end TreeSieve
