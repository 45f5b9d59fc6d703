import TreeSieve.Proofs.Ust.Preorder

/-!
# Where the ways through a tree end

Nothing looks for circles among the nodes that the root does not reach, so a walk
through an accepted document need not come to an end.  This module says where it
does.  The walk below a node ends unless the node lies above itself, and the way up
from a node ends if it leads to a node without a parent, and only then.

Both are finite lists if they end, `Ust.Preorder` and `Ust.Climb`.  A node that
came again in its own list would have a second, shorter one.
-/

namespace TreeSieve

namespace Ust

open Relation

/-- The walk below a node ends: given steps enough, it has some left. -/
def WalkEnds (ust : Ust) (id : NodeId) : Prop :=
  ∃ count, (ust.walk count (ust.children id)).length < count

/-- The way up from a node ends. -/
def ChainEnds (ust : Ust) (id : NodeId) : Prop :=
  ∃ count, (ust.chain count (ust.parent? id)).length < count

/-- The table of parents leads from one node to another. -/
def Up (ust : Ust) (child parent : NodeId) : Prop :=
  ust.parent? child = some parent

/-! ## Down -/

namespace Preorder

variable {ust : Ust} {ids order : List NodeId}

theorem split {others : List NodeId} (walk : ust.Preorder (ids ++ others) order) :
    ∃ front behind, ust.Preorder ids front ∧ ust.Preorder others behind ∧
      order = front ++ behind := by
  induction ids generalizing order with
  | nil => exact ⟨[], order, .nil, walk, rfl⟩
  | cons id rest ih =>
      cases walk with
      | @cons _ _ below _ under beside =>
          obtain ⟨front, behind, walkRest, walkOthers, rfl⟩ := ih beside
          exact ⟨id :: (below ++ front), behind, under.cons walkRest, walkOthers, by simp⟩

/-- A walk that has steps left has visited all there is. -/
theorem of_length_walk_lt {count : Nat} (short : (ust.walk count ids).length < count) :
    ust.Preorder ids (ust.walk count ids) := by
  induction count generalizing ids with
  | zero => exact absurd short (Nat.not_lt_zero _)
  | succ count ih =>
      cases ids with
      | nil => exact .nil
      | cons id rest =>
          rw [Ust.walk, List.length_cons, Nat.add_lt_add_iff_right] at short
          obtain ⟨below, after, under, beside, orderEq⟩ := (ih short).split
          rw [Ust.walk, orderEq]
          exact under.cons beside

/-- What is below a visited node is a shorter walk. -/
theorem exists_shorter (walk : ust.Preorder ids order) {node : NodeId} (member : node ∈ order) :
    ∃ below, ust.Preorder (ust.children node) below ∧ below.length < order.length := by
  induction walk with
  | nil => exact absurd member List.not_mem_nil
  | @cons id rest below after under _ ihUnder ihBeside =>
      simp only [List.length_cons, List.length_append]
      rcases List.mem_cons.mp member with rfl | member
      · exact ⟨below, under, by omega⟩
      rcases List.mem_append.mp member with member | member
      · obtain ⟨lower, walk, shorter⟩ := ihUnder member
        exact ⟨lower, walk, by omega⟩
      · obtain ⟨lower, walk, shorter⟩ := ihBeside member
        exact ⟨lower, walk, by omega⟩

/-- A node whose children have a walk does not lie above itself. -/
theorem not_above_self {id : NodeId} (walk : ust.Preorder (ust.children id) order) :
    ¬ ust.Above id id := by
  intro circle
  obtain ⟨child, isChild, path⟩ := TransGen.head'_iff.mp circle
  obtain ⟨below, again, shorter⟩ := walk.exists_shorter (walk.mem_iff.mpr ⟨child, isChild, path⟩)
  exact Nat.ne_of_lt shorter (congrArg List.length (again.unique walk))

end Preorder

theorem Rooted.walkEnds_iff {ust : Ust} (rooted : ust.Rooted) {id : NodeId} :
    ust.WalkEnds id ↔ ¬ ust.Above id id := by
  constructor
  · rintro ⟨count, short⟩
    exact (Preorder.of_length_walk_lt short).not_above_self
  · intro straight
    have walk := rooted.preorder_children_of_not_above straight
    refine ⟨(ust.descendants id).length + 1, ?_⟩
    rw [walk.walk_eq (Nat.le_succ _)]
    exact Nat.lt_succ_self _

/-! ## Up -/

/-- The list is the way up that begins at the node, if there is one. -/
inductive Climb (ust : Ust) : Option NodeId → List NodeId → Prop
  | nil : Climb ust none []
  | cons {id : NodeId} {above : List NodeId} (further : Climb ust (ust.parent? id) above) :
      Climb ust (some id) (id :: above)

namespace Climb

variable {ust : Ust} {next : Option NodeId} {order : List NodeId}

theorem unique (first : ust.Climb next order) {other : List NodeId}
    (second : ust.Climb next other) : order = other := by
  induction first generalizing other with
  | nil =>
      cases second
      rfl
  | cons _ ih =>
      cases second with
      | cons further => rw [ih further]

theorem mem_iff (climb : ust.Climb next order) {node : NodeId} :
    node ∈ order ↔ ∃ id ∈ next, ReflTransGen ust.Up id node := by
  induction climb with
  | nil => simp
  | @cons id above _ ih =>
      rw [List.mem_cons, ih]
      simp only [Option.mem_def, Option.some.injEq, exists_eq_left']
      rw [ReflTransGen.cases_head_iff, eq_comm]
      rfl

theorem chain_eq_take (climb : ust.Climb next order) (count : Nat) :
    ust.chain count next = order.take count := by
  induction count generalizing next order with
  | zero => rw [chain, List.take_zero]
  | succ count ih =>
      cases climb with
      | nil => rfl
      | cons further => rw [chain, ih further, List.take_succ_cons]

/-- A way up that has steps left has come to its end. -/
theorem of_length_chain_lt {count : Nat} (short : (ust.chain count next).length < count) :
    ust.Climb next (ust.chain count next) := by
  induction count generalizing next with
  | zero => exact absurd short (Nat.not_lt_zero _)
  | succ count ih =>
      cases next with
      | none => exact .nil
      | some id =>
          rw [chain, List.length_cons, Nat.add_lt_add_iff_right] at short
          exact (ih short).cons

/-- What is above a node on the way is a shorter way. -/
theorem exists_shorter (climb : ust.Climb next order) {node : NodeId} (member : node ∈ order) :
    ∃ above, ust.Climb (ust.parent? node) above ∧ above.length < order.length := by
  induction climb with
  | nil => exact absurd member List.not_mem_nil
  | @cons id above further ih =>
      rw [List.length_cons]
      rcases List.mem_cons.mp member with rfl | member
      · exact ⟨above, further, Nat.lt_succ_self _⟩
      · obtain ⟨higher, climb, shorter⟩ := ih member
        exact ⟨higher, climb, Nat.lt_succ_of_lt shorter⟩

/-- A way up does not come back to where it started. -/
theorem not_mem_self {id : NodeId} (climb : ust.Climb (ust.parent? id) order) : id ∉ order := by
  intro member
  obtain ⟨above, again, shorter⟩ := climb.exists_shorter member
  exact Nat.ne_of_lt shorter (congrArg List.length (again.unique climb))

theorem nodup (climb : ust.Climb next order) : order.Nodup := by
  induction climb with
  | nil => exact List.nodup_nil
  | cons further ih => exact List.nodup_cons.mpr ⟨further.not_mem_self, ih⟩

/-- The way up from a node ends at a node without a parent. -/
theorem exists_top {id : NodeId} (climb : ust.Climb (ust.parent? id) order) :
    ∃ top, ReflTransGen ust.Up id top ∧ ust.parent? top = none := by
  generalize start : ust.parent? id = next at climb
  induction climb generalizing id with
  | nil => exact ⟨id, .refl, start⟩
  | @cons parent above _ ih =>
      obtain ⟨top, path, parentless⟩ := ih rfl
      exact ⟨top, .head start path, parentless⟩

theorem exists_of_top {id top : NodeId} (path : ReflTransGen ust.Up id top)
    (parentless : ust.parent? top = none) : ∃ order, ust.Climb (ust.parent? id) order := by
  induction path using ReflTransGen.head_induction_on with
  | refl => exact ⟨[], parentless ▸ .nil⟩
  | @head child parent isUp _ ih =>
      obtain ⟨above, climb⟩ := ih
      exact ⟨parent :: above, isUp ▸ climb.cons⟩

end Climb

section Ends

variable {document : Document} {ust : Ust} {id : NodeId}

theorem chainEnds_iff_exists_climb :
    ust.ChainEnds id ↔ ∃ order, ust.Climb (ust.parent? id) order := by
  constructor
  · rintro ⟨count, short⟩
    exact ⟨_, .of_length_chain_lt short⟩
  · rintro ⟨order, climb⟩
    refine ⟨order.length + 1, ?_⟩
    rw [climb.chain_eq_take, List.take_of_length_le (Nat.le_succ _)]
    exact Nat.lt_succ_self _

/-- The way up ends exactly if it leads to a node without a parent. -/
theorem chainEnds_iff_exists_top :
    ust.ChainEnds id ↔ ∃ top, ReflTransGen ust.Up id top ∧ ust.parent? top = none := by
  rw [chainEnds_iff_exists_climb]
  constructor
  · rintro ⟨order, climb⟩
    exact climb.exists_top
  · rintro ⟨top, path, parentless⟩
    exact Climb.exists_of_top path parentless

theorem lt_of_parent? (accepted : ofDocument document = .ok ust) {parent child : NodeId}
    (parentEq : ust.parent? child = some parent) : parent.index < ust.size := by
  obtain ⟨⟨place, node, found, -, rfl⟩, -⟩ := exists_node_of_parent? accepted parentEq
  have placeLt : place < ust.size := (Array.getElem?_eq_some_iff.mp found).1
  exact Nat.lt_of_le_of_lt (Nat.mod_le place UInt32.size) placeLt

/-- A way up that ends has fewer nodes than the document. -/
theorem length_climb_lt (accepted : ofDocument document = .ok ust) {order : List NodeId}
    (climb : ust.Climb (ust.parent? id) order) : order.length < ust.size := by
  have rooted := rooted_of_ofDocument accepted
  cases parentEq : ust.parent? id with
  | none =>
      rw [parentEq] at climb
      cases climb
      exact Nat.zero_lt_of_lt rooted.root_lt
  | some parent =>
      have nodup : (id :: order).Nodup := List.nodup_cons.mpr ⟨climb.not_mem_self, climb.nodup⟩
      refine Rooted.length_le_size nodup ?_
      rw [List.forall_mem_cons]
      refine ⟨(exists_node_of_parent? accepted parentEq).2.1, fun node member => ?_⟩
      obtain ⟨first, isFirst, path⟩ := climb.mem_iff.mp member
      have isUp : ust.Up id first := isFirst
      obtain ⟨child, -, isUp⟩ := TransGen.tail'_iff.mp (TransGen.head' isUp path)
      exact lt_of_parent? accepted isUp

theorem climb_ancestors (accepted : ofDocument document = .ok ust) (ends : ust.ChainEnds id) :
    ust.Climb (ust.parent? id) (ust.ancestors id) := by
  obtain ⟨order, climb⟩ := chainEnds_iff_exists_climb.mp ends
  have enough := Nat.le_of_lt (length_climb_lt accepted climb)
  rwa [ancestors, climb.chain_eq_take, List.take_of_length_le enough]

theorem up_of_isChild (accepted : ofDocument document = .ok ust) {parent child : NodeId}
    (isChild : ust.IsChild parent child) : ust.Up child parent :=
  parent?_of_isChild accepted isChild

/-- From a node on a circle the way up goes round. -/
theorem not_above_self_of_chainEnds (accepted : ofDocument document = .ok ust)
    (ends : ust.ChainEnds id) : ¬ ust.Above id id := by
  intro circle
  have round : TransGen ust.Up id id :=
    TransGen.mono (fun _ _ => up_of_isChild accepted) _ _ (transGen_swap.mpr circle)
  have climb := climb_ancestors accepted ends
  exact climb.not_mem_self (climb.mem_iff.mpr (TransGen.head'_iff.mp round))

/-- Below a node whose way up ends, every way up ends. -/
theorem ChainEnds.of_reaches (accepted : ofDocument document = .ok ust) {top : NodeId}
    (ends : ust.ChainEnds top) (reached : ust.Reaches top id) : ust.ChainEnds id := by
  obtain ⟨last, path, parentless⟩ := chainEnds_iff_exists_top.mp ends
  have toTop : ReflTransGen ust.Up id top :=
    ReflTransGen.mono (fun _ _ => up_of_isChild accepted) _ _ (reflTransGen_swap.mpr reached)
  exact chainEnds_iff_exists_top.mpr ⟨last, toTop.trans path, parentless⟩

theorem parent?_root (accepted : ofDocument document = .ok ust) : ust.parent? ust.root = none := by
  rw [Option.eq_none_iff_forall_ne_some]
  intro parent found
  exact (exists_node_of_parent? accepted found).2.2 rfl

/-- The way up from the root has ended before it begins. -/
theorem chainEnds_root (accepted : ofDocument document = .ok ust) : ust.ChainEnds ust.root :=
  chainEnds_iff_exists_top.mpr ⟨ust.root, .refl, parent?_root accepted⟩

end Ends

end Ust

end TreeSieve
