import TreeSieve.Proofs.Ust.Circles

/-!
# The ways up and down

The table of parents is filled by one pass over all references, and a later
reference overwrites an earlier one.  In an accepted document no two references
lead to one node, so the table has the parent of every child and of nothing else.
The way up through the table is then the way down along the children, reversed:
from a node under the root it visits every node above it once, the nearest first,
and ends at the root.
-/

namespace TreeSieve

namespace Ust

open Relation

namespace Climb

variable {ust : Ust} {id : NodeId} {order : List NodeId}

/-- Every node on the way up is the parent of the one before it. -/
theorem isChain (climb : ust.Climb (ust.parent? id) order) : (id :: order).IsChain ust.Up := by
  generalize start : ust.parent? id = next at climb
  induction climb generalizing id with
  | nil => exact .singleton id
  | @cons parent above _ ih => exact .cons_cons start (ih rfl)

/-- The way up goes on as long as there are parents. -/
theorem parent?_getLast (climb : ust.Climb (ust.parent? id) order) :
    ust.parent? ((id :: order).getLast (List.cons_ne_nil id order)) = none := by
  generalize start : ust.parent? id = next at climb
  induction climb generalizing id with
  | nil => exact start
  | @cons parent above _ ih =>
      rw [List.getLast_cons (List.cons_ne_nil parent above)]
      exact ih rfl

end Climb

section Ancestors

variable {document : Document} {ust : Ust} {id : NodeId}

/-- The only node under the root without a parent is the root. -/
theorem eq_root_of_parent?_eq_none (accepted : ofDocument document = .ok ust)
    (reached : ust.Reaches ust.root id) (parentless : ust.parent? id = none) : id = ust.root := by
  rcases reached.cases_tail with isRoot | ⟨parent, -, isChild⟩
  · exact isRoot
  · rw [parent?_of_isChild accepted isChild] at parentless
    contradiction

/-- The table leads upwards where the children lead downwards. -/
theorem transGen_up_iff (accepted : ofDocument document = .ok ust)
    (small : document.nodes.size ≤ UInt32.size) {upper lower : NodeId} :
    TransGen ust.Up lower upper ↔ ust.Above upper lower := by
  have reversed : ust.Up = Function.swap ust.IsChild := by
    funext child parent
    exact propext (parent?_eq_some_iff accepted small)
  rw [reversed]
  exact transGen_swap

theorem climb_ancestors_of_reaches (accepted : ofDocument document = .ok ust)
    (reached : ust.Reaches ust.root id) : ust.Climb (ust.parent? id) (ust.ancestors id) :=
  climb_ancestors accepted ((chainEnds_root accepted).of_reaches accepted reached)

theorem mem_ancestors_iff (accepted : ofDocument document = .ok ust)
    (small : document.nodes.size ≤ UInt32.size) (reached : ust.Reaches ust.root id)
    {upper : NodeId} : upper ∈ ust.ancestors id ↔ ust.Above upper id := by
  rw [(climb_ancestors_of_reaches accepted reached).mem_iff, ← transGen_up_iff accepted small]
  exact (TransGen.head'_iff (r := ust.Up)).symm

theorem isAncestor_iff (accepted : ofDocument document = .ok ust)
    (small : document.nodes.size ≤ UInt32.size) (reached : ust.Reaches ust.root id)
    {upper : NodeId} : ust.isAncestor upper id = true ↔ ust.Above upper id := by
  rw [isAncestor, List.contains_iff_mem]
  exact mem_ancestors_iff accepted small reached

/-- The way up from a node under the root ends at the root. -/
theorem getLast_ancestors (accepted : ofDocument document = .ok ust)
    (small : document.nodes.size ≤ UInt32.size) (reached : ust.Reaches ust.root id) :
    (id :: ust.ancestors id).getLast (List.cons_ne_nil id (ust.ancestors id)) = ust.root := by
  have rooted := rooted_of_ofDocument accepted
  have parentless := (climb_ancestors_of_reaches accepted reached).parent?_getLast
  have member := List.getLast_mem (List.cons_ne_nil id (ust.ancestors id))
  apply eq_root_of_parent?_eq_none accepted _ parentless
  rcases List.mem_cons.mp member with itself | above
  · rwa [itself]
  · have path := (mem_ancestors_iff accepted small reached).mp above
    exact rooted.reaches_of_above reached path.to_reflTransGen

/-- The table of parents of an accepted document has exactly the parents, and none
for the root.  Under the root one node is found on the way up from another exactly if
the other is found on the walk below it.  The way up from a node there ends, however
many steps it is given: it has every node above the node once and nothing else, each
is the parent of the one before it, and the last is the root.  No node there is its
own ancestor. -/
theorem parents_ancestors_descendants_agree (accepted : ofDocument document = .ok ust)
    (small : document.nodes.size ≤ UInt32.size) :
    (∀ parent child, ust.parent? child = some parent ↔ child ∈ ust.children parent) ∧
      ust.parent? ust.root = none ∧
        (∀ upper lower, ust.Reaches ust.root upper → ust.Reaches ust.root lower →
          (ust.isAncestor upper lower = true ↔ lower ∈ ust.descendants upper)) ∧
          ∀ id, ust.Reaches ust.root id →
            (∀ count, ust.chain count (ust.parent? id) = (ust.ancestors id).take count) ∧
              (∀ upper, upper ∈ ust.ancestors id ↔ ust.Above upper id) ∧
                (ust.ancestors id).Nodup ∧
                  (id :: ust.ancestors id).IsChain
                    (fun lower upper => lower ∈ ust.children upper) ∧
                    (id :: ust.ancestors id).getLast? = some ust.root ∧
                      ust.isAncestor id id = false := by
  have rooted := rooted_of_ofDocument accepted
  constructor
  · intro parent child
    exact parent?_eq_some_iff accepted small
  constructor
  · exact parent?_root accepted
  constructor
  · intro upper lower upperReached lowerReached
    rw [isAncestor_iff accepted small lowerReached, rooted.mem_descendants_iff upperReached]
  intro id reached
  have climb := climb_ancestors_of_reaches accepted reached
  constructor
  · exact climb.chain_eq_take
  constructor
  · intro upper
    exact mem_ancestors_iff accepted small reached
  constructor
  · exact climb.nodup
  constructor
  · apply climb.isChain.imp
    intro lower upper isUp
    exact (parent?_eq_some_iff accepted small).mp isUp
  constructor
  · rw [List.getLast?_eq_some_getLast (List.cons_ne_nil id (ust.ancestors id)),
      getLast_ancestors accepted small reached]
  · rw [Bool.eq_false_iff, ne_eq, isAncestor_iff accepted small reached]
    exact rooted.not_above_self reached

/-- In the sample the name of the variable has the variable and the field above it,
and it is found below both. -/
theorem ancestors_sampleField :
    ofDocument Document.sampleField = .ok sampleField ∧
      sampleField.Reaches sampleField.root ⟨3⟩ ∧ sampleField.ancestors ⟨3⟩ = [⟨2⟩, ⟨0⟩] ∧
        sampleField.Above ⟨2⟩ ⟨3⟩ ∧ (⟨3⟩ : NodeId) ∈ sampleField.descendants ⟨0⟩ ∧
          sampleField.isAncestor ⟨3⟩ ⟨3⟩ = false := by
  have toVariable : sampleField.Reaches sampleField.root ⟨2⟩ :=
    .single (show (⟨2⟩ : NodeId) ∈ sampleField.children ⟨0⟩ by decide)
  have reached : sampleField.Reaches sampleField.root ⟨3⟩ :=
    toVariable.tail (show (⟨3⟩ : NodeId) ∈ sampleField.children ⟨2⟩ by decide)
  obtain ⟨-, -, agree, ways⟩ :=
    parents_ancestors_descendants_agree ofDocument_sampleField (by decide)
  obtain ⟨-, above, -, -, -, notItself⟩ := ways ⟨3⟩ reached
  refine ⟨ofDocument_sampleField, reached, rfl, ?_, ?_, notItself⟩
  · exact (above ⟨2⟩).mp (by decide)
  · exact (agree ⟨0⟩ ⟨3⟩ .refl reached).mp rfl

end Ancestors

end Ust

end TreeSieve
