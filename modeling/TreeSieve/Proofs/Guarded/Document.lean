import TreeSieve.Proofs.Guarded.Run
import TreeSieve.Proofs.Ust.Rooted

/-!
# Guarded acceptance

To accept a document is to check its references and to link the parents.  Guarded
acceptance keeps the nodes that it has seen as children in a table, and it writes the
table of parents entry by entry.  Nothing stops it, whatever the document is: no entry
of the first table is looked at before the reference is known to be in range, and the
second table is written only if all references are.
-/

namespace TreeSieve

namespace Guarded

/-! ## Checking and linking -/

/-- The first reference that leads nowhere, to the root, or to a node that is marked as
seen. -/
def linkFault (document : Document) : (seen : Array Bool) → List Link → Run (Option TreeFault)
  | _, [] => return none
  | seen, link :: rest => do
      if !document.hasNode link.child then
        return some (.missingChild link.kind link.parent link.child)
      else if link.child = document.root then return some (.secondParent link.child)
      else if ← read seen link.child.index then return some (.secondParent link.child)
      else
        let marked ← write seen link.child.index true
        linkFault document marked rest

/-- The first fault of a document. -/
def fault (document : Document) : Run (Option TreeFault) :=
  if !document.hasNode document.root then
    return some (.rootOutOfRange document.root document.nodes.size)
  else
    match document.comments.find? (fun comment => !document.hasNode comment) with
    | some comment => return some (.commentOutOfRange comment)
    | none => linkFault document (Array.replicate document.nodes.size false) document.links

/-- Write the parent of every child. -/
def writeParents (table : Array (Option NodeId)) : List Link → Run (Array (Option NodeId))
  | [] => return table
  | link :: rest => do
      let written ← write table link.child.index (some (NodeId.ofIndex link.parent))
      writeParents written rest

/-- Link every node to its parent.  The parents of a tree are linked once. -/
def linkParents (ust : Ust) : Run Ust :=
  match ust.parents with
  | some _ => .error .linkedTwice
  | none => do
      let table ← writeParents (Array.replicate ust.nodes.size none) ust.links
      return { ust with parents := some table }

/-- Accept a document without fault. -/
def ofDocument (document : Document) : Run (Except TreeFault Ust) := do
  match ← fault document with
  | some fault => return .error fault
  | none =>
      let ust ← linkParents { toDocument := { document with file := document.file.indexed } }
      return .ok ust

/-! ## Nothing is out of range -/

/-- A table marks exactly the nodes of a list. -/
structure Marks (document : Document) (table : Array Bool) (seen : List NodeId) : Prop where
  size_eq : table.size = document.nodes.size
  entry : ∀ id : NodeId, document.hasNode id = true → table[id.index]? = some (seen.contains id)

theorem marks_replicate (document : Document) :
    Marks document (Array.replicate document.nodes.size false) [] := by
  refine ⟨Array.size_replicate, fun id present => ?_⟩
  rw [Array.getElem?_replicate, if_pos (of_decide_eq_true present), List.contains_nil]

/-- Marking one more node. -/
theorem Marks.cons {document : Document} {table : Array Bool} {seen : List NodeId}
    (marks : Marks document table seen) {child : NodeId}
    (present : document.hasNode child = true) :
    Marks document (table.setIfInBounds child.index true) (child :: seen) := by
  refine ⟨by rw [Array.size_setIfInBounds, marks.size_eq], fun id isNode => ?_⟩
  have inRange : child.index < table.size := marks.size_eq ▸ of_decide_eq_true present
  rw [List.contains_cons]
  by_cases same : child = id
  · rw [same, Array.getElem?_setIfInBounds_self_of_lt (same ▸ inRange), beq_self_eq_true,
      Bool.true_or]
  · have indexNe : child.index ≠ id.index := fun equal => same (NodeId.index_injective equal)
    rw [Array.getElem?_setIfInBounds_ne indexNe, marks.entry id isNode,
      beq_false_of_ne (Ne.symm same), Bool.false_or]

theorem linkFault_eq_ok {document : Document} {table : Array Bool} {seen : List NodeId}
    (marks : Marks document table seen) (links : List Link) :
    linkFault document table links = .ok (document.linkFault? seen links) := by
  induction links generalizing table seen with
  | nil => rfl
  | cons link rest ih =>
      rw [linkFault, Document.linkFault?]
      by_cases present : document.hasNode link.child = true
      · have inRange : link.child.index < table.size :=
          marks.size_eq ▸ of_decide_eq_true present
        have entry : read table link.child.index = .ok (seen.contains link.child) := by
          have entryEq := marks.entry link.child present
          rw [Array.getElem?_eq_getElem inRange, Option.some.injEq] at entryEq
          rw [read, dif_pos inRange, entryEq]
        simp only [present, Bool.not_true, Bool.false_eq_true, if_false]
        by_cases isRoot : link.child = document.root
        · rw [if_pos isRoot, if_pos (.inl isRoot)]
          rfl
        · rw [if_neg isRoot, entry]
          cases repeated : seen.contains link.child with
          | true =>
              rw [if_pos (.inr rfl)]
              rfl
          | false =>
              rw [if_neg (not_or.mpr ⟨isRoot, Bool.false_ne_true⟩), ← ih (marks.cons present)]
              change (write table link.child.index true >>= _) = _
              rw [write_eq_ok inRange]
              rfl
      · simp only [present, Bool.not_false, if_true]
        rfl

theorem fault_eq_ok (document : Document) : fault document = .ok document.fault? := by
  unfold fault Document.fault?
  split
  · rfl
  · cases document.comments.find? (fun comment => !document.hasNode comment) with
    | some comment => rfl
    | none => exact linkFault_eq_ok (marks_replicate document) document.links

theorem writeParents_eq_ok {links : List Link} {table : Array (Option NodeId)}
    (inRange : ∀ link ∈ links, link.child.index < table.size) :
    writeParents table links = .ok (links.foldl (fun table link =>
      table.setIfInBounds link.child.index (some (NodeId.ofIndex link.parent))) table) := by
  induction links generalizing table with
  | nil => rfl
  | cons link rest ih =>
      rw [writeParents, write_eq_ok (inRange link List.mem_cons_self), List.foldl_cons]
      refine ih fun other member => ?_
      rw [Array.size_setIfInBounds]
      exact inRange other (List.mem_cons_of_mem link member)

/-- The parents are linked if they have not been and no reference leads nowhere. -/
theorem linkParents_eq_ok (ust : Ust) (unlinked : ust.parents = none)
    (inRange : ∀ link ∈ ust.links, link.child.index < ust.size) :
    linkParents ust = .ok { ust with parents := some (Ust.parentTable ust.toDocument) } := by
  rw [linkParents, unlinked, writeParents_eq_ok (by rwa [Array.size_replicate])]
  rfl

example : linkParents .sampleField = .error .linkedTwice :=
  rfl

/-- Nothing stops guarded acceptance, and it comes to what acceptance comes to. -/
theorem ofDocument_eq_ok (document : Document) :
    ofDocument document = .ok (Ust.ofDocument document) := by
  rw [ofDocument, fault_eq_ok, Ust.ofDocument]
  cases sound : document.fault? with
  | some fault => rfl
  | none =>
      have eachLink := ((document.linkFault?_eq_none_iff [] document.links).mp
        (Document.sound_of_fault?_eq_none sound).2.2).1
      have linked := linkParents_eq_ok
        { toDocument := { document with file := document.file.indexed } } rfl
        fun link member => of_decide_eq_true (eachLink link member).1
      change (linkParents _ >>= _) = _
      rw [linked]
      rfl

end Guarded

end TreeSieve
