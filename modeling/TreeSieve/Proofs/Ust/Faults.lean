import Mathlib.Data.Prod.Lex
import TreeSieve.Failure
import TreeSieve.Proofs.Ust.Rooted

/-!
# The first fault of a document

A document is checked with one pass over its references that remembers the nodes
it has seen as children.  `Document.Sound` says what the pass looks for without
the pass, as a property of the positions at which children are named, and
`Document.FirstFault` says which fault is the first one.

The pass goes through the references as a list.  Their positions are in
increasing order there, so what the pass has seen is what stands at earlier
positions, and the fault it stops at is the one at the least position that has
one.
-/

namespace TreeSieve

namespace Document

/-! ## Positions -/

/-- The reference at a position: a place in the list of nodes and a place among
the children of the node there.  Positions are compared by the former first. -/
def linkAt? (document : Document) (position : Nat ×ₗ Nat) : Option Link := do
  let node ← document.nodes[(ofLex position).1]?
  let child ← node.kind.children[(ofLex position).2]?
  return ⟨(ofLex position).1, node.kind.name, child⟩

/-- Root, comments and children are nodes, the root is at no position, and no
node is at two. -/
structure Sound (document : Document) : Prop where
  root_lt : document.root.index < document.nodes.size
  comment_lt : ∀ comment ∈ document.comments, comment.index < document.nodes.size
  child_lt : ∀ {position link}, document.linkAt? position = some link →
    link.child.index < document.nodes.size
  child_ne_root : ∀ {position link}, document.linkAt? position = some link →
    link.child ≠ document.root
  position_unique : ∀ {first second link other}, document.linkAt? first = some link →
    document.linkAt? second = some other → link.child = other.child → first = second

/-- The reference at a position is at fault: it leads nowhere, to the root, or to
a node that an earlier reference leads to. -/
inductive FaultAt (document : Document) (position : Nat ×ₗ Nat) : TreeFault → Prop
  | missing {link : Link} (linked : document.linkAt? position = some link)
      (outside : ¬ link.child.index < document.nodes.size) :
      FaultAt document position (.missingChild link.kind link.parent link.child)
  | root {link : Link} (linked : document.linkAt? position = some link)
      (isRoot : link.child = document.root) :
      FaultAt document position (.secondParent link.child)
  | shared {earlier : Nat ×ₗ Nat} {link other : Link}
      (linked : document.linkAt? position = some link) (before : earlier < position)
      (otherLinked : document.linkAt? earlier = some other)
      (sameChild : other.child = link.child) :
      FaultAt document position (.secondParent link.child)

theorem hasNode_iff {document : Document} {id : NodeId} :
    document.hasNode id = true ↔ id.index < document.nodes.size := by
  simp [hasNode]

theorem linkAt?_eq_some_iff {document : Document} {position : Nat ×ₗ Nat} {link : Link} :
    document.linkAt? position = some link ↔
      ∃ node, document.nodes[(ofLex position).1]? = some node ∧
        node.kind.children[(ofLex position).2]? = some link.child ∧
          link.parent = (ofLex position).1 ∧ link.kind = node.kind.name := by
  simp only [linkAt?, Option.bind_eq_bind, Option.bind_eq_some_iff, Option.pure_def,
    Option.some_inj]
  constructor
  · rintro ⟨node, found, child, named, rfl⟩
    exact ⟨node, found, named, rfl, rfl⟩
  · rintro ⟨node, found, named, parentEq, kindEq⟩
    refine ⟨node, found, link.child, named, ?_⟩
    rw [← parentEq, ← kindEq]

/-! ## References in order -/

/-- The references of nodes that lie from `start` on, with their positions. -/
def placedFrom (start : Nat) : List Node → List ((Nat ×ₗ Nat) × Link)
  | [] => []
  | node :: rest =>
      node.kind.children.zipIdx.map
          (fun child => (toLex (start, child.2), ⟨start, node.kind.name, child.1⟩)) ++
        placedFrom (start + 1) rest

/-- The references of a document with their positions. -/
def placed (document : Document) : List ((Nat ×ₗ Nat) × Link) :=
  placedFrom 0 document.nodes.toList

theorem map_snd_placedFrom (start : Nat) (nodes : List Node) :
    (placedFrom start nodes).map Prod.snd = linksFrom start nodes := by
  induction nodes generalizing start with
  | nil => rfl
  | cons node rest ih =>
      rw [placedFrom, linksFrom, List.map_append, ih, List.map_map]
      congr 1
      conv_rhs => rw [← List.zipIdx_map_fst 0 node.kind.children, List.map_map]
      rfl

theorem map_snd_placed (document : Document) :
    document.placed.map Prod.snd = document.links :=
  map_snd_placedFrom 0 document.nodes.toList

theorem mem_placedFrom_iff {start : Nat} {nodes : List Node} {position : Nat ×ₗ Nat}
    {link : Link} :
    (position, link) ∈ placedFrom start nodes ↔
      ∃ offset rank node, nodes[offset]? = some node ∧
        node.kind.children[rank]? = some link.child ∧
          position = toLex (start + offset, rank) ∧ link.parent = start + offset ∧
            link.kind = node.kind.name := by
  induction nodes generalizing start with
  | nil => simp [placedFrom]
  | cons first rest ih =>
      rw [placedFrom, List.mem_append, ih]
      constructor
      · rintro (here | ⟨offset, rank, node, found, named, rfl, parentEq, kindEq⟩)
        · rcases List.mem_map.mp here with ⟨⟨child, rank⟩, member, equal⟩
          cases equal
          exact ⟨0, rank, first, rfl, List.mk_mem_zipIdx_iff_getElem?.mp member, rfl, rfl, rfl⟩
        · have shifted : start + 1 + offset = start + (offset + 1) := by omega
          exact ⟨offset + 1, rank, node, found, named, by rw [shifted], by omega, kindEq⟩
      · rintro ⟨offset, rank, node, found, named, rfl, parentEq, kindEq⟩
        cases offset with
        | zero =>
            cases found
            refine Or.inl (List.mem_map.mpr
              ⟨(link.child, rank), List.mk_mem_zipIdx_iff_getElem?.mpr named, ?_⟩)
            cases link
            simp_all
        | succ offset =>
            have shifted : start + (offset + 1) = start + 1 + offset := by omega
            exact Or.inr ⟨offset, rank, node, found, named, by rw [shifted], by omega, kindEq⟩

theorem mem_placed_iff {document : Document} {position : Nat ×ₗ Nat} {link : Link} :
    (position, link) ∈ document.placed ↔ document.linkAt? position = some link := by
  rw [placed, mem_placedFrom_iff, linkAt?_eq_some_iff]
  simp only [Nat.zero_add, Array.getElem?_toList]
  constructor
  · rintro ⟨offset, rank, node, found, named, rfl, parentEq, kindEq⟩
    exact ⟨node, found, named, parentEq, kindEq⟩
  · rintro ⟨node, found, named, parentEq, kindEq⟩
    exact ⟨(ofLex position).1, (ofLex position).2, node, found, named, rfl, parentEq, kindEq⟩

/-- The list of references goes through the positions in increasing order. -/
theorem pairwise_placedFrom (start : Nat) (nodes : List Node) :
    (placedFrom start nodes).Pairwise fun earlier later => earlier.1 < later.1 := by
  induction nodes generalizing start with
  | nil => exact List.Pairwise.nil
  | cons node rest ih =>
      rw [placedFrom, List.pairwise_append]
      constructor
      · rw [List.pairwise_map]
        have ranks : (node.kind.children.zipIdx.map Prod.snd).Pairwise (· < ·) := by
          rw [List.zipIdx_map_snd]
          exact List.pairwise_lt_range'
        apply (List.pairwise_map.mp ranks).imp
        intro earlier later rankLt
        exact Prod.Lex.toLex_lt_toLex.mpr (Or.inr ⟨rfl, rankLt⟩)
      constructor
      · exact ih (start + 1)
      · rintro earlier here ⟨position, link⟩ there
        rcases List.mem_map.mp here with ⟨child, -, rfl⟩
        rcases mem_placedFrom_iff.mp there with ⟨offset, rank, node, -, -, rfl, -⟩
        exact Prod.Lex.toLex_lt_toLex.mpr (Or.inl (by omega))

theorem pairwise_placed (document : Document) :
    document.placed.Pairwise fun earlier later => earlier.1 < later.1 :=
  pairwise_placedFrom 0 document.nodes.toList

/-! ## The pass over the references -/

section Pass

variable {document : Document} {seen : List NodeId} {link : Link} {rest : List Link}

theorem linkFault?_cons_of_missing (missing : document.hasNode link.child = false) :
    document.linkFault? seen (link :: rest) =
      some (.missingChild link.kind link.parent link.child) := by
  simp [linkFault?, missing]

theorem linkFault?_cons_of_refused (present : document.hasNode link.child = true)
    (refused : link.child = document.root ∨ link.child ∈ seen) :
    document.linkFault? seen (link :: rest) = some (.secondParent link.child) := by
  simp [linkFault?, present, refused]

theorem linkFault?_cons_of_admitted (present : document.hasNode link.child = true)
    (admitted : ¬ (link.child = document.root ∨ link.child ∈ seen)) :
    document.linkFault? seen (link :: rest) = document.linkFault? (link.child :: seen) rest := by
  simp [linkFault?, present, admitted]

/-- The pass stops at a reference: it leads nowhere, to the root or to a node
that was seen before. -/
inductive Stops (document : Document) (seen : List NodeId) (link : Link) : TreeFault → Prop
  | missing (missing : document.hasNode link.child = false) :
      Stops document seen link (.missingChild link.kind link.parent link.child)
  | refused (present : document.hasNode link.child = true)
      (refused : link.child = document.root ∨ link.child ∈ seen) :
      Stops document seen link (.secondParent link.child)

theorem linkFault?_cons_of_stops {fault : TreeFault} (stops : document.Stops seen link fault)
    (rest : List Link) : document.linkFault? seen (link :: rest) = some fault := by
  cases stops with
  | missing missing => exact linkFault?_cons_of_missing missing
  | refused present refused => exact linkFault?_cons_of_refused present refused

theorem exists_stops_or_admitted (document : Document) (seen : List NodeId) (link : Link) :
    (∃ fault, document.Stops seen link fault) ∨
      ∀ rest, document.linkFault? seen (link :: rest) =
        document.linkFault? (link.child :: seen) rest := by
  cases present : document.hasNode link.child with
  | false => exact Or.inl ⟨_, .missing present⟩
  | true =>
      by_cases refused : link.child = document.root ∨ link.child ∈ seen
      · exact Or.inl ⟨_, .refused present refused⟩
      · exact Or.inr fun rest => linkFault?_cons_of_admitted present refused

/-- The pass ends with a fault exactly if it stops at a reference, has passed
those before it, and has seen their children. -/
theorem linkFault?_eq_some_iff {links : List Link} {fault : TreeFault} :
    document.linkFault? seen links = some fault ↔
      ∃ before link after, links = before ++ link :: after ∧
        document.linkFault? seen before = none ∧
          document.Stops ((before.map Link.child).reverse ++ seen) link fault := by
  induction links generalizing seen with
  | nil => simp [linkFault?]
  | cons first rest ih =>
      rcases document.exists_stops_or_admitted seen first with ⟨found, stops⟩ | admitted
      · rw [linkFault?_cons_of_stops stops, Option.some_inj]
        constructor
        · rintro rfl
          exact ⟨[], first, rest, rfl, rfl, stops⟩
        · rintro ⟨before, link, after, split, passed, laterStops⟩
          cases before with
          | nil =>
              cases split
              have same := (linkFault?_cons_of_stops stops []).symm.trans
                (linkFault?_cons_of_stops laterStops [])
              exact Option.some_inj.mp same
          | cons other before =>
              cases split
              rw [linkFault?_cons_of_stops stops] at passed
              contradiction
      · rw [admitted, ih]
        constructor
        · rintro ⟨before, link, after, rfl, passed, stops⟩
          refine ⟨first :: before, link, after, rfl, (admitted before).trans passed, ?_⟩
          simpa using stops
        · rintro ⟨before, link, after, split, passed, stops⟩
          cases before with
          | nil =>
              cases split
              have stopped := linkFault?_cons_of_stops stops []
              rw [List.map_nil, List.reverse_nil, List.nil_append, admitted] at stopped
              contradiction
          | cons other before =>
              cases split
              rw [admitted] at passed
              exact ⟨before, link, after, rfl, passed, by simpa using stops⟩

end Pass

/-! ## Faults and positions -/

section Positions

variable {document : Document}

/-- References at increasing positions have different children if none of them
is shared with an earlier one. -/
theorem nodup_children_of_unshared {placed : List ((Nat ×ₗ Nat) × Link)}
    (sorted : placed.Pairwise fun earlier later => earlier.1 < later.1)
    (unshared : ∀ earlier ∈ placed, ∀ later ∈ placed, earlier.1 < later.1 →
      earlier.2.child ≠ later.2.child) :
    ((placed.map Prod.snd).map Link.child).Nodup := by
  rw [List.map_map, List.Nodup, List.pairwise_map]
  apply sorted.imp_of_mem
  intro earlier later isEarlier isLater before
  exact unshared earlier isEarlier later isLater before

/-- The pass goes through references at positions without fault. -/
theorem linkFault?_eq_none_of_faultless {placed : List ((Nat ×ₗ Nat) × Link)}
    (sorted : placed.Pairwise fun earlier later => earlier.1 < later.1)
    (linked : ∀ position link, (position, link) ∈ placed →
      document.linkAt? position = some link)
    (faultless : ∀ position link, (position, link) ∈ placed → ∀ fault,
      ¬ document.FaultAt position fault) :
    document.linkFault? [] (placed.map Prod.snd) = none := by
  rw [linkFault?_eq_none_iff]
  constructor
  · intro link member
    rcases List.mem_map.mp member with ⟨⟨position, link⟩, isPlaced, rfl⟩
    have isLinked := linked position link isPlaced
    constructor
    · rw [hasNode_iff]
      by_contra outside
      exact faultless position link isPlaced _ (.missing isLinked outside)
    constructor
    · intro isRoot
      exact faultless position link isPlaced _ (.root isLinked isRoot)
    · exact List.not_mem_nil
  · apply nodup_children_of_unshared sorted
    rintro ⟨earlier, other⟩ isEarlier ⟨later, link⟩ isLater before sameChild
    exact faultless later link isLater _
      (.shared (linked later link isLater) before (linked earlier other isEarlier) sameChild)

end Positions

/-! ## Acceptance -/

section Acceptance

variable {document : Document}

theorem Sound.not_faultAt (sound : document.Sound) {position : Nat ×ₗ Nat} {fault : TreeFault} :
    ¬ document.FaultAt position fault := by
  intro faulty
  cases faulty with
  | missing linked outside => exact outside (sound.child_lt linked)
  | root linked isRoot => exact sound.child_ne_root linked isRoot
  | shared linked before otherLinked sameChild =>
      exact before.ne (sound.position_unique otherLinked linked sameChild)

theorem find?_comments_eq_none_iff :
    document.comments.find? (fun comment => !document.hasNode comment) = none ↔
      ∀ comment ∈ document.comments, comment.index < document.nodes.size := by
  simp [hasNode]

/-- The check passes exactly the sound documents. -/
theorem fault?_eq_none_iff : document.fault? = none ↔ document.Sound := by
  constructor
  · intro passed
    obtain ⟨rootPresent, commentsPresent, linksPassed⟩ := sound_of_fault?_eq_none passed
    rw [linkFault?_eq_none_iff, ← map_snd_placed] at linksPassed
    obtain ⟨checked, nodup⟩ := linksPassed
    have checkedAt : ∀ {position link}, document.linkAt? position = some link →
        document.hasNode link.child = true ∧ link.child ≠ document.root ∧ link.child ∉ [] :=
      fun linked => checked _ (List.mem_map_of_mem (mem_placed_iff.mpr linked))
    refine ⟨hasNode_iff.mp rootPresent, ?_, ?_, ?_, ?_⟩
    · intro comment member
      exact hasNode_iff.mp (commentsPresent comment member)
    · intro position link linked
      exact hasNode_iff.mp (checkedAt linked).1
    · intro position link linked
      exact (checkedAt linked).2.1
    · intro first second link other linked otherLinked sameChild
      rw [List.map_map] at nodup
      have same := List.inj_on_of_nodup_map nodup (mem_placed_iff.mpr linked)
        (mem_placed_iff.mpr otherLinked) sameChild
      exact congrArg Prod.fst same
  · intro sound
    have commentsPresent := find?_comments_eq_none_iff.mpr sound.comment_lt
    have linksPassed : document.linkFault? [] document.links = none := by
      rw [← map_snd_placed]
      apply linkFault?_eq_none_of_faultless document.pairwise_placed
      · intro position link member
        exact mem_placed_iff.mp member
      · intro position link _ fault
        exact sound.not_faultAt
    simp only [fault?, hasNode_iff.mpr sound.root_lt, commentsPresent, linksPassed,
      Bool.not_true, Bool.false_eq_true, if_false]

end Acceptance

end Document

namespace Ust

open Document

theorem ofDocument_eq_ok_iff {document : Document} {ust : Ust} :
    ofDocument document = .ok ust ↔
      document.Sound ∧
        ust = { toDocument := { document with file := document.file.indexed },
                parents := some (parentTable document) } := by
  rw [← fault?_eq_none_iff]
  constructor
  · exact eq_of_ofDocument
  · rintro ⟨passed, rfl⟩
    simp only [ofDocument, passed]

theorem ofText_of_document {text : String} {document : Document}
    (read : Document.ofText text = .ok document) :
    ofText text = (ofDocument document).mapError (.conversion document.file.path) := by
  rw [ofText, read]
  rfl

end Ust

end TreeSieve
