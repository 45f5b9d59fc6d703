import Mathlib.Data.Fintype.EquivFin
import Mathlib.Data.List.Nodup
import Mathlib.Logic.Relation
import TreeSieve.Ust.Tree

/-!
# Rooted trees

An accepted document is only checked for references that lead nowhere, lead to
the root or lead to one node twice.  This module turns the check into a graph
property, `Ust.Rooted`, and shows that it rules out circles under the root: a
circle would give its first node on the way from the root a second parent.

The table of parents is related to the same graph, as long as every place of
the list of nodes can be written as a reference.
-/

namespace TreeSieve

open Relation

theorem NodeId.index_injective : Function.Injective NodeId.index := by
  rintro ⟨first⟩ ⟨second⟩ indexEq
  exact congrArg NodeId.mk (UInt32.toNat_inj.mp indexEq)

theorem NodeId.index_ofIndex {index : Nat} (small : index < UInt32.size) :
    (NodeId.ofIndex index).index = index :=
  UInt32.toNat_ofNat_of_lt' small

theorem NodeId.ofIndex_index (id : NodeId) : NodeId.ofIndex id.index = id :=
  congrArg NodeId.mk UInt32.ofNat_toNat

instance : Finite NodeId :=
  Finite.of_injective (fun id : NodeId => id.value.toBitVec.toFin) fun _ _ equal =>
    NodeId.index_injective (congrArg Fin.val equal)

/-! ## References of a document -/

namespace Document

theorem mem_linksFrom_iff {link : Link} {start : Nat} {nodes : List Node} :
    link ∈ linksFrom start nodes ↔
      ∃ offset node, nodes[offset]? = some node ∧
        link.parent = start + offset ∧ link.kind = node.kind.name ∧
          link.child ∈ node.kind.children := by
  induction nodes generalizing start with
  | nil => simp [linksFrom]
  | cons first rest ih =>
      rw [linksFrom, List.mem_append, ih]
      constructor
      · rintro (atFirst | ⟨offset, node, found, parentEq, fields⟩)
        · rcases List.mem_map.mp atFirst with ⟨child, member, rfl⟩
          exact ⟨0, first, rfl, rfl, rfl, member⟩
        · exact ⟨offset + 1, node, found, by omega, fields⟩
      · rintro ⟨offset, node, found, parentEq, kindEq, member⟩
        cases offset with
        | zero =>
            cases found
            refine Or.inl (List.mem_map.mpr ⟨link.child, member, ?_⟩)
            cases link
            simp_all
        | succ offset =>
            exact Or.inr ⟨offset, node, found, by omega, kindEq, member⟩

/-- The references of a document are the children of its nodes. -/
theorem mem_links_iff {document : Document} {link : Link} :
    link ∈ document.links ↔
      ∃ node, document.nodes[link.parent]? = some node ∧
        link.kind = node.kind.name ∧ link.child ∈ node.kind.children := by
  rw [links, mem_linksFrom_iff]
  constructor
  · rintro ⟨offset, node, found, parentEq, fields⟩
    rw [Nat.zero_add] at parentEq
    exact ⟨node, by simpa [parentEq] using found, fields⟩
  · rintro ⟨node, found, fields⟩
    exact ⟨link.parent, node, by simpa using found, (Nat.zero_add _).symm, fields⟩

theorem map_child_linksFrom (start : Nat) (nodes : List Node) :
    (linksFrom start nodes).map Link.child = nodes.flatMap (·.kind.children) := by
  induction nodes generalizing start with
  | nil => rfl
  | cons first rest ih =>
      rw [linksFrom, List.map_append, ih, List.flatMap_cons, List.map_map]
      exact congrArg (· ++ _) (List.map_id _)

/-- A list of references passes the check exactly when each of them leads to a
node other than the root that no other reference, nor one seen before, leads
to. -/
theorem linkFault?_eq_none_iff (document : Document) (seen : List NodeId) (links : List Link) :
    document.linkFault? seen links = none ↔
      (∀ link ∈ links, document.hasNode link.child = true ∧ link.child ≠ document.root ∧
        link.child ∉ seen) ∧ (links.map Link.child).Nodup := by
  induction links generalizing seen with
  | nil => simp [linkFault?]
  | cons link rest ih =>
      rw [linkFault?]
      split
      · rename_i missing
        simp_all
      · rename_i present
        split
        · rename_i refused
          simp only [reduceCtorEq, false_iff]
          rintro ⟨sound, -⟩
          rcases sound link List.mem_cons_self with ⟨-, notRoot, notSeen⟩
          exact refused.elim notRoot fun contained => notSeen (by simpa using contained)
        · rename_i admitted
          obtain ⟨notRoot, notContained⟩ := not_or.mp admitted
          have here : document.hasNode link.child = true ∧ link.child ≠ document.root ∧
              link.child ∉ seen :=
            ⟨by simpa using present, notRoot, by simpa using notContained⟩
          rw [ih, List.map_cons, List.nodup_cons]
          constructor
          · rintro ⟨sound, nodup⟩
            refine ⟨?_, ?_, nodup⟩
            · intro other member
              rcases List.mem_cons.mp member with rfl | member
              · exact here
              · rcases sound other member with ⟨otherPresent, otherNotRoot, notSeen⟩
                exact ⟨otherPresent, otherNotRoot,
                  fun isSeen => notSeen (List.mem_cons_of_mem link.child isSeen)⟩
            · intro member
              rcases List.mem_map.mp member with ⟨other, inRest, same⟩
              exact (sound other inRest).2.2 (same ▸ List.mem_cons_self)
          · rintro ⟨sound, notRepeated, nodup⟩
            refine ⟨?_, nodup⟩
            intro other member
            rcases sound other (List.mem_cons_of_mem link member) with
              ⟨otherPresent, otherNotRoot, notSeen⟩
            refine ⟨otherPresent, otherNotRoot, ?_⟩
            rw [List.mem_cons, not_or]
            exact ⟨fun same => notRepeated (List.mem_map.mpr ⟨other, member, same⟩), notSeen⟩

/-- What the check of an accepted document has established. -/
theorem sound_of_fault?_eq_none {document : Document} (sound : document.fault? = none) :
    document.hasNode document.root = true ∧
      (∀ comment ∈ document.comments, document.hasNode comment = true) ∧
      document.linkFault? [] document.links = none := by
  unfold fault? at sound
  split at sound
  · contradiction
  · rename_i rootPresent
    split at sound
    · contradiction
    · rename_i commentsPresent
      refine ⟨by simpa using rootPresent, ?_, sound⟩
      intro comment member
      simpa using List.find?_eq_none.mp commentsPresent comment member

end Document

/-! ## The graph of a tree -/

namespace Ust

/-- One node has another among its children. -/
def IsChild (ust : Ust) (parent child : NodeId) : Prop :=
  child ∈ ust.children parent

/-- A node is another one or lies under it. -/
abbrev Reaches (ust : Ust) : NodeId → NodeId → Prop :=
  ReflTransGen ust.IsChild

/-- A node lies properly above another. -/
abbrev Above (ust : Ust) : NodeId → NodeId → Prop :=
  TransGen ust.IsChild

/-- The root is a node and nobody's child, and every child is a node with one
place in one list of children. -/
structure Rooted (ust : Ust) : Prop where
  root_lt : ust.root.index < ust.size
  child_lt : ∀ {parent child}, ust.IsChild parent child → child.index < ust.size
  root_not_child : ∀ parent, ¬ ust.IsChild parent ust.root
  parent_unique : ∀ {first second child},
    ust.IsChild first child → ust.IsChild second child → first = second
  children_nodup : ∀ id, (ust.children id).Nodup

theorem exists_kind?_of_lt {ust : Ust} {id : NodeId} (present : id.index < ust.size) :
    ∃ kind, ust.kind? id = some kind := by
  rw [kind?, node?, Array.getElem?_eq_getElem present]
  exact ⟨_, rfl⟩

theorem lt_of_kind? {ust : Ust} {id : NodeId} {kind : NodeKind}
    (kindEq : ust.kind? id = some kind) : id.index < ust.size := by
  obtain ⟨node, found, -⟩ := Option.map_eq_some_iff.mp kindEq
  exact (Array.getElem?_eq_some_iff.mp found).1

theorem children_of_kind? {ust : Ust} {id : NodeId} {kind : NodeKind}
    (kindEq : ust.kind? id = some kind) : ust.children id = kind.children := by
  rw [children, kindEq, Option.map_some, Option.getD_some]

theorem isChild_iff {ust : Ust} {parent child : NodeId} :
    ust.IsChild parent child ↔
      ∃ kind, ust.kind? parent = some kind ∧ child ∈ kind.children := by
  unfold IsChild children
  cases ust.kind? parent <;> simp

theorem isChild_of_kind? {ust : Ust} {id child : NodeId} {kind : NodeKind}
    (kindEq : ust.kind? id = some kind) (member : child ∈ kind.children) :
    ust.IsChild id child :=
  isChild_iff.mpr ⟨kind, kindEq, member⟩

/-- The children that a kind names are reached wherever the node is. -/
theorem reaches_of_kind? {ust : Ust} {above id child : NodeId} {kind : NodeKind}
    (reached : ust.Reaches above id) (kindEq : ust.kind? id = some kind)
    (member : child ∈ kind.children) : ust.Reaches above child :=
  reached.tail (isChild_of_kind? kindEq member)

/-- A child, seen from the list of nodes. -/
theorem isChild_iff_exists_node {ust : Ust} {parent child : NodeId} :
    ust.IsChild parent child ↔
      ∃ node, ust.nodes[parent.index]? = some node ∧ child ∈ node.kind.children := by
  rw [isChild_iff]
  simp only [kind?, node?, Option.map_eq_some_iff]
  constructor
  · rintro ⟨kind, ⟨node, found, rfl⟩, member⟩
    exact ⟨node, found, member⟩
  · rintro ⟨node, found, member⟩
    exact ⟨node.kind, ⟨node, found, rfl⟩, member⟩

/-- The references of a document whose children are all different give every
node at most one parent. -/
theorem eq_of_isChild_of_nodup {ust : Ust}
    (nodup : (ust.nodes.toList.flatMap (·.kind.children)).Nodup) {first second child : NodeId}
    (firstChild : ust.IsChild first child) (secondChild : ust.IsChild second child) :
    first = second := by
  rcases isChild_iff_exists_node.mp firstChild with ⟨firstNode, firstFound, firstMem⟩
  rcases isChild_iff_exists_node.mp secondChild with ⟨secondNode, secondFound, secondMem⟩
  have disjoint := List.pairwise_iff_getElem.mp (List.nodup_flatMap.mp nodup).2
  rw [← Array.getElem?_toList, List.getElem?_eq_some_iff] at firstFound secondFound
  rcases firstFound with ⟨firstLt, rfl⟩
  rcases secondFound with ⟨secondLt, rfl⟩
  apply NodeId.index_injective
  rcases Nat.lt_trichotomy first.index second.index with before | equal | behind
  · exact absurd secondMem (disjoint _ _ firstLt secondLt before firstMem)
  · exact equal
  · exact absurd firstMem (disjoint _ _ secondLt firstLt behind secondMem)

/-- An accepted tree has the nodes, the root and the comments of its document,
and its parents are those of the document. -/
theorem eq_of_ofDocument {document : Document} {ust : Ust}
    (accepted : ofDocument document = .ok ust) :
    document.fault? = none ∧
      ust = { toDocument := { document with file := document.file.indexed },
              parents := some (parentTable document) } := by
  unfold ofDocument at accepted
  split at accepted
  · contradiction
  · rename_i sound
    exact ⟨sound, (Except.ok.inj accepted).symm⟩

/-- Every accepted tree is rooted. -/
theorem rooted_of_ofDocument {document : Document} {ust : Ust}
    (accepted : ofDocument document = .ok ust) : ust.Rooted := by
  rcases eq_of_ofDocument accepted with ⟨sound, rfl⟩
  rcases Document.sound_of_fault?_eq_none sound with ⟨rootPresent, -, linksSound⟩
  rcases (document.linkFault?_eq_none_iff [] document.links).mp linksSound with
    ⟨eachLink, nodup⟩
  rw [Document.links, Document.map_child_linksFrom] at nodup
  have linkOf : ∀ {parent child : NodeId} {node : Node},
      document.nodes[parent.index]? = some node → child ∈ node.kind.children →
        document.hasNode child = true ∧ child ≠ document.root := by
    intro parent child node found member
    have link := eachLink ⟨parent.index, node.kind.name, child⟩
      (Document.mem_links_iff.mpr ⟨node, found, rfl, member⟩)
    exact ⟨link.1, link.2.1⟩
  refine ⟨by simpa [Document.hasNode, size] using rootPresent, ?_, ?_,
    eq_of_isChild_of_nodup nodup, ?_⟩
  · intro parent child isChild
    rcases isChild_iff_exists_node.mp isChild with ⟨node, found, member⟩
    simpa [Document.hasNode, size] using (linkOf found member).1
  · intro parent isChild
    rcases isChild_iff_exists_node.mp isChild with ⟨node, found, member⟩
    exact (linkOf found member).2 rfl
  · intro id
    simp only [children, kind?, node?]
    cases found : document.nodes[id.index]? with
    | none => simp
    | some node =>
        have member : node ∈ document.nodes.toList :=
          Array.mem_toList_iff.mpr (Array.mem_of_getElem? found)
        simpa using (List.nodup_flatMap.mp nodup).1 node member

theorem comment_lt {document : Document} {ust : Ust} (accepted : ofDocument document = .ok ust)
    (comment : NodeId) (listed : comment ∈ ust.comments) : comment.index < ust.size := by
  rcases eq_of_ofDocument accepted with ⟨sound, rfl⟩
  exact of_decide_eq_true ((Document.sound_of_fault?_eq_none sound).2.1 comment listed)

/-! ## No circles under the root -/

/-- Going down from a node that does not lie above itself comes to an end. -/
theorem wellFounded_below (ust : Ust) :
    WellFounded fun below above => ¬ ust.Above above above ∧ ust.Above above below := by
  have transitive : IsTrans NodeId
      fun below above => ¬ ust.Above above above ∧ ust.Above above below :=
    ⟨fun _ _ _ lower upper => ⟨upper.1, upper.2.trans lower.2⟩⟩
  have irreflexive : Std.Irrefl
      fun below above : NodeId => ¬ ust.Above above above ∧ ust.Above above below :=
    ⟨fun _ circle => circle.1 circle.2⟩
  exact Finite.wellFounded_of_trans_of_irrefl _

namespace Rooted

variable {ust : Ust} {id : NodeId}

theorem lt_of_above (rooted : ust.Rooted) {above : NodeId} (path : ust.Above above id) :
    id.index < ust.size := by
  rcases TransGen.tail'_iff.mp path with ⟨parent, -, isChild⟩
  exact rooted.child_lt isChild

theorem not_above_root (rooted : ust.Rooted) (above : NodeId) : ¬ ust.Above above ust.root := by
  intro path
  rcases TransGen.tail'_iff.mp path with ⟨parent, -, isChild⟩
  exact rooted.root_not_child parent isChild

/-- What lies properly above a child is its parent or lies above it. -/
theorem above_iff_reaches_parent (rooted : ust.Rooted) {above parent child : NodeId}
    (isChild : ust.IsChild parent child) :
    ust.Above above child ↔ ust.Reaches above parent := by
  constructor
  · intro path
    rcases TransGen.tail'_iff.mp path with ⟨last, toLast, lastChild⟩
    rwa [rooted.parent_unique isChild lastChild]
  · intro toParent
    exact TransGen.tail' toParent isChild

/-- Under a node that does not lie above itself no node does.  On the way down, a
circle through a child also goes through its parent. -/
theorem not_above_self_of_reaches (rooted : ust.Rooted) {top : NodeId}
    (straight : ¬ ust.Above top top) (reached : ust.Reaches top id) : ¬ ust.Above id id := by
  induction reached with
  | refl => exact straight
  | tail _ isChild ih =>
      intro circle
      exact ih (TransGen.head' isChild ((rooted.above_iff_reaches_parent isChild).mp circle))

/-- No node under the root lies above itself. -/
theorem not_above_self (rooted : ust.Rooted) (reached : ust.Reaches ust.root id) :
    ¬ ust.Above id id :=
  rooted.not_above_self_of_reaches (rooted.not_above_root ust.root) reached

/-- What lies above a node under the root is itself under the root. -/
theorem reaches_of_above (rooted : ust.Rooted) {above : NodeId}
    (reached : ust.Reaches ust.root id) (path : ust.Reaches above id) :
    ust.Reaches ust.root above := by
  induction reached with
  | refl =>
      rcases reflTransGen_iff_eq_or_transGen.mp path with rfl | path
      · exact .refl
      · exact absurd path (rooted.not_above_root above)
  | tail toParent isChild ih =>
      rcases reflTransGen_iff_eq_or_transGen.mp path with rfl | path
      · exact toParent.tail isChild
      · exact ih ((rooted.above_iff_reaches_parent isChild).mp path)

/-- Two nodes that share a node under them lie on one way down. -/
theorem reaches_total (rooted : ust.Rooted) {first second below : NodeId}
    (fromFirst : ust.Reaches first below) (fromSecond : ust.Reaches second below) :
    ust.Reaches first second ∨ ust.Reaches second first := by
  have oneParent : Relator.RightUnique (Function.swap ust.IsChild) :=
    fun _ _ _ => rooted.parent_unique
  rcases ReflTransGen.total_of_right_unique oneParent (reflTransGen_swap.mpr fromFirst)
    (reflTransGen_swap.mpr fromSecond) with path | path
  · exact Or.inr (reflTransGen_swap.mp path)
  · exact Or.inl (reflTransGen_swap.mp path)

end Rooted

/-! ## Parents -/

theorem size_foldl_parents (links : List Link) (table : Array (Option NodeId)) :
    (links.foldl (fun table link =>
        table.setIfInBounds link.child.index (some (NodeId.ofIndex link.parent)))
      table).size = table.size := by
  induction links generalizing table with
  | nil => rfl
  | cons link rest ih => rw [List.foldl_cons, ih, Array.size_setIfInBounds]

theorem size_parentTable (document : Document) :
    (parentTable document).size = document.nodes.size := by
  rw [parentTable, size_foldl_parents, Array.size_replicate]

theorem getElem?_foldl_parents_of_not_mem (links : List Link) (table : Array (Option NodeId))
    {id : NodeId} (absent : id ∉ links.map Link.child) :
    (links.foldl (fun table link =>
        table.setIfInBounds link.child.index (some (NodeId.ofIndex link.parent)))
      table)[id.index]? = table[id.index]? := by
  induction links generalizing table with
  | nil => rfl
  | cons link rest ih =>
      simp only [List.map_cons, List.mem_cons, not_or] at absent
      rw [List.foldl_cons, ih _ absent.2]
      have indexNe : link.child.index ≠ id.index := fun equal =>
        absent.1 (NodeId.index_injective equal).symm
      rw [Array.getElem?_setIfInBounds_ne indexNe]

/-- Writing down the parents of children that are all different keeps every one
of them. -/
theorem getElem?_foldl_parents_of_mem {links : List Link} (nodup : (links.map Link.child).Nodup)
    {link : Link} (member : link ∈ links) (table : Array (Option NodeId))
    (inRange : link.child.index < table.size) :
    (links.foldl (fun table link =>
        table.setIfInBounds link.child.index (some (NodeId.ofIndex link.parent)))
      table)[link.child.index]? = some (some (NodeId.ofIndex link.parent)) := by
  induction links generalizing table with
  | nil => simp at member
  | cons first rest ih =>
      rw [List.map_cons, List.nodup_cons] at nodup
      rw [List.foldl_cons]
      rcases List.mem_cons.mp member with rfl | inRest
      · rw [getElem?_foldl_parents_of_not_mem rest _ nodup.1]
        simp [inRange]
      · exact ih nodup.2 inRest _ (by simpa using inRange)

/-- The table of parents of a document without fault has the place of the
parent at each child. -/
theorem getElem?_parentTable_of_mem {document : Document} (sound : document.fault? = none)
    {place : Nat} {node : Node} {child : NodeId} (found : document.nodes[place]? = some node)
    (member : child ∈ node.kind.children) :
    (parentTable document)[child.index]? = some (some (NodeId.ofIndex place)) := by
  rcases (document.linkFault?_eq_none_iff [] document.links).mp
    (Document.sound_of_fault?_eq_none sound).2.2 with ⟨eachLink, nodup⟩
  have linked : (⟨place, node.kind.name, child⟩ : Link) ∈ document.links :=
    Document.mem_links_iff.mpr ⟨node, found, rfl, member⟩
  have present := (eachLink _ linked).1
  exact getElem?_foldl_parents_of_mem nodup linked _ (by simpa [Document.hasNode] using present)

/-- The table of parents has the parent of every child. -/
theorem parent?_of_isChild {document : Document} {ust : Ust}
    (accepted : ofDocument document = .ok ust) {parent child : NodeId}
    (isChild : ust.IsChild parent child) : ust.parent? child = some parent := by
  rcases eq_of_ofDocument accepted with ⟨sound, rfl⟩
  rcases isChild_iff_exists_node.mp isChild with ⟨node, found, member⟩
  simp only [parent?, Option.bind_eq_bind, Option.bind_some,
    getElem?_parentTable_of_mem sound found member, NodeId.ofIndex_index]

/-- Every parent in the table is the place of a node that has the child, as far as
the place can be written as a reference, and the child is a node other than the
root. -/
theorem exists_node_of_parent? {document : Document} {ust : Ust}
    (accepted : ofDocument document = .ok ust) {parent child : NodeId}
    (parentEq : ust.parent? child = some parent) :
    (∃ place node, ust.nodes[place]? = some node ∧ child ∈ node.kind.children ∧
      parent = .ofIndex place) ∧ child.index < ust.size ∧ child ≠ ust.root := by
  rcases eq_of_ofDocument accepted with ⟨sound, rfl⟩
  rcases (document.linkFault?_eq_none_iff [] document.links).mp
    (Document.sound_of_fault?_eq_none sound).2.2 with ⟨eachLink, -⟩
  simp only [parent?, Option.bind_eq_bind, Option.bind_some] at parentEq
  by_cases isChild : child ∈ document.links.map Link.child
  · rcases List.mem_map.mp isChild with ⟨link, linked, rfl⟩
    rcases Document.mem_links_iff.mp linked with ⟨node, found, -, member⟩
    rw [getElem?_parentTable_of_mem sound found member] at parentEq
    obtain ⟨present, notRoot, -⟩ := eachLink link linked
    exact ⟨⟨link.parent, node, found, member, (Option.some.inj parentEq).symm⟩,
      by simpa [Document.hasNode, size] using present, notRoot⟩
  · rw [parentTable, getElem?_foldl_parents_of_not_mem _ _ isChild,
      Array.getElem?_replicate] at parentEq
    split at parentEq <;> simp at parentEq

/-- In a tree whose places can all be written as references, the table of
parents holds exactly the parents. -/
theorem parent?_eq_some_iff {document : Document} {ust : Ust}
    (accepted : ofDocument document = .ok ust) (small : document.nodes.size ≤ UInt32.size)
    {parent child : NodeId} :
    ust.parent? child = some parent ↔ ust.IsChild parent child := by
  refine ⟨fun parentEq => ?_, parent?_of_isChild accepted⟩
  obtain ⟨⟨place, node, found, member, rfl⟩, -⟩ := exists_node_of_parent? accepted parentEq
  rcases eq_of_ofDocument accepted with ⟨-, rfl⟩
  have placeLt : place < UInt32.size :=
    Nat.lt_of_lt_of_le (Array.getElem?_eq_some_iff.mp found).1 small
  refine isChild_iff_exists_node.mpr ⟨node, ?_, member⟩
  rwa [NodeId.index_ofIndex placeLt]

end Ust

/-! ## An accepted document -/

/-- The declaration `int x = 1;` as a document. -/
def Document.sampleField : Document where
  language := .java
  file := .unindexed "A.java" "int x = 1;"
  nodes := #[
    ⟨.fieldDeclaration (some ⟨1⟩) [⟨2⟩], ⟨0, 10⟩⟩,
    ⟨.typeToken "int", ⟨0, 3⟩⟩,
    ⟨.variableDeclaration ⟨3⟩ (some ⟨4⟩), ⟨4, 5⟩⟩,
    ⟨.identifier "x", ⟨4, 1⟩⟩,
    ⟨.intLiteral 1, ⟨8, 1⟩⟩]
  root := ⟨0⟩
  comments := []

/-- The tree of the declaration `int x = 1;`. -/
def Ust.sampleField : Ust where
  toDocument := { Document.sampleField with file := Document.sampleField.file.indexed }
  parents := some #[none, some ⟨0⟩, some ⟨0⟩, some ⟨2⟩, some ⟨2⟩]

theorem Ust.ofDocument_sampleField :
    Ust.ofDocument Document.sampleField = .ok Ust.sampleField :=
  rfl

end TreeSieve
