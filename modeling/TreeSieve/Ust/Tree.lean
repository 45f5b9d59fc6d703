import TreeSieve.Ust.Document

/-!
# Trees of nodes

A tree is a document whose references have been checked, together with a table
of parents.  Every reference of an accepted document is in range, the root is
nobody's child and no node is the child of two places.  So the nodes under the
root form a tree; nodes that the root does not reach may still refer to each
other in a circle, and the walks below take at most as many steps as there are
nodes.
-/

namespace TreeSieve

/-- Why the nodes of a document do not form a tree. -/
inductive TreeFault where
  | rootOutOfRange (root : NodeId) (count : Nat)
  | commentOutOfRange (comment : NodeId)
  | missingChild (kind : String) (parent : Nat) (child : NodeId)
  | secondParent (child : NodeId)
  deriving DecidableEq

/-- The wording of a fault. -/
def TreeFault.reason : TreeFault → String
  | rootOutOfRange root count =>
      "root " ++ root.describe ++ " out of range (" ++ toString count ++ " nodes)"
  | commentOutOfRange comment => "comment " ++ comment.describe ++ " out of range"
  | missingChild kind parent child =>
      kind ++ " node #" ++ toString parent ++ " refers to missing child " ++ child.describe
  | secondParent child => "node " ++ child.describe ++ " has more than one parent"

/-! ## Checking references -/

/-- One reference from a node to a child. -/
structure Link where
  parent : Nat
  kind : String
  child : NodeId

namespace Document

/-- The references of nodes that lie from `index` on. -/
def linksFrom (index : Nat) : List Node → List Link
  | [] => []
  | node :: rest =>
      node.kind.children.map (fun child => ⟨index, node.kind.name, child⟩) ++
        linksFrom (index + 1) rest

/-- Every reference to a child: by the place of the parent, then in the order
of its children. -/
def links (document : Document) : List Link :=
  linksFrom 0 document.nodes.toList

/-- Whether there is a node at a place. -/
def hasNode (document : Document) (id : NodeId) : Bool :=
  id.index < document.nodes.size

/-- The first reference that leads nowhere, to the root, or to a node that has
been `seen` as a child before. -/
def linkFault? (document : Document) : (seen : List NodeId) → List Link → Option TreeFault
  | _, [] => none
  | seen, link :: rest =>
      if !document.hasNode link.child then
        some (.missingChild link.kind link.parent link.child)
      else if link.child = document.root ∨ seen.contains link.child then
        some (.secondParent link.child)
      else document.linkFault? (link.child :: seen) rest

/-- The first fault of a document: the root, then the comments, then the
references between nodes. -/
def fault? (document : Document) : Option TreeFault :=
  if !document.hasNode document.root then
    some (.rootOutOfRange document.root document.nodes.size)
  else
    match document.comments.find? (fun comment => !document.hasNode comment) with
    | some comment => some (.commentOutOfRange comment)
    | none => document.linkFault? [] document.links

end Document

/-! ## Trees -/

/-- A document with the parent of every node, once the parents are linked. -/
structure Ust extends Document where
  parents : Option (Array (Option NodeId)) := none
  deriving Inhabited

namespace Ust

/-- The wording when the parents of a tree are linked a second time. -/
def linkedTwice (ust : Ust) : String :=
  "ascendants of " ++ ust.file.path ++ " are already filled"

/-- The table of parents: a node is the parent of each of its children. -/
def parentTable (document : Document) : Array (Option NodeId) :=
  document.links.foldl
    (fun table link => table.setIfInBounds link.child.index (some (NodeId.ofIndex link.parent)))
    (Array.replicate document.nodes.size none)

/-- Link every node to its parent.  The parents of a tree are linked once. -/
def linkParents (ust : Ust) : Except String Ust :=
  match ust.parents with
  | some _ => .error ust.linkedTwice
  | none => .ok { ust with parents := some (parentTable ust.toDocument) }

/-- Accept a document without fault: index the lines of its file and link the
parents. -/
def ofDocument (document : Document) : Except TreeFault Ust :=
  match document.fault? with
  | some fault => .error fault
  | none =>
      .ok { toDocument := { document with file := document.file.indexed },
            parents := some (parentTable document) }

/-! ## Nodes -/

/-- The number of nodes. -/
def size (ust : Ust) : Nat :=
  ust.nodes.size

/-- The node at a place. -/
def node? (ust : Ust) (id : NodeId) : Option Node :=
  ust.nodes[id.index]?

/-- The kind of the node at a place. -/
def kind? (ust : Ust) (id : NodeId) : Option NodeKind :=
  (ust.node? id).map Node.kind

/-- The span of the node at a place; empty where there is no node. -/
def span (ust : Ust) (id : NodeId) : Span :=
  ((ust.node? id).map Node.span).getD Span.empty

/-- The children of the node at a place. -/
def children (ust : Ust) (id : NodeId) : List NodeId :=
  ((ust.kind? id).map NodeKind.children).getD []

/-- The parent of a node. -/
def parent? (ust : Ust) (id : NodeId) : Option NodeId := do
  let table ← ust.parents
  let parent ← table[id.index]?
  parent

/-! ## Walks -/

/-- The first `count` nodes of a walk: the first of the pending nodes, then what
lies under it, then the others. -/
def walk (ust : Ust) : (count : Nat) → (pending : List NodeId) → List NodeId
  | 0, _ => []
  | _, [] => []
  | count + 1, id :: pending => id :: walk ust count (ust.children id ++ pending)

/-- The nodes under a node, parents before children. -/
def descendants (ust : Ust) (id : NodeId) : List NodeId :=
  ust.walk ust.size (ust.children id)

/-- The first `count` nodes of the way from `next` upwards. -/
def chain (ust : Ust) : (count : Nat) → (next : Option NodeId) → List NodeId
  | 0, _ => []
  | _, none => []
  | count + 1, some id => id :: chain ust count (ust.parent? id)

/-- The nodes above a node, the nearest first. -/
def ancestors (ust : Ust) (id : NodeId) : List NodeId :=
  ust.chain ust.size (ust.parent? id)

/-- Whether one node lies above another. -/
def isAncestor (ust : Ust) (ancestor id : NodeId) : Bool :=
  (ust.ancestors id).contains ancestor

end Ust

end TreeSieve
