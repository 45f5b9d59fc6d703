import TreeSieve.Language
import TreeSieve.Source.File
import TreeSieve.Ust.NodeRecord

/-!
# Documents

A document is what a language front-end ships for one file: the language, the
source, the list of nodes, the root and the comments.  It is read from JSON and
written back to it without loss.
-/

namespace TreeSieve

open Json (Read Draft)

/-- The nodes of one file as a front-end ships them. -/
structure Document where
  language : Language
  file : SourceFile
  nodes : Array Node
  root : NodeId
  comments : List NodeId
  deriving Inhabited

/-! ## Source files -/

namespace SourceFile

/-- A source file as JSON. -/
def toJson (file : SourceFile) : Json :=
  .object [("path", .string file.path), ("code", .string file.code)]

/-- Read a source file; its text may be left out.  Its lines are not indexed. -/
def ofDraft : Draft → Read SourceFile
  | .object members => do
      let (path, code) ← Draft.foldMembers (fun (path, code) key value => do
          if key = "path" then
            return (← Draft.readOnce key path Draft.readString value, code)
          else if key = "code" then
            return (path, ← Draft.readOnce key code Draft.readString value)
          else
            value.skip
            return (path, code))
        (none, none) members
      return unindexed (← Draft.require "path" path) (code.getD "")
  | .array items => do
      let (path, items) ← Draft.requireItem 0 Draft.readString items
      let (code, items) ← Draft.readItem Draft.readString items
      Draft.requireEnd items
      return unindexed path (code.getD "")
  | draft => .error draft.mismatch

end SourceFile

namespace Document

/-- Read a reference to a node. -/
def readId (draft : Draft) : Read NodeId :=
  draft.readUInt32.map NodeId.mk

/-- Read the list of nodes.  The document and the list around each node take
two of the levels that containers may be nested. -/
def readNodes (draft : Draft) : Read (List Node) :=
  draft.readList (Node.ofDraft (Draft.maxDepth - 2))

/-- The fields of a document read so far. -/
structure Fields where
  language : Option Language := none
  file : Option SourceFile := none
  nodes : Option (List Node) := none
  root : Option NodeId := none
  comments : Option (List NodeId) := none

/-- Read one member of a document. -/
def readField (fields : Fields) (key : String) (value : Draft) : Read Fields := do
  if key = "language" then
    let language ← Draft.readOnce key fields.language (Draft.readName Language.ofTag?) value
    return { fields with language }
  else if key = "file" then
    let file ← Draft.readOnce key fields.file SourceFile.ofDraft value
    return { fields with file }
  else if key = "nodes" then
    let nodes ← Draft.readOnce key fields.nodes readNodes value
    return { fields with nodes }
  else if key = "root" then
    let root ← Draft.readOnce key fields.root readId value
    return { fields with root }
  else if key = "comments" then
    let comments ← Draft.readOnce key fields.comments (Draft.readList readId) value
    return { fields with comments }
  else
    value.skip
    return fields

/-- Read a document: an object, or an array of its fields in their order.  Only
the comments may be left out. -/
def ofDraft : Draft → Read Document
  | .object members => do
      let fields ← Draft.foldMembers readField {} members
      let language ← Draft.require "language" fields.language
      let file ← Draft.require "file" fields.file
      let nodes ← Draft.require "nodes" fields.nodes
      let root ← Draft.require "root" fields.root
      return ⟨language, file, nodes.toArray, root, fields.comments.getD []⟩
  | .array items => do
      let (language, items) ← Draft.requireItem 0 (Draft.readName Language.ofTag?) items
      let (file, items) ← Draft.requireItem 1 SourceFile.ofDraft items
      let (nodes, items) ← Draft.requireItem 2 readNodes items
      let (root, items) ← Draft.requireItem 3 readId items
      let (comments, items) ← Draft.readItem (Draft.readList readId) items
      Draft.requireEnd items
      return ⟨language, file, nodes.toArray, root, comments.getD []⟩
  | draft => .error draft.mismatch

/-- Read a document from a whole text. -/
def ofText (text : String) : Read Document :=
  Json.readText ofDraft text

/-- A document as JSON. -/
def toJson (document : Document) : Json :=
  .object
    [ ("language", .string document.language.tag),
      ("file", document.file.toJson),
      ("nodes", .array (document.nodes.toList.map Node.toJson)),
      ("root", NodeKind.idToJson document.root),
      ("comments", .array (document.comments.map NodeKind.idToJson)) ]

/-- A document as text. -/
def render (document : Document) : String :=
  document.toJson.render

end Document

end TreeSieve
