import TreeSieve.Ust.Tree

/-!
# Building trees

A builder collects nodes one step at a time.  A step that adds a node over
others covers their spans, so it fails when one of them does not exist; leaves
and blocks come with a span of their own.
-/

namespace TreeSieve

/-- Nodes collected so far. -/
structure Builder where
  language : Language
  file : SourceFile
  nodes : Array Node := #[]
  comments : List NodeId := []

/-- One step of building. -/
inductive BuildStep where
  | identifier (name : String) (span : Span)
  | typeToken (name : String) (span : Span)
  | string (text : String) (span : Span)
  | int (value : Int64) (span : Span)
  | boolean (value : Bool) (span : Span)
  | null (span : Span)
  | comment (text : String) (span : Span)
  | memberReference (target name : NodeId)
  | args (arguments : List NodeId)
  | invocation (target : NodeId) (arguments : List NodeId) (span : Span)
  | binary (left : NodeId) (operator : BinaryOperator) (right : NodeId)
  | unary (operator : UnaryOperator) (operand : NodeId) (span : Span)
  | assign (left right : NodeId)
  | expressionStatement (expression : NodeId)
  | block (items : List NodeId) (span : Span)
  | catchClause (exceptionType : Option NodeId) (body : NodeId) (span : Span)
  | tryCatch (tryBlock : NodeId) (catchClauses : List NodeId)
  | statements (items : List NodeId)
  | add (kind : NodeKind) (span : Span)

namespace Builder

/-- Add a node; it takes the next free place. -/
def add (builder : Builder) (kind : NodeKind) (span : Span) : NodeId × Builder :=
  (NodeId.ofIndex builder.nodes.size, { builder with nodes := builder.nodes.push ⟨kind, span⟩ })

/-- The span of a node that has been added. -/
def span? (builder : Builder) (id : NodeId) : Option Span :=
  (builder.nodes[id.index]?).map Node.span

/-- The span that covers nodes that have been added. -/
def cover? (builder : Builder) (ids : List NodeId) : Option Span :=
  (ids.mapM builder.span?).map Span.cover

/-- Add a node over its children. -/
def addOver? (builder : Builder) (kind : NodeKind) : Option (NodeId × Builder) :=
  (builder.cover? kind.children).map (builder.add kind)

/-- Add a comment, which stands beside the tree. -/
def addComment (builder : Builder) (text : String) (span : Span) : NodeId × Builder :=
  let (id, builder) := builder.add (.comment text) span
  (id, { builder with comments := builder.comments ++ [id] })

/-- Do one step and give the place of the node it adds last. -/
def perform? (builder : Builder) : BuildStep → Option (NodeId × Builder)
  | .identifier name span => builder.add (.identifier name) span
  | .typeToken name span => builder.add (.typeToken name) span
  | .string text span => builder.add (.stringLiteral text) span
  | .int value span => builder.add (.intLiteral value) span
  | .boolean value span => builder.add (.booleanLiteral value) span
  | .null span => builder.add .nullLiteral span
  | .comment text span => builder.addComment text span
  | .memberReference target name => builder.addOver? (.memberReference target name)
  | .args arguments => builder.addOver? (.args arguments)
  | .invocation target arguments span => do
      let (arguments, builder) ← builder.addOver? (.args arguments)
      builder.add (.invocation target arguments) span
  | .binary left operator right => builder.addOver? (.binaryOperator left operator right)
  | .unary operator operand span => builder.add (.unaryOperator operator operand) span
  | .assign left right => builder.addOver? (.assignment left (some right))
  | .expressionStatement expression => builder.addOver? (.expressionStatement expression)
  | .block items span => builder.add (.block items) span
  | .catchClause exceptionType body span =>
      builder.add (.catchClause exceptionType none body) span
  | .tryCatch tryBlock catchClauses => builder.addOver? (.tryCatch tryBlock catchClauses none)
  | .statements items => builder.addOver? (.statements items)
  | .add kind span => builder.add kind span

/-- The document of the nodes added so far. -/
def toDocument (builder : Builder) (root : NodeId) : Document where
  language := builder.language
  file := builder.file
  nodes := builder.nodes
  root := root
  comments := builder.comments

/-- The tree under a root. -/
def finish (builder : Builder) (root : NodeId) : Except TreeFault Ust :=
  Ust.ofDocument (builder.toDocument root)

end Builder

end TreeSieve
