import TreeSieve.Json.Tagged
import TreeSieve.Ust.Node

/-!
# Nodes as JSON

A node is a tagged record with the fields of its kind and the member `span`.
The kind is taken apart into its name and a list of field values, and put
together again from them; `variants` lists the fields of every kind.
-/

namespace TreeSieve

open Json (Read FieldSpec Draft)

namespace NodeKind

/-- What the value of a field looks like. -/
inductive Shape where
  | text
  | int
  | float
  | bool
  | node
  | optionalNode
  | nodes
  | binary
  | unary

/-- The value of a field. -/
inductive FieldValue where
  | text (value : String)
  | int (value : Int64)
  | float (value : Float)
  | bool (value : Bool)
  | node (id : NodeId)
  | optionalNode (id : Option NodeId)
  | nodes (ids : List NodeId)
  | binary (operator : BinaryOperator)
  | unary (operator : UnaryOperator)

/-- Read a reference to a node. -/
def readId (value : Json) : Read NodeId :=
  (Json.readUInt32 value).map NodeId.mk

/-- Read the value of a field. -/
def readField : Shape → Json → Read FieldValue
  | .text, value => (Json.readString value).map .text
  | .int, value => (Json.readInt64 value).map .int
  | .float, value => (Json.readFloat value).map .float
  | .bool, value => (Json.readBool value).map .bool
  | .node, value => (readId value).map .node
  | .optionalNode, value => (Json.readOption readId value).map .optionalNode
  | .nodes, value => (Json.readList readId value).map .nodes
  | .binary, value => (Json.readName BinaryOperator.ofName? value).map .binary
  | .unary, value => (Json.readName UnaryOperator.ofName? value).map .unary

/-- A reference to a node as JSON. -/
def idToJson (id : NodeId) : Json :=
  .int id.value.toNat

/-- The value of a field as JSON. -/
def FieldValue.toJson : FieldValue → Json
  | .text value => .string value
  | .int value => .int value.toInt
  | .float value => .float value
  | .bool value => .bool value
  | .node id => idToJson id
  | .optionalNode id => Json.optional (id.map idToJson)
  | .nodes ids => .array (ids.map idToJson)
  | .binary operator => .string operator.name
  | .unary operator => .string operator.name

/-- A field that must be present. -/
abbrev required (name : String) (shape : Shape) : FieldSpec Shape FieldValue :=
  ⟨name, shape, none⟩

/-- A reference that may be left out. -/
abbrev optionalNode (name : String) : FieldSpec Shape FieldValue :=
  ⟨name, .optionalNode, some (.optionalNode none)⟩

/-- A list of references that may be left out. -/
abbrev optionalNodes (name : String) : FieldSpec Shape FieldValue :=
  ⟨name, .nodes, some (.nodes [])⟩

/-- Every kind with its fields, in declaration order. -/
def variants : List (String × List (FieldSpec Shape FieldValue)) :=
  [ ("Identifier", [required "name" .text]),
    ("TypeToken", [required "name" .text]),
    ("StringLiteral", [required "text" .text]),
    ("IntLiteral", [required "value" .int]),
    ("FloatLiteral", [required "value" .float]),
    ("BooleanLiteral", [required "value" .bool]),
    ("NullLiteral", []),
    ("Comment", [required "text" .text]),
    ("BinaryOperator",
      [required "left" .node, required "operator" .binary, required "right" .node]),
    ("UnaryOperator", [required "operator" .unary, required "operand" .node]),
    ("Assignment", [required "left" .node, optionalNode "right"]),
    ("MemberReference", [required "target" .node, required "name" .node]),
    ("Indexer", [required "target" .node, required "arguments" .node]),
    ("Invocation", [required "target" .node, required "arguments" .node]),
    ("ObjectCreate", [required "type" .node, required "arguments" .node]),
    ("BaseReference", []),
    ("MultipleExpressions", [required "expressions" .nodes]),
    ("Block", [required "statements" .nodes]),
    ("ExpressionStatement", [required "expression" .node]),
    ("TryCatch",
      [required "try_block" .node, optionalNodes "catch_clauses", optionalNode "finally_block"]),
    ("CatchClause",
      [optionalNode "exception_type", optionalNode "variable", required "body" .node]),
    ("With", [required "expression" .node, required "statement" .node]),
    ("Args", [required "arguments" .nodes]),
    ("Statements", [required "statements" .nodes]),
    ("Class", [required "name" .node, optionalNodes "base_types", optionalNodes "members"]),
    ("Method", [required "name" .node, optionalNodes "parameters", optionalNode "body"]),
    ("Constructor", [required "name" .node, optionalNodes "parameters", optionalNode "body"]),
    ("Field", [optionalNode "field_type", required "variables" .nodes]),
    ("Parameter", [optionalNode "param_type", required "name" .node, optionalNode "initializer"]),
    ("Variable", [required "name" .node, optionalNode "initializer"]) ]

/-- The names of all kinds, in declaration order. -/
def variantNames : List String :=
  variants.map (·.1)

/-- The fields of the kind with this name. -/
def fieldsOf (name : String) : List (FieldSpec Shape FieldValue) :=
  ((variants.find? (·.1 == name)).map (·.2)).getD []

/-- The values of the fields of a kind, in declaration order. -/
def fieldValues : NodeKind → List FieldValue
  | identifier name => [.text name]
  | typeToken name => [.text name]
  | stringLiteral text => [.text text]
  | intLiteral value => [.int value]
  | floatLiteral value => [.float value]
  | booleanLiteral value => [.bool value]
  | nullLiteral => []
  | comment text => [.text text]
  | binaryOperator left operator right => [.node left, .binary operator, .node right]
  | unaryOperator operator operand => [.unary operator, .node operand]
  | assignment left right => [.node left, .optionalNode right]
  | memberReference target name => [.node target, .node name]
  | indexer target arguments => [.node target, .node arguments]
  | invocation target arguments => [.node target, .node arguments]
  | objectCreate typeName arguments => [.node typeName, .node arguments]
  | baseReference => []
  | multipleExpressions expressions => [.nodes expressions]
  | block items => [.nodes items]
  | expressionStatement expression => [.node expression]
  | tryCatch tryBlock catchClauses finallyBlock =>
      [.node tryBlock, .nodes catchClauses, .optionalNode finallyBlock]
  | catchClause exceptionType boundName body =>
      [.optionalNode exceptionType, .optionalNode boundName, .node body]
  | withStatement expression statement => [.node expression, .node statement]
  | args arguments => [.nodes arguments]
  | statements items => [.nodes items]
  | classDeclaration name baseTypes members => [.node name, .nodes baseTypes, .nodes members]
  | methodDeclaration name parameters body => [.node name, .nodes parameters, .optionalNode body]
  | constructorDeclaration name parameters body =>
      [.node name, .nodes parameters, .optionalNode body]
  | fieldDeclaration fieldType declarators => [.optionalNode fieldType, .nodes declarators]
  | parameterDeclaration parameterType name initializer =>
      [.optionalNode parameterType, .node name, .optionalNode initializer]
  | variableDeclaration name initializer => [.node name, .optionalNode initializer]

/-- The kind with this name and these field values. -/
def ofFields? (name : String) (values : List FieldValue) : Option NodeKind :=
  match name, values with
  | "Identifier", [.text name] => some (.identifier name)
  | "TypeToken", [.text name] => some (.typeToken name)
  | "StringLiteral", [.text text] => some (.stringLiteral text)
  | "IntLiteral", [.int value] => some (.intLiteral value)
  | "FloatLiteral", [.float value] => some (.floatLiteral value)
  | "BooleanLiteral", [.bool value] => some (.booleanLiteral value)
  | "NullLiteral", [] => some .nullLiteral
  | "Comment", [.text text] => some (.comment text)
  | "BinaryOperator", [.node left, .binary operator, .node right] =>
      some (.binaryOperator left operator right)
  | "UnaryOperator", [.unary operator, .node operand] => some (.unaryOperator operator operand)
  | "Assignment", [.node left, .optionalNode right] => some (.assignment left right)
  | "MemberReference", [.node target, .node name] => some (.memberReference target name)
  | "Indexer", [.node target, .node arguments] => some (.indexer target arguments)
  | "Invocation", [.node target, .node arguments] => some (.invocation target arguments)
  | "ObjectCreate", [.node typeName, .node arguments] => some (.objectCreate typeName arguments)
  | "BaseReference", [] => some .baseReference
  | "MultipleExpressions", [.nodes expressions] => some (.multipleExpressions expressions)
  | "Block", [.nodes items] => some (.block items)
  | "ExpressionStatement", [.node expression] => some (.expressionStatement expression)
  | "TryCatch", [.node tryBlock, .nodes catchClauses, .optionalNode finallyBlock] =>
      some (.tryCatch tryBlock catchClauses finallyBlock)
  | "CatchClause", [.optionalNode exceptionType, .optionalNode boundName, .node body] =>
      some (.catchClause exceptionType boundName body)
  | "With", [.node expression, .node statement] => some (.withStatement expression statement)
  | "Args", [.nodes arguments] => some (.args arguments)
  | "Statements", [.nodes items] => some (.statements items)
  | "Class", [.node name, .nodes baseTypes, .nodes members] =>
      some (.classDeclaration name baseTypes members)
  | "Method", [.node name, .nodes parameters, .optionalNode body] =>
      some (.methodDeclaration name parameters body)
  | "Constructor", [.node name, .nodes parameters, .optionalNode body] =>
      some (.constructorDeclaration name parameters body)
  | "Field", [.optionalNode fieldType, .nodes declarators] =>
      some (.fieldDeclaration fieldType declarators)
  | "Parameter", [.optionalNode parameterType, .node name, .optionalNode initializer] =>
      some (.parameterDeclaration parameterType name initializer)
  | "Variable", [.node name, .optionalNode initializer] =>
      some (.variableDeclaration name initializer)
  | _, _ => none

/-- Put a kind together from the values of its fields. -/
def build (name : String) (values : List FieldValue) : Read NodeKind :=
  (ofFields? name values).elim (.error (.unknownVariant name)) .ok

/-- Read the kind with this name from its fields. -/
def ofContent (name : String) : Json.Content → Read NodeKind
  | .members members => do
      build name (← Json.readMembers readField (fieldsOf name) members)
  | .items items => do
      build name (← Json.readItems readField 0 (fieldsOf name) items)

/-- Read a kind from a whole text. -/
def ofText (text : String) : Read NodeKind :=
  Json.readText (fun draft => do
    let (name, content) ← draft.readTagged variantNames Draft.maxDepth
    ofContent name content) text

/-- Read a kind from the members of an object. -/
def ofMembers (members : List (String × Json)) : Read NodeKind := do
  let name ← Json.findTag variantNames none members
  ofContent name (.members (Json.withoutTag members))

/-- The kind as the members of an object, the tag first. -/
def toMembers (kind : NodeKind) : List (String × Json) :=
  (Json.tagKey, .string kind.name) ::
    ((fieldsOf kind.name).map (·.name)).zip (kind.fieldValues.map FieldValue.toJson)

end NodeKind

/-! ## Spans -/

namespace Span

/-- A span as JSON. -/
def toJson (span : Span) : Json :=
  .object [("start", .int span.start.toNat), ("length", .int span.length.toNat)]

/-- Read a span: an object with both numbers or an array of the two. -/
def ofDraft : Draft → Read Span
  | .object members => do
      let (start, length) ← Draft.foldMembers (fun (start, length) key value => do
          if key = "start" then
            return (← Draft.readOnce key start Draft.readUInt64 value, length)
          else if key = "length" then
            return (start, ← Draft.readOnce key length Draft.readUInt64 value)
          else
            value.skip
            return (start, length))
        (none, none) members
      return ⟨← Draft.require "start" start, ← Draft.require "length" length⟩
  | .array items => do
      let (start, items) ← Draft.requireItem 0 Draft.readUInt64 items
      let (length, items) ← Draft.requireItem 1 Draft.readUInt64 items
      Draft.requireEnd items
      return ⟨start, length⟩
  | draft => .error draft.mismatch

end Span

/-! ## Nodes -/

namespace Node

/-- A node as JSON: its kind and then its span. -/
def toJson (node : Node) : Json :=
  .object (node.kind.toMembers ++ [("span", node.span.toJson)])

/-- Read a node whose containers are nested at most `levels` deep.  The span is
looked at as soon as it comes, the kind when the object has been read to its
end.  A node without a span is empty. -/
def ofDraft (levels : Nat) : Draft → Read Node
  | .object members =>
      match levels with
      | 0 => .error .malformed
      | inner + 1 => do
          let (span, members) ← Draft.foldMembers (fun (span, members) key value => do
              if key = "span" then
                return (← Draft.readOnce key span Span.ofDraft value, members)
              else
                let value ← value.readJson inner
                return (span, members ++ [(key, value)]))
            (none, []) members
          let kind ← NodeKind.ofMembers members
          return ⟨kind, span.getD Span.empty⟩
  | draft => .error draft.mismatch

/-- Read a node from a whole text. -/
def ofText (text : String) : Read Node :=
  Json.readText (ofDraft Draft.maxDepth) text

end Node

end TreeSieve
