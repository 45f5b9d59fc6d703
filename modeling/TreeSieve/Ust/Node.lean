import TreeSieve.Source.Span
import TreeSieve.Ust.Operator

/-!
# Nodes of a syntax tree

A node has a kind, which carries what is particular to it, and a span.  The
nodes of one file lie in a list, and a node refers to its children by their
places in that list.
-/

namespace TreeSieve

/-- The place of a node in the list of nodes of its file. -/
structure NodeId where
  value : UInt32
  deriving DecidableEq, Inhabited

namespace NodeId

/-- The place as a natural number. -/
def index (id : NodeId) : Nat :=
  id.value.toNat

/-- The node at a place. -/
def ofIndex (index : Nat) : NodeId :=
  ⟨UInt32.ofNat index⟩

/-- A reference to a node as text. -/
def describe (id : NodeId) : String :=
  "#" ++ toString id.value

end NodeId

/-- The broad group a kind of node belongs to. -/
inductive Category where
  | token
  | expression
  | statement
  | collection
  | declaration
  deriving DecidableEq

/-- The name of a group. -/
def Category.name : Category → String
  | token => "Token"
  | expression => "Expression"
  | statement => "Statement"
  | collection => "Collection"
  | declaration => "Declaration"

/-- What a node is, with its own data and its children. -/
inductive NodeKind where
  | identifier (name : String)
  | typeToken (name : String)
  | stringLiteral (text : String)
  | intLiteral (value : Int64)
  | floatLiteral (value : Float)
  | booleanLiteral (value : Bool)
  | nullLiteral
  | comment (text : String)
  | binaryOperator (left : NodeId) (operator : BinaryOperator) (right : NodeId)
  | unaryOperator (operator : UnaryOperator) (operand : NodeId)
  | assignment (left : NodeId) (right : Option NodeId)
  | memberReference (target name : NodeId)
  | indexer (target arguments : NodeId)
  | invocation (target arguments : NodeId)
  | objectCreate (typeName arguments : NodeId)
  | baseReference
  | multipleExpressions (expressions : List NodeId)
  | block (items : List NodeId)
  | expressionStatement (expression : NodeId)
  | tryCatch (tryBlock : NodeId) (catchClauses : List NodeId) (finallyBlock : Option NodeId)
  | catchClause (exceptionType boundName : Option NodeId) (body : NodeId)
  | withStatement (expression statement : NodeId)
  | args (arguments : List NodeId)
  | statements (items : List NodeId)
  | classDeclaration (name : NodeId) (baseTypes members : List NodeId)
  | methodDeclaration (name : NodeId) (parameters : List NodeId) (body : Option NodeId)
  | constructorDeclaration (name : NodeId) (parameters : List NodeId) (body : Option NodeId)
  | fieldDeclaration (fieldType : Option NodeId) (declarators : List NodeId)
  | parameterDeclaration (parameterType : Option NodeId) (name : NodeId)
      (initializer : Option NodeId)
  | variableDeclaration (name : NodeId) (initializer : Option NodeId)
  deriving Inhabited

namespace NodeKind

/-- The name of the kind. -/
def name : NodeKind → String
  | identifier .. => "Identifier"
  | typeToken .. => "TypeToken"
  | stringLiteral .. => "StringLiteral"
  | intLiteral .. => "IntLiteral"
  | floatLiteral .. => "FloatLiteral"
  | booleanLiteral .. => "BooleanLiteral"
  | nullLiteral => "NullLiteral"
  | comment .. => "Comment"
  | binaryOperator .. => "BinaryOperator"
  | unaryOperator .. => "UnaryOperator"
  | assignment .. => "Assignment"
  | memberReference .. => "MemberReference"
  | indexer .. => "Indexer"
  | invocation .. => "Invocation"
  | objectCreate .. => "ObjectCreate"
  | baseReference => "BaseReference"
  | multipleExpressions .. => "MultipleExpressions"
  | block .. => "Block"
  | expressionStatement .. => "ExpressionStatement"
  | tryCatch .. => "TryCatch"
  | catchClause .. => "CatchClause"
  | withStatement .. => "With"
  | args .. => "Args"
  | statements .. => "Statements"
  | classDeclaration .. => "Class"
  | methodDeclaration .. => "Method"
  | constructorDeclaration .. => "Constructor"
  | fieldDeclaration .. => "Field"
  | parameterDeclaration .. => "Parameter"
  | variableDeclaration .. => "Variable"

/-- The group the kind belongs to. -/
def category : NodeKind → Category
  | identifier .. | typeToken .. | stringLiteral .. | intLiteral .. | floatLiteral ..
  | booleanLiteral .. | nullLiteral | comment .. => .token
  | binaryOperator .. | unaryOperator .. | assignment .. | memberReference .. | indexer ..
  | invocation .. | objectCreate .. | baseReference | multipleExpressions .. => .expression
  | block .. | expressionStatement .. | tryCatch .. | catchClause .. | withStatement .. =>
      .statement
  | args .. | statements .. => .collection
  | classDeclaration .. | methodDeclaration .. | constructorDeclaration ..
  | fieldDeclaration .. | parameterDeclaration .. | variableDeclaration .. => .declaration

/-- Whether the kind is a comment. -/
def isComment : NodeKind → Bool
  | comment _ => true
  | _ => false

/-- Whether the node can stand where an expression is expected: tokens and
expressions can, comments cannot. -/
def isExpression (kind : NodeKind) : Bool :=
  (kind.category = .token || kind.category = .expression) && !kind.isComment

/-- The children in source order. -/
def children : NodeKind → List NodeId
  | identifier .. | typeToken .. | stringLiteral .. | intLiteral .. | floatLiteral ..
  | booleanLiteral .. | nullLiteral | comment .. | baseReference => []
  | binaryOperator left _ right => [left, right]
  | unaryOperator _ operand => [operand]
  | assignment left right => left :: right.toList
  | memberReference target name => [target, name]
  | indexer target arguments => [target, arguments]
  | invocation target arguments => [target, arguments]
  | objectCreate typeName arguments => [typeName, arguments]
  | multipleExpressions expressions => expressions
  | block items => items
  | expressionStatement expression => [expression]
  | tryCatch tryBlock catchClauses finallyBlock =>
      tryBlock :: (catchClauses ++ finallyBlock.toList)
  | catchClause exceptionType boundName body =>
      exceptionType.toList ++ boundName.toList ++ [body]
  | withStatement expression statement => [expression, statement]
  | args arguments => arguments
  | statements items => items
  | classDeclaration name baseTypes members => name :: (baseTypes ++ members)
  | methodDeclaration name parameters body => name :: (parameters ++ body.toList)
  | constructorDeclaration name parameters body => name :: (parameters ++ body.toList)
  | fieldDeclaration fieldType declarators => fieldType.toList ++ declarators
  | parameterDeclaration parameterType name initializer =>
      parameterType.toList ++ name :: initializer.toList
  | variableDeclaration name initializer => name :: initializer.toList

/-- The text of an identifier, a type name, a string or a comment. -/
def tokenText? : NodeKind → Option String
  | identifier name => some name
  | typeToken name => some name
  | stringLiteral text => some text
  | comment text => some text
  | _ => none

end NodeKind

/-- A node: what it is and the text it covers. -/
structure Node where
  kind : NodeKind
  span : Span
  deriving Inhabited

end TreeSieve
