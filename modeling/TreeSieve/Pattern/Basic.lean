import TreeSieve.Pattern.TextRegex
import TreeSieve.Ust.Operator

/-!
# Patterns

A pattern describes nodes of a syntax tree.  Most patterns have the shape of
one kind of node; the others are wildcards, combinations of patterns, tests of
text, ranges of numbers and the search below a node.
-/

namespace TreeSieve

/-- A shape that a node may or may not have. -/
inductive Pattern where
  /-- Any node at all. -/
  | any
  /-- Any token or expression. -/
  | anyExpression
  | conjunction (patterns : List Pattern)
  | disjunction (patterns : List Pattern)
  | negation (pattern : Pattern)
  /-- The node itself or any node under it. -/
  | anywhere (pattern : Pattern)
  | idToken (name : String)
  | idRegex (regex : TextRegex)
  | stringLiteral (text : String)
  | stringRegex (regex : TextRegex)
  | commentRegex (regex : TextRegex)
  | intLiteral (value : Int64)
  /-- Both bounds belong to the range. -/
  | intRange (least greatest : Int64)
  | floatLiteral (value : Float)
  | booleanLiteral (value : Option Bool)
  | nullLiteral
  | baseReference
  | binaryOperator (left : Pattern) (operator : Option BinaryOperator) (right : Pattern)
  | unaryOperator (operator : Option UnaryOperator) (operand : Pattern)
  | assignment (left : Pattern) (right : Option Pattern)
  | memberReference (target name : Pattern)
  /-- Arguments match one by one, and there are as many of them. -/
  | indexer (target : Pattern) (arguments : List Pattern)
  | invocation (target : Pattern) (arguments : List Pattern)
  | objectCreate (typeName : Pattern) (arguments : List Pattern)
  | multipleExpressions (expressions : List Pattern)
  | args (arguments : List Pattern)
  /-- Statements of a block in this order, others may stand between them. -/
  | statements (items : List Pattern)
  /-- Without exception types, any type will do. -/
  | tryCatch (exceptionTypes : List Pattern) (catchBodyEmpty : Bool)
  | withStatement (expression statement : Pattern)
  /-- The body matches some member. -/
  | classDeclaration (name : Option Pattern) (baseTypes : List Pattern) (body : Option Pattern)
  /-- Methods and constructors. -/
  | methodDeclaration (name body : Option Pattern)
  | parameterDeclaration (parameterType : Option Pattern) (name : Pattern)
  | variableDeclaration (variableType : Option Pattern) (name : Pattern)
      (initializer : Option Pattern)
  deriving BEq, Inhabited

end TreeSieve
