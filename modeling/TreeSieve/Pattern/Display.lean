import TreeSieve.Decimal.Shortest
import TreeSieve.Pattern.Basic
import TreeSieve.Text.Quoted

/-!
# Patterns on one line

How a pattern is shown to people: close to the code it matches, with marks in
angle brackets for what code cannot say.
-/

namespace TreeSieve

namespace Pattern

/-- Floats from a ten-thousandth up to 10^16 are written plainly, all others
with an exponent that has a sign only if it is negative. -/
def floatLayout : Decimal.Layout :=
  { leastPlain := -4, mostPlain := 15, signedExponent := false }

/-- A unary operator with its operand. -/
def displayUnary (operator : Option UnaryOperator) (operand : String) : String :=
  match operator with
  | none => "<op>" ++ operand
  | some operator =>
      if operator.followsOperand then operand ++ operator.text
      else if operator.isWord then operator.text ++ " " ++ operand
      else operator.text ++ operand

/-- A body in braces; three dots stand for one that is left open. -/
def displayBody (body : Option String) : String :=
  " \x7b " ++ body.getD "..." ++ " \x7d"

mutual

/-- The pattern on one line. -/
def display : Pattern → String
  | any => "_"
  | anyExpression => "#"
  | conjunction patterns => "(" ++ " <&> ".intercalate (displayAll patterns) ++ ")"
  | disjunction patterns => "(" ++ " <|> ".intercalate (displayAll patterns) ++ ")"
  | negation pattern => "<~>" ++ pattern.display
  | anywhere pattern => "#(" ++ pattern.display ++ ")"
  | idToken name => name
  | idRegex regex => "<[" ++ regex.source ++ "]>"
  | stringLiteral text => Quoted.render text
  | stringRegex regex => "<\"" ++ regex.source ++ "\">"
  | commentRegex regex => "</*" ++ regex.source ++ "*/>"
  | intLiteral value => toString value
  | intRange least greatest => "<[" ++ toString least ++ ".." ++ toString greatest ++ "]>"
  | floatLiteral value => floatLayout.render value
  | booleanLiteral none => "<bool>"
  | booleanLiteral (some value) => if value then "true" else "false"
  | nullLiteral => "null"
  | baseReference => "base"
  | binaryOperator left operator right =>
      left.display ++ " " ++ (operator.map BinaryOperator.text).getD "<op>" ++ " " ++ right.display
  | unaryOperator operator operand => displayUnary operator operand.display
  | assignment left right =>
      match displayOptional right with
      | none => left.display ++ " ="
      | some right => left.display ++ " = " ++ right
  | memberReference target name => target.display ++ "." ++ name.display
  | indexer target arguments =>
      target.display ++ "[" ++ ", ".intercalate (displayAll arguments) ++ "]"
  | invocation target arguments =>
      target.display ++ "(" ++ ", ".intercalate (displayAll arguments) ++ ")"
  | objectCreate typeName arguments =>
      "new " ++ typeName.display ++ "(" ++ ", ".intercalate (displayAll arguments) ++ ")"
  | multipleExpressions expressions => ", ".intercalate (displayAll expressions)
  | args arguments => ", ".intercalate (displayAll arguments)
  | statements items => "\x7b " ++ "; ".intercalate (displayAll items) ++ " \x7d"
  | tryCatch exceptionTypes catchBodyEmpty =>
      let types := displayAll exceptionTypes
      "try \x7b \x7d catch (" ++ (if types.isEmpty then "_" else " | ".intercalate types) ++
        (if catchBodyEmpty then ") \x7b \x7d" else ") \x7b ... \x7d")
  | withStatement expression statement =>
      "with (" ++ expression.display ++ ") " ++ statement.display
  | classDeclaration name baseTypes body =>
      let bases := displayAll baseTypes
      "class " ++ (displayOptional name).getD "_" ++
        (if bases.isEmpty then "" else " : " ++ ", ".intercalate bases) ++
        displayBody (displayOptional body)
  | methodDeclaration name body =>
      (displayOptional name).getD "_" ++ "(...)" ++ displayBody (displayOptional body)
  | parameterDeclaration parameterType name =>
      ((displayOptional parameterType).map (· ++ " ")).getD "" ++ name.display
  | variableDeclaration variableType name initializer =>
      ((displayOptional variableType).map (· ++ " ")).getD "" ++ name.display ++
        ((displayOptional initializer).map (" = " ++ ·)).getD ""

/-- Every pattern of a list on a line of its own. -/
def displayAll : List Pattern → List String
  | [] => []
  | pattern :: rest => pattern.display :: displayAll rest

/-- A pattern that may be absent. -/
def displayOptional : Option Pattern → Option String
  | none => none
  | some pattern => some pattern.display

end

end Pattern

end TreeSieve
