/-!
# Operators

The binary and unary operators of expressions, by name and as they are written.
-/

namespace TreeSieve

/-- An operator between two operands. -/
inductive BinaryOperator where
  | plus
  | minus
  | multiply
  | divide
  | mod
  | bitwiseAnd
  | bitwiseOr
  | bitwiseXor
  | logicalAnd
  | logicalOr
  | equal
  | notEqual
  | strictEqual
  | strictNotEqual
  | less
  | lessOrEqual
  | greater
  | greaterOrEqual
  | shiftLeft
  | shiftRight
  | is
  | as
  | nullCoalescing
  deriving DecidableEq, Inhabited

namespace BinaryOperator

/-- Every binary operator. -/
def all : List BinaryOperator :=
  [plus, minus, multiply, divide, mod, bitwiseAnd, bitwiseOr, bitwiseXor, logicalAnd, logicalOr,
    equal, notEqual, strictEqual, strictNotEqual, less, lessOrEqual, greater, greaterOrEqual,
    shiftLeft, shiftRight, is, as, nullCoalescing]

/-- The name used in data. -/
def name : BinaryOperator → String
  | plus => "Plus"
  | minus => "Minus"
  | multiply => "Multiply"
  | divide => "Divide"
  | mod => "Mod"
  | bitwiseAnd => "BitwiseAnd"
  | bitwiseOr => "BitwiseOr"
  | bitwiseXor => "BitwiseXor"
  | logicalAnd => "LogicalAnd"
  | logicalOr => "LogicalOr"
  | equal => "Equal"
  | notEqual => "NotEqual"
  | strictEqual => "StrictEqual"
  | strictNotEqual => "StrictNotEqual"
  | less => "Less"
  | lessOrEqual => "LessOrEqual"
  | greater => "Greater"
  | greaterOrEqual => "GreaterOrEqual"
  | shiftLeft => "ShiftLeft"
  | shiftRight => "ShiftRight"
  | is => "Is"
  | as => "As"
  | nullCoalescing => "NullCoalescing"

/-- The operator as it is written between its operands. -/
def text : BinaryOperator → String
  | plus => "+"
  | minus => "-"
  | multiply => "*"
  | divide => "/"
  | mod => "%"
  | bitwiseAnd => "&"
  | bitwiseOr => "|"
  | bitwiseXor => "^"
  | logicalAnd => "&&"
  | logicalOr => "||"
  | equal => "=="
  | notEqual => "!="
  | strictEqual => "==="
  | strictNotEqual => "!=="
  | less => "<"
  | lessOrEqual => "<="
  | greater => ">"
  | greaterOrEqual => ">="
  | shiftLeft => "<<"
  | shiftRight => ">>"
  | is => "is"
  | as => "as"
  | nullCoalescing => "??"

/-- The operator with this name. -/
def ofName? (name : String) : Option BinaryOperator :=
  all.find? (·.name == name)

theorem ofName?_name (operator : BinaryOperator) : ofName? operator.name = some operator := by
  cases operator <;> rfl

end BinaryOperator

/-- An operator with one operand. -/
inductive UnaryOperator where
  | plus
  | minus
  | not
  | bitwiseNot
  | increment
  | decrement
  | postIncrement
  | postDecrement
  | typeOf
  | delete
  | await
  | void
  deriving DecidableEq, Inhabited

namespace UnaryOperator

/-- Every unary operator. -/
def all : List UnaryOperator :=
  [plus, minus, not, bitwiseNot, increment, decrement, postIncrement, postDecrement, typeOf,
    delete, await, void]

/-- The name used in data. -/
def name : UnaryOperator → String
  | plus => "Plus"
  | minus => "Minus"
  | not => "Not"
  | bitwiseNot => "BitwiseNot"
  | increment => "Increment"
  | decrement => "Decrement"
  | postIncrement => "PostIncrement"
  | postDecrement => "PostDecrement"
  | typeOf => "TypeOf"
  | delete => "Delete"
  | await => "Await"
  | void => "Void"

/-- The operator as it is written beside its operand. -/
def text : UnaryOperator → String
  | plus => "+"
  | minus => "-"
  | not => "!"
  | bitwiseNot => "~"
  | increment => "++"
  | decrement => "--"
  | postIncrement => "++"
  | postDecrement => "--"
  | typeOf => "typeof"
  | delete => "delete"
  | await => "await"
  | void => "void"

/-- Whether the operator follows its operand. -/
def followsOperand : UnaryOperator → Bool
  | postIncrement => true
  | postDecrement => true
  | _ => false

/-- Whether the operator is a word, which a blank divides from its operand. -/
def isWord : UnaryOperator → Bool
  | typeOf => true
  | delete => true
  | await => true
  | void => true
  | _ => false

/-- The operator with this name. -/
def ofName? (name : String) : Option UnaryOperator :=
  all.find? (·.name == name)

theorem ofName?_name (operator : UnaryOperator) : ofName? operator.name = some operator := by
  cases operator <;> rfl

end UnaryOperator

end TreeSieve
