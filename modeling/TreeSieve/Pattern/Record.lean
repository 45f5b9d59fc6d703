import TreeSieve.Json.Tagged
import TreeSieve.Pattern.Basic

/-!
# Patterns as JSON

A pattern is a tagged record.  `ofText` reads one from text, `toJson` writes
one with all its fields in declaration order.
-/

namespace TreeSieve

open Json (Read FieldSpec Draft)

namespace Pattern

/-! ## Fields -/

/-- What the value of a field looks like. -/
inductive Shape where
  | text
  | regex
  | int
  | float
  | bool
  | optionalBool
  | optionalBinary
  | optionalUnary
  | pattern
  | optionalPattern
  | patterns

/-- The value of a field. -/
inductive FieldValue where
  | text (value : String)
  | regex (value : TextRegex)
  | int (value : Int64)
  | float (value : Float)
  | bool (value : Bool)
  | optionalBool (value : Option Bool)
  | optionalBinary (operator : Option BinaryOperator)
  | optionalUnary (operator : Option UnaryOperator)
  | pattern (pattern : Pattern)
  | optionalPattern (pattern : Option Pattern)
  | patterns (patterns : List Pattern)

/-- A field that must be present. -/
abbrev required (name : String) (shape : Shape) : FieldSpec Shape FieldValue :=
  ⟨name, shape, none⟩

/-- A pattern that may be left out. -/
abbrev optionalPattern (name : String) : FieldSpec Shape FieldValue :=
  ⟨name, .optionalPattern, some (.optionalPattern none)⟩

/-- A list of patterns that may be left out. -/
abbrev optionalPatterns (name : String) : FieldSpec Shape FieldValue :=
  ⟨name, .patterns, some (.patterns [])⟩

/-- Every kind of pattern with its fields, in declaration order. -/
def variants : List (String × List (FieldSpec Shape FieldValue)) :=
  [ ("Any", []),
    ("AnyExpression", []),
    ("And", [required "patterns" .patterns]),
    ("Or", [required "patterns" .patterns]),
    ("Not", [required "pattern" .pattern]),
    ("ArbitraryDepth", [required "pattern" .pattern]),
    ("IdToken", [required "name" .text]),
    ("IdRegex", [required "regex" .regex]),
    ("StringLiteral", [required "text" .text]),
    ("StringRegex", [required "regex" .regex]),
    ("CommentRegex", [required "regex" .regex]),
    ("IntLiteral", [required "value" .int]),
    ("IntRange", [required "min" .int, required "max" .int]),
    ("FloatLiteral", [required "value" .float]),
    ("BooleanLiteral", [⟨"value", .optionalBool, some (.optionalBool none)⟩]),
    ("NullLiteral", []),
    ("BaseReference", []),
    ("BinaryOperator",
      [ required "left" .pattern,
        ⟨"operator", .optionalBinary, some (.optionalBinary none)⟩,
        required "right" .pattern ]),
    ("UnaryOperator",
      [ ⟨"operator", .optionalUnary, some (.optionalUnary none)⟩,
        required "operand" .pattern ]),
    ("Assignment", [required "left" .pattern, optionalPattern "right"]),
    ("MemberReference", [required "target" .pattern, required "name" .pattern]),
    ("Indexer", [required "target" .pattern, required "arguments" .patterns]),
    ("Invocation", [required "target" .pattern, required "arguments" .patterns]),
    ("ObjectCreate", [required "type" .pattern, required "arguments" .patterns]),
    ("MultipleExpressions", [required "expressions" .patterns]),
    ("Args", [required "arguments" .patterns]),
    ("Statements", [required "statements" .patterns]),
    ("TryCatch",
      [ optionalPatterns "exception_types",
        ⟨"is_catch_body_empty", .bool, some (.bool true)⟩ ]),
    ("With", [required "expression" .pattern, required "statement" .pattern]),
    ("ClassDeclaration",
      [optionalPattern "name", optionalPatterns "base_types", optionalPattern "body"]),
    ("MethodDeclaration", [optionalPattern "name", optionalPattern "body"]),
    ("ParameterDeclaration", [optionalPattern "param_type", required "name" .pattern]),
    ("VarOrFieldDeclaration",
      [optionalPattern "var_type", required "name" .pattern, optionalPattern "initializer"]) ]

/-- The names of all kinds, in declaration order. -/
def variantNames : List String :=
  variants.map (·.1)

/-- The fields of the kind with this name. -/
def fieldsOf (name : String) : List (FieldSpec Shape FieldValue) :=
  ((variants.find? (·.1 == name)).map (·.2)).getD []

/-- The pattern with this name and these field values. -/
def ofFields? (name : String) (values : List FieldValue) : Option Pattern :=
  match name, values with
  | "Any", [] => some .any
  | "AnyExpression", [] => some .anyExpression
  | "And", [.patterns patterns] => some (.conjunction patterns)
  | "Or", [.patterns patterns] => some (.disjunction patterns)
  | "Not", [.pattern pattern] => some (.negation pattern)
  | "ArbitraryDepth", [.pattern pattern] => some (.anywhere pattern)
  | "IdToken", [.text name] => some (.idToken name)
  | "IdRegex", [.regex regex] => some (.idRegex regex)
  | "StringLiteral", [.text text] => some (.stringLiteral text)
  | "StringRegex", [.regex regex] => some (.stringRegex regex)
  | "CommentRegex", [.regex regex] => some (.commentRegex regex)
  | "IntLiteral", [.int value] => some (.intLiteral value)
  | "IntRange", [.int least, .int greatest] => some (.intRange least greatest)
  | "FloatLiteral", [.float value] => some (.floatLiteral value)
  | "BooleanLiteral", [.optionalBool value] => some (.booleanLiteral value)
  | "NullLiteral", [] => some .nullLiteral
  | "BaseReference", [] => some .baseReference
  | "BinaryOperator", [.pattern left, .optionalBinary operator, .pattern right] =>
      some (.binaryOperator left operator right)
  | "UnaryOperator", [.optionalUnary operator, .pattern operand] =>
      some (.unaryOperator operator operand)
  | "Assignment", [.pattern left, .optionalPattern right] => some (.assignment left right)
  | "MemberReference", [.pattern target, .pattern name] => some (.memberReference target name)
  | "Indexer", [.pattern target, .patterns arguments] => some (.indexer target arguments)
  | "Invocation", [.pattern target, .patterns arguments] => some (.invocation target arguments)
  | "ObjectCreate", [.pattern typeName, .patterns arguments] =>
      some (.objectCreate typeName arguments)
  | "MultipleExpressions", [.patterns expressions] => some (.multipleExpressions expressions)
  | "Args", [.patterns arguments] => some (.args arguments)
  | "Statements", [.patterns items] => some (.statements items)
  | "TryCatch", [.patterns exceptionTypes, .bool catchBodyEmpty] =>
      some (.tryCatch exceptionTypes catchBodyEmpty)
  | "With", [.pattern expression, .pattern statement] =>
      some (.withStatement expression statement)
  | "ClassDeclaration", [.optionalPattern name, .patterns baseTypes, .optionalPattern body] =>
      some (.classDeclaration name baseTypes body)
  | "MethodDeclaration", [.optionalPattern name, .optionalPattern body] =>
      some (.methodDeclaration name body)
  | "ParameterDeclaration", [.optionalPattern parameterType, .pattern name] =>
      some (.parameterDeclaration parameterType name)
  | "VarOrFieldDeclaration",
      [.optionalPattern variableType, .pattern name, .optionalPattern initializer] =>
      some (.variableDeclaration variableType name initializer)
  | _, _ => none

/-- Put a pattern together from the values of its fields. -/
def build (name : String) (values : List FieldValue) : Read Pattern :=
  (ofFields? name values).elim (.error (.unknownVariant name)) .ok

/-! ## Reading -/

/-- Read a regular expression from its source. -/
def readRegex (value : Json) : Read TextRegex := do
  let source ← Json.readString value
  (TextRegex.ofSource? source).elim (.error (.invalidRegex source)) .ok

/-- Read the value of a field, given how it reads as a pattern and as a list of
patterns. -/
def readField (asPattern : Unit → Read Pattern) (asPatterns : Unit → Read (List Pattern))
    (value : Json) : Shape → Read FieldValue
  | .text => (Json.readString value).map .text
  | .regex => (readRegex value).map .regex
  | .int => (Json.readInt64 value).map .int
  | .float => (Json.readFloat value).map .float
  | .bool => (Json.readBool value).map .bool
  | .optionalBool => (Json.readOption Json.readBool value).map .optionalBool
  | .optionalBinary =>
      (Json.readOption (Json.readName BinaryOperator.ofName?) value).map .optionalBinary
  | .optionalUnary =>
      (Json.readOption (Json.readName UnaryOperator.ofName?) value).map .optionalUnary
  | .pattern => (asPattern ()).map .pattern
  | .optionalPattern =>
      (Json.readOption (fun _ => asPattern ()) value).map .optionalPattern
  | .patterns => (asPatterns ()).map .patterns

mutual

/-- Read a pattern. -/
def ofJson : Json → Read Pattern
  | .object members => do
      let name ← Json.findTag variantNames none members
      let specs := fieldsOf name
      let slots ← ofMembers specs (Json.emptySlots specs) members
      build name (← Json.closeSlots specs slots)
  | .array (tag :: items) => do
      let name ← Json.readTag variantNames tag
      build name (← ofItems 0 (fieldsOf name) items)
  | .array [] => .error (.missingField Json.tagKey)
  | value => .error (Json.mismatch value)

/-- Read a list of patterns. -/
def listOfJson : Json → Read (List Pattern)
  | .array items => listOfItems items
  | value => .error (Json.mismatch value)

/-- Read every item as a pattern. -/
def listOfItems : List Json → Read (List Pattern)
  | [] => .ok []
  | item :: rest => do
      let pattern ← ofJson item
      let patterns ← listOfItems rest
      return pattern :: patterns

/-- Read members in document order into the slots of their fields. -/
def ofMembers (specs : List (FieldSpec Shape FieldValue)) :
    List (Option FieldValue) → List (String × Json) → Read (List (Option FieldValue))
  | slots, [] => .ok slots
  | slots, (key, value) :: rest => do
      let slots ← Json.fillSlot key
        (readField (fun _ => ofJson value) (fun _ => listOfJson value) value) specs slots
      ofMembers specs slots rest

/-- Read the items of an array as fields; `count` items come before them. -/
def ofItems (count : Nat) :
    List (FieldSpec Shape FieldValue) → List Json → Read (List FieldValue)
  | specs, [] => Json.closeItems count specs
  | [], items => .error (.invalidLength (count + items.length))
  | spec :: specs, item :: rest => do
      let value ← readField (fun _ => ofJson item) (fun _ => listOfJson item) item spec.shape
      let values ← ofItems (count + 1) specs rest
      return value :: values

end

/-- Read the pattern with this name from its fields. -/
def ofContent (name : String) : Json.Content → Read Pattern
  | .members members => do
      let specs := fieldsOf name
      let slots ← ofMembers specs (Json.emptySlots specs) members
      build name (← Json.closeSlots specs slots)
  | .items items => do
      build name (← ofItems 0 (fieldsOf name) items)

/-- Read a pattern from a whole text. -/
def ofText (text : String) : Read Pattern :=
  Json.readText (fun draft => do
    let (name, content) ← draft.readTagged variantNames Draft.maxDepth
    ofContent name content) text

/-! ## Writing -/

/-- A tagged record with its fields. -/
def tagged (name : String) (fields : List (String × Json)) : Json :=
  .object ((Json.tagKey, .string name) :: fields)

/-- A regular expression as JSON. -/
def regexToJson (regex : TextRegex) : Json :=
  .string regex.source

mutual

/-- A pattern as JSON. -/
def toJson : Pattern → Json
  | any => tagged "Any" []
  | anyExpression => tagged "AnyExpression" []
  | conjunction patterns => tagged "And" [("patterns", .array (allToJson patterns))]
  | disjunction patterns => tagged "Or" [("patterns", .array (allToJson patterns))]
  | negation pattern => tagged "Not" [("pattern", pattern.toJson)]
  | anywhere pattern => tagged "ArbitraryDepth" [("pattern", pattern.toJson)]
  | idToken name => tagged "IdToken" [("name", .string name)]
  | idRegex regex => tagged "IdRegex" [("regex", regexToJson regex)]
  | stringLiteral text => tagged "StringLiteral" [("text", .string text)]
  | stringRegex regex => tagged "StringRegex" [("regex", regexToJson regex)]
  | commentRegex regex => tagged "CommentRegex" [("regex", regexToJson regex)]
  | intLiteral value => tagged "IntLiteral" [("value", .int value.toInt)]
  | intRange least greatest =>
      tagged "IntRange" [("min", .int least.toInt), ("max", .int greatest.toInt)]
  | floatLiteral value => tagged "FloatLiteral" [("value", .float value)]
  | booleanLiteral value => tagged "BooleanLiteral" [("value", Json.optional (value.map .bool))]
  | nullLiteral => tagged "NullLiteral" []
  | baseReference => tagged "BaseReference" []
  | binaryOperator left operator right =>
      tagged "BinaryOperator"
        [ ("left", left.toJson),
          ("operator", Json.optionalString (operator.map BinaryOperator.name)),
          ("right", right.toJson) ]
  | unaryOperator operator operand =>
      tagged "UnaryOperator"
        [ ("operator", Json.optionalString (operator.map UnaryOperator.name)),
          ("operand", operand.toJson) ]
  | assignment left right =>
      tagged "Assignment" [("left", left.toJson), ("right", optionalToJson right)]
  | memberReference target name =>
      tagged "MemberReference" [("target", target.toJson), ("name", name.toJson)]
  | indexer target arguments =>
      tagged "Indexer" [("target", target.toJson), ("arguments", .array (allToJson arguments))]
  | invocation target arguments =>
      tagged "Invocation" [("target", target.toJson), ("arguments", .array (allToJson arguments))]
  | objectCreate typeName arguments =>
      tagged "ObjectCreate"
        [("type", typeName.toJson), ("arguments", .array (allToJson arguments))]
  | multipleExpressions expressions =>
      tagged "MultipleExpressions" [("expressions", .array (allToJson expressions))]
  | args arguments => tagged "Args" [("arguments", .array (allToJson arguments))]
  | statements items => tagged "Statements" [("statements", .array (allToJson items))]
  | tryCatch exceptionTypes catchBodyEmpty =>
      tagged "TryCatch"
        [ ("exception_types", .array (allToJson exceptionTypes)),
          ("is_catch_body_empty", .bool catchBodyEmpty) ]
  | withStatement expression statement =>
      tagged "With" [("expression", expression.toJson), ("statement", statement.toJson)]
  | classDeclaration name baseTypes body =>
      tagged "ClassDeclaration"
        [ ("name", optionalToJson name), ("base_types", .array (allToJson baseTypes)),
          ("body", optionalToJson body) ]
  | methodDeclaration name body =>
      tagged "MethodDeclaration" [("name", optionalToJson name), ("body", optionalToJson body)]
  | parameterDeclaration parameterType name =>
      tagged "ParameterDeclaration"
        [("param_type", optionalToJson parameterType), ("name", name.toJson)]
  | variableDeclaration variableType name initializer =>
      tagged "VarOrFieldDeclaration"
        [ ("var_type", optionalToJson variableType), ("name", name.toJson),
          ("initializer", optionalToJson initializer) ]

/-- All patterns of a list as JSON. -/
def allToJson : List Pattern → List Json
  | [] => []
  | pattern :: rest => pattern.toJson :: allToJson rest

/-- A pattern or null. -/
def optionalToJson : Option Pattern → Json
  | none => .null
  | some pattern => pattern.toJson

end

/-- A pattern as text. -/
def render (pattern : Pattern) : String :=
  pattern.toJson.render

end Pattern

end TreeSieve
