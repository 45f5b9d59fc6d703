import Mathlib.Data.List.Forall2
import TreeSieve.Pattern.Basic
import TreeSieve.Proofs.Ust.Rooted

/-!
# What a pattern means

A pattern describes a set of nodes.  `Pattern.Holds` says which, by recursion on
the pattern and with no mention of trails: a shape is a statement about the kind
of the node and about its children, statements in order are some of the
statements of a block, and a search looks at every node that is reached.
-/

namespace TreeSieve

open Relation

namespace Ust

/-- A node is a field that declares another node. -/
def Declares (ust : Ust) (field declared : NodeId) : Prop :=
  ∃ fieldType declarators,
    ust.kind? field = some (.fieldDeclaration fieldType declarators) ∧ declared ∈ declarators

/-- A node is the type of the field around a variable. -/
def TypeOf (ust : Ust) (variableId typeId : NodeId) : Prop :=
  ∃ field declarators, ust.IsChild field variableId ∧
    ust.kind? field = some (.fieldDeclaration (some typeId) declarators)

/-- A node is an identifier or a type with a name. -/
def HasName (ust : Ust) (id : NodeId) (name : String) : Prop :=
  ust.kind? id = some (.identifier name) ∨ ust.kind? id = some (.typeToken name)

/-- A node is a block or a list of statements. -/
def HasItems (ust : Ust) (id : NodeId) (items : List NodeId) : Prop :=
  ust.kind? id = some (.block items) ∨ ust.kind? id = some (.statements items)

end Ust

namespace Pattern

/-- Two names are the same, with or without regard to case. -/
def SameName (caseInsensitive : Bool) (left right : String) : Prop :=
  if caseInsensitive then Case.lower left = Case.lower right else left = right

/-- The nodes at a list of places satisfy a list of predicates one by one. -/
abbrev OneByOne (meanings : List (NodeId → Prop)) (ids : List NodeId) : Prop :=
  List.Forall₂ (fun meaning id => meaning id) meanings ids

mutual

/-- A pattern holds at a node. -/
@[simp]
def Holds (ust : Ust) (caseInsensitive : Bool) : Pattern → NodeId → Prop
  | any, _ => True
  | anyExpression, id =>
      ∃ kind, ust.kind? id = some kind ∧
        (kind.category = .token ∨ kind.category = .expression) ∧ ∀ text, kind ≠ .comment text
  | conjunction patterns, id => ∀ part ∈ meanings ust caseInsensitive patterns, part id
  | disjunction patterns, id => ∃ part ∈ meanings ust caseInsensitive patterns, part id
  | negation pattern, id => ¬ Holds ust caseInsensitive pattern id
  | anywhere pattern, id => ∃ node, ust.Reaches id node ∧ Holds ust caseInsensitive pattern node
  | idToken name, id =>
      ∃ actual, ust.HasName id actual ∧ SameName caseInsensitive actual name
  | idRegex regex, id =>
      ∃ name, ust.HasName id name ∧ regex.occursIn caseInsensitive name = true
  | stringLiteral text, id => ust.kind? id = some (.stringLiteral text)
  | stringRegex regex, id =>
      ∃ text, ust.kind? id = some (.stringLiteral text) ∧
        regex.occursIn caseInsensitive text = true
  | commentRegex regex, id =>
      ∃ text, ust.kind? id = some (.comment text) ∧ regex.occursIn caseInsensitive text = true
  | intLiteral value, id => ust.kind? id = some (.intLiteral value)
  | intRange least greatest, id =>
      ∃ actual, ust.kind? id = some (.intLiteral actual) ∧ least ≤ actual ∧ actual ≤ greatest
  | floatLiteral value, id =>
      -- Equality of floating-point numbers: it holds between the two zeros and
      -- at no number that is not one.
      ∃ actual, ust.kind? id = some (.floatLiteral actual) ∧ (actual == value) = true
  | booleanLiteral value, id =>
      ∃ actual, ust.kind? id = some (.booleanLiteral actual) ∧ ∀ wanted ∈ value, wanted = actual
  | nullLiteral, id => ust.kind? id = some .nullLiteral
  | baseReference, id => ust.kind? id = some .baseReference
  | binaryOperator left operator right, id =>
      ∃ leftId actual rightId, ust.kind? id = some (.binaryOperator leftId actual rightId) ∧
        (∀ wanted ∈ operator, wanted = actual) ∧
          Holds ust caseInsensitive left leftId ∧ Holds ust caseInsensitive right rightId
  | unaryOperator operator operand, id =>
      ∃ actual operandId, ust.kind? id = some (.unaryOperator actual operandId) ∧
        (∀ wanted ∈ operator, wanted = actual) ∧ Holds ust caseInsensitive operand operandId
  | assignment left right, id =>
      ∃ leftId rightId, ust.kind? id = some (.assignment leftId rightId) ∧
        Holds ust caseInsensitive left leftId ∧
          ∀ part ∈ meaning? ust caseInsensitive right, ∃ node ∈ rightId, part node
  | memberReference target name, id =>
      ∃ targetId nameId, ust.kind? id = some (.memberReference targetId nameId) ∧
        (Holds ust caseInsensitive target targetId ∨
          ∃ segment,
            (∃ qualifier, ust.kind? targetId = some (.memberReference qualifier segment)) ∧
              Holds ust caseInsensitive target segment) ∧
          Holds ust caseInsensitive name nameId
  | indexer target arguments, id =>
      ∃ targetId argumentsId, ust.kind? id = some (.indexer targetId argumentsId) ∧
        Holds ust caseInsensitive target targetId ∧
          ∃ actual, ust.kind? argumentsId = some (.args actual) ∧
            OneByOne (meanings ust caseInsensitive arguments) actual
  | invocation target arguments, id =>
      ∃ targetId argumentsId, ust.kind? id = some (.invocation targetId argumentsId) ∧
        Holds ust caseInsensitive target targetId ∧
          ∃ actual, ust.kind? argumentsId = some (.args actual) ∧
            OneByOne (meanings ust caseInsensitive arguments) actual
  | objectCreate typeName arguments, id =>
      ∃ typeId argumentsId, ust.kind? id = some (.objectCreate typeId argumentsId) ∧
        Holds ust caseInsensitive typeName typeId ∧
          ∃ actual, ust.kind? argumentsId = some (.args actual) ∧
            OneByOne (meanings ust caseInsensitive arguments) actual
  | multipleExpressions expressions, id =>
      ∃ actual, ust.kind? id = some (.multipleExpressions actual) ∧
        OneByOne (meanings ust caseInsensitive expressions) actual
  | args arguments, id =>
      ∃ actual, ust.kind? id = some (.args actual) ∧
        OneByOne (meanings ust caseInsensitive arguments) actual
  | statements items, id =>
      ∃ actual, ust.HasItems id actual ∧ ∃ chosen, chosen.Sublist actual ∧
        List.Forall₂
          (fun part statement => part statement ∨
            ∃ inner, ust.kind? statement = some (.expressionStatement inner) ∧ part inner)
          (meanings ust caseInsensitive items) chosen
  | tryCatch exceptionTypes catchBodyEmpty, id =>
      ∃ tryBlock catchClauses finallyBlock,
        ust.kind? id = some (.tryCatch tryBlock catchClauses finallyBlock) ∧
          ∃ clause ∈ catchClauses, ∃ exceptionType boundName body,
            ust.kind? clause = some (.catchClause exceptionType boundName body) ∧
              (exceptionTypes = [] ∨ ∃ declared ∈ exceptionType,
                ∃ part ∈ meanings ust caseInsensitive exceptionTypes, part declared) ∧
                (catchBodyEmpty = true → ust.HasItems body [])
  | withStatement expression statement, id =>
      ∃ expressionId statementId,
        ust.kind? id = some (.withStatement expressionId statementId) ∧
          Holds ust caseInsensitive expression expressionId ∧
            Holds ust caseInsensitive statement statementId
  | classDeclaration name baseTypes body, id =>
      ∃ nameId baseIds members, ust.kind? id = some (.classDeclaration nameId baseIds members) ∧
        (∀ part ∈ meaning? ust caseInsensitive name, part nameId) ∧
          (∀ part ∈ meanings ust caseInsensitive baseTypes, ∃ base ∈ baseIds, part base) ∧
            ∀ part ∈ meaning? ust caseInsensitive body, ∃ member ∈ members, part member
  | methodDeclaration name body, id =>
      ∃ nameId parameters bodyId,
        (ust.kind? id = some (.methodDeclaration nameId parameters bodyId) ∨
          ust.kind? id = some (.constructorDeclaration nameId parameters bodyId)) ∧
          (∀ part ∈ meaning? ust caseInsensitive name, part nameId) ∧
            ∀ part ∈ meaning? ust caseInsensitive body, ∃ node ∈ bodyId, part node
  | parameterDeclaration parameterType name, id =>
      ∃ typeId nameId initializer,
        ust.kind? id = some (.parameterDeclaration typeId nameId initializer) ∧
          (∀ part ∈ meaning? ust caseInsensitive parameterType, ∃ node ∈ typeId, part node) ∧
            Holds ust caseInsensitive name nameId
  | variableDeclaration variableType name initializer, id =>
      ∃ variableId, ReflTransGen ust.Declares id variableId ∧
        ∃ nameId initializerId,
          ust.kind? variableId = some (.variableDeclaration nameId initializerId) ∧
            (∀ part ∈ meaning? ust caseInsensitive variableType,
              ∃ typeId, ust.TypeOf variableId typeId ∧ part typeId) ∧
              Holds ust caseInsensitive name nameId ∧
                ∀ part ∈ meaning? ust caseInsensitive initializer,
                  ∃ node ∈ initializerId, part node

/-- Where each pattern of a list holds. -/
@[simp]
def meanings (ust : Ust) (caseInsensitive : Bool) : List Pattern → List (NodeId → Prop)
  | [] => []
  | pattern :: rest => Holds ust caseInsensitive pattern :: meanings ust caseInsensitive rest

/-- Where a pattern holds, if there is one. -/
@[simp]
def meaning? (ust : Ust) (caseInsensitive : Bool) : Option Pattern → Option (NodeId → Prop)
  | none => none
  | some pattern => some (Holds ust caseInsensitive pattern)

end

end Pattern

end TreeSieve
