import TreeSieve.Pattern.Basic
import TreeSieve.Trail
import TreeSieve.Ust.Tree

/-!
# Matching a pattern at a node

`Pattern.matchAt` tries a pattern at one node and extends a trail.  It recurs
on the pattern; only the search below a node and the declarations inside a
field go down the tree on their own.
-/

namespace TreeSieve

namespace Pattern

/-- Whether two names are the same, with or without regard to case. -/
def sameName (caseInsensitive : Bool) (left right : String) : Bool :=
  if caseInsensitive then Case.lower left == Case.lower right else left == right

/-- Whether the choice of an operator, if there is one, is the operator. -/
def admits {α : Type} [BEq α] (choice : Option α) (actual : α) : Bool :=
  choice.all (· == actual)

/-- Match a regular expression against the text of a node. -/
def checkRegex (regex : TextRegex) (text : String) (span : Span) (trail : Trail) : Trail :=
  trail.check (regex.occursIn trail.caseInsensitive text) span

/-- Try a node as its kind asks for; a kind that the shape does not fit fails. -/
def atKind (ust : Ust) (shape : NodeKind → Option (Trail → Trail)) : Attempt NodeId :=
  fun id trail =>
    match (ust.kind? id).bind shape with
    | some step => step trail
    | none => trail.fail

/-- Try a node, and if it does not match the node that stands inside it. -/
def orInner (ust : Ust) (inner? : NodeKind → Option NodeId) (attempt : Attempt NodeId) :
    Attempt NodeId := fun id trail =>
  let tried := attempt id trail
  if tried.success then tried
  else
    match (ust.kind? id).bind inner? with
    | some inner => attempt inner trail
    | none => tried

/-- The last segment of a qualified name. -/
def lastSegment? : NodeKind → Option NodeId
  | .memberReference _ name => some name
  | _ => none

/-- The expression that a statement consists of. -/
def innerExpression? : NodeKind → Option NodeId
  | .expressionStatement expression => some expression
  | _ => none

/-- The statements of a block or a list of statements. -/
def blockItems? : NodeKind → Option (List NodeId)
  | .block items => some items
  | .statements items => some items
  | _ => none

/-- Whether a node is a block without statements. -/
def isEmptyBlock (ust : Ust) (id : NodeId) : Bool :=
  ((ust.kind? id).bind blockItems?).any List.isEmpty

/-- The type of a variable: that of the field around it. -/
def declaredType? (ust : Ust) (variableId : NodeId) : Option NodeId := do
  let parent ← ust.parent? variableId
  match ← ust.kind? parent with
  | .fieldDeclaration fieldType _ => fieldType
  | _ => none

/-- Whether a catch clause has one of the types and, if asked for, an empty
body.  `hasType` tries the type that the clause declares. -/
def clauseMatches (ust : Ust) (anyType bodyEmpty : Bool) (hasType : NodeId → Bool)
    (clause : NodeId) : Bool :=
  match ust.kind? clause with
  | some (.catchClause exceptionType _ body) =>
      (anyType || exceptionType.any hasType) && (!bodyEmpty || isEmptyBlock ust body)
  | _ => false

/-- Try a list of nodes that has exactly `count` members. -/
def exactly (count : Nat) (attempt : Attempt (List NodeId)) : Attempt (List NodeId) :=
  fun ids trail => if count = ids.length then attempt ids trail else trail.fail

/-- Try the arguments that a node holds, `count` of them. -/
def atArguments (ust : Ust) (count : Nat) (attempt : Attempt (List NodeId)) : Attempt NodeId :=
  fun id =>
    atKind ust
      (fun
        | .args actual =>
            some fun trail => (exactly count attempt actual trail).close (ust.span id)
        | _ => none)
      id

/-- Try a variable, or the variables of a field, which may be fields again.
`declared` tries a variable with its name and its initial value. -/
def matchDeclared (ust : Ust) (declared : NodeId → NodeId → Option NodeId → Trail → Trail) :
    (depth : Nat) → Attempt NodeId
  | 0, _, trail => trail.fail
  | depth + 1, id, trail =>
      atKind ust
        (fun
          | .variableDeclaration nameId initializerId =>
              some fun trail => (declared id nameId initializerId trail).close (ust.span id)
          | .fieldDeclaration _ declarators =>
              some fun trail =>
                (firstOf (matchDeclared ust declared depth) declarators trail).close (ust.span id)
          | _ => none)
        id trail

mutual

/-- Match a pattern at a node, starting from a trail. -/
def matchAt (ust : Ust) : Pattern → Attempt NodeId
  | any, id, trail => trail.add (ust.span id)
  | anyExpression, id, trail =>
      trail.check ((ust.kind? id).any NodeKind.isExpression) (ust.span id)
  | conjunction patterns, id, trail => matchAll ust patterns id trail
  | disjunction patterns, id, trail => matchSome ust patterns id trail
  | negation pattern, id, trail =>
      if (matchAt ust pattern id trail).success then trail.fail else trail
  | anywhere pattern, id, trail =>
      firstOf (fun node trail => matchAt ust pattern node trail) (id :: ust.descendants id) trail
  | idToken name, id, trail =>
      atKind ust
        (fun
          | .identifier actual | .typeToken actual =>
              some fun trail =>
                trail.check (sameName trail.caseInsensitive actual name) (ust.span id)
          | _ => none)
        id trail
  | idRegex regex, id, trail =>
      atKind ust
        (fun
          | .identifier name | .typeToken name => some (checkRegex regex name (ust.span id))
          | _ => none)
        id trail
  | stringLiteral text, id, trail =>
      atKind ust
        (fun
          | .stringLiteral actual => some fun trail => trail.check (actual == text) (ust.span id)
          | _ => none)
        id trail
  | stringRegex regex, id, trail =>
      atKind ust
        (fun
          | .stringLiteral text => some (checkRegex regex text (ust.span id))
          | _ => none)
        id trail
  | commentRegex regex, id, trail =>
      atKind ust
        (fun
          | .comment text => some (checkRegex regex text (ust.span id))
          | _ => none)
        id trail
  | intLiteral value, id, trail =>
      atKind ust
        (fun
          | .intLiteral actual => some fun trail => trail.check (actual == value) (ust.span id)
          | _ => none)
        id trail
  | intRange least greatest, id, trail =>
      atKind ust
        (fun
          | .intLiteral actual =>
              some fun trail => trail.check (least ≤ actual && actual ≤ greatest) (ust.span id)
          | _ => none)
        id trail
  | floatLiteral value, id, trail =>
      atKind ust
        (fun
          | .floatLiteral actual => some fun trail => trail.check (actual == value) (ust.span id)
          | _ => none)
        id trail
  | booleanLiteral value, id, trail =>
      atKind ust
        (fun
          | .booleanLiteral actual =>
              some fun trail => trail.check (admits value actual) (ust.span id)
          | _ => none)
        id trail
  | nullLiteral, id, trail =>
      atKind ust
        (fun
          | .nullLiteral => some fun trail => trail.add (ust.span id)
          | _ => none)
        id trail
  | baseReference, id, trail =>
      atKind ust
        (fun
          | .baseReference => some fun trail => trail.add (ust.span id)
          | _ => none)
        id trail
  | binaryOperator left operator right, id, trail =>
      atKind ust
        (fun
          | .binaryOperator leftId actual rightId =>
              some fun trail =>
                if admits operator actual then
                  ((matchAt ust left leftId trail).andThen fun trail =>
                    matchAt ust right rightId trail).close (ust.span id)
                else trail.fail
          | _ => none)
        id trail
  | unaryOperator operator operand, id, trail =>
      atKind ust
        (fun
          | .unaryOperator actual operandId =>
              some fun trail =>
                if admits operator actual then
                  (matchAt ust operand operandId trail).close (ust.span id)
                else trail.fail
          | _ => none)
        id trail
  | assignment left right, id, trail =>
      atKind ust
        (fun
          | .assignment leftId rightId =>
              some fun trail =>
                ((matchAt ust left leftId trail).andThen fun trail =>
                  matchOptional ust right rightId trail).close (ust.span id)
          | _ => none)
        id trail
  | memberReference target name, id, trail =>
      atKind ust
        (fun
          | .memberReference targetId nameId =>
              some fun trail =>
                ((orInner ust lastSegment? (fun node trail => matchAt ust target node trail)
                    targetId trail).andThen fun trail =>
                  matchAt ust name nameId trail).close (ust.span id)
          | _ => none)
        id trail
  | indexer target arguments, id, trail =>
      atKind ust
        (fun
          | .indexer targetId argumentsId =>
              some fun trail =>
                ((matchAt ust target targetId trail).andThen fun trail =>
                  atArguments ust arguments.length
                    (fun ids trail => matchPairs ust arguments ids trail) argumentsId trail).close
                  (ust.span id)
          | _ => none)
        id trail
  | invocation target arguments, id, trail =>
      atKind ust
        (fun
          | .invocation targetId argumentsId =>
              some fun trail =>
                ((matchAt ust target targetId trail).andThen fun trail =>
                  atArguments ust arguments.length
                    (fun ids trail => matchPairs ust arguments ids trail) argumentsId trail).close
                  (ust.span id)
          | _ => none)
        id trail
  | objectCreate typeName arguments, id, trail =>
      atKind ust
        (fun
          | .objectCreate typeId argumentsId =>
              some fun trail =>
                ((matchAt ust typeName typeId trail).andThen fun trail =>
                  atArguments ust arguments.length
                    (fun ids trail => matchPairs ust arguments ids trail) argumentsId trail).close
                  (ust.span id)
          | _ => none)
        id trail
  | multipleExpressions expressions, id, trail =>
      atKind ust
        (fun
          | .multipleExpressions actual =>
              some fun trail =>
                (exactly expressions.length
                  (fun ids trail => matchPairs ust expressions ids trail) actual trail).close
                  (ust.span id)
          | _ => none)
        id trail
  | args arguments, id, trail =>
      atArguments ust arguments.length (fun ids trail => matchPairs ust arguments ids trail) id
        trail
  | statements items, id, trail =>
      atKind ust
        (fun kind => (blockItems? kind).map fun actual trail =>
          (matchInOrder ust items actual trail).close (ust.span id))
        id trail
  | tryCatch exceptionTypes catchBodyEmpty, id, trail =>
      atKind ust
        (fun
          | .tryCatch _ catchClauses _ =>
              some fun trail =>
                trail.check
                  (catchClauses.any
                    (clauseMatches ust exceptionTypes.isEmpty catchBodyEmpty
                      (fun declared => (matchSome ust exceptionTypes declared trail).success)))
                  (ust.span id)
          | _ => none)
        id trail
  | withStatement expression statement, id, trail =>
      atKind ust
        (fun
          | .withStatement expressionId statementId =>
              some fun trail =>
                ((matchAt ust expression expressionId trail).andThen fun trail =>
                  matchAt ust statement statementId trail).close (ust.span id)
          | _ => none)
        id trail
  | classDeclaration name baseTypes body, id, trail =>
      atKind ust
        (fun
          | .classDeclaration nameId baseIds members =>
              some fun trail =>
                (((matchOptional ust name (some nameId) trail).andThen fun trail =>
                  matchBases ust baseTypes baseIds trail).andThen fun trail =>
                    matchMember ust body members trail).close (ust.span id)
          | _ => none)
        id trail
  | methodDeclaration name body, id, trail =>
      atKind ust
        (fun
          | .methodDeclaration nameId _ bodyId | .constructorDeclaration nameId _ bodyId =>
              some fun trail =>
                ((matchOptional ust name (some nameId) trail).andThen fun trail =>
                  matchOptional ust body bodyId trail).close (ust.span id)
          | _ => none)
        id trail
  | parameterDeclaration parameterType name, id, trail =>
      atKind ust
        (fun
          | .parameterDeclaration typeId nameId _ =>
              some fun trail =>
                ((matchOptional ust parameterType typeId trail).andThen fun trail =>
                  matchAt ust name nameId trail).close (ust.span id)
          | _ => none)
        id trail
  | variableDeclaration variableType name initializer, id, trail =>
      matchDeclared ust
        (fun variableId nameId initializerId trail =>
          ((matchOptional ust variableType (declaredType? ust variableId) trail).andThen
            fun trail => matchAt ust name nameId trail).andThen
              fun trail => matchOptional ust initializer initializerId trail)
        ust.size id trail

/-- Match all patterns at one node, up to the first that fails. -/
def matchAll (ust : Ust) : List Pattern → Attempt NodeId
  | [], _, trail => trail
  | pattern :: rest, id, trail =>
      (matchAt ust pattern id trail).andThen fun trail => matchAll ust rest id trail

/-- Match the first pattern that succeeds at one node. -/
def matchSome (ust : Ust) : List Pattern → Attempt NodeId
  | [], _, trail => trail.fail
  | pattern :: rest, id, trail =>
      let tried := matchAt ust pattern id trail
      if tried.success then tried else matchSome ust rest id trail

/-- Match a pattern that may be absent: without a pattern anything will do,
with one there must be a node. -/
def matchOptional (ust : Ust) : Option Pattern → Attempt (Option NodeId)
  | none, _, trail => trail
  | some pattern, some id, trail => matchAt ust pattern id trail
  | some _, none, trail => trail.fail

/-- Match patterns and nodes one by one, up to the first that fails. -/
def matchPairs (ust : Ust) : List Pattern → Attempt (List NodeId)
  | pattern :: patterns, id :: ids, trail =>
      (matchAt ust pattern id trail).andThen fun trail => matchPairs ust patterns ids trail
  | _, _, trail => trail

/-- Match patterns in order against some of the statements, each pattern at
the earliest statement behind the one before it. -/
def matchInOrder (ust : Ust) : List Pattern → Attempt (List NodeId)
  | [], _, trail => trail
  | pattern :: patterns, ids, trail =>
      behindFirst (orInner ust innerExpression? fun id trail => matchAt ust pattern id trail)
        (fun rest trail => matchInOrder ust patterns rest trail) ids trail

/-- Match every pattern at some base type, up to the first that fails. -/
def matchBases (ust : Ust) : List Pattern → Attempt (List NodeId)
  | [], _, trail => trail
  | pattern :: patterns, ids, trail =>
      (firstOf (fun id trail => matchAt ust pattern id trail) ids trail).andThen
        fun trail => matchBases ust patterns ids trail

/-- Match a pattern that may be absent at some member. -/
def matchMember (ust : Ust) : Option Pattern → Attempt (List NodeId)
  | none, _, trail => trail
  | some pattern, ids, trail => firstOf (fun id trail => matchAt ust pattern id trail) ids trail

end

end Pattern

end TreeSieve
