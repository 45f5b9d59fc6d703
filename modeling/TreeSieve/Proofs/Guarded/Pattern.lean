import TreeSieve.Pattern.Matching
import TreeSieve.Proofs.Guarded.Run

/-!
# Guarded matching

`Pattern.matchAt` goes down the pattern, and where it goes down the tree it counts the
nodes so as to come to an end.  Guarded matching just goes on.  What it does at one
node is `Guarded.matchNode`: it reads the node and asks for other matches, of a part of
the pattern at another node or, inside a field, of the same pattern.  A match that is
asked for has one step less than the match that asks for it.

The places that are read, and their order, are written out: the node where a pattern
is tried before anything else, its span again when its children have matched, the
parent of a variable, and the statements that are left from a place on.
-/

namespace TreeSieve

namespace Guarded

/-- A way to try one of several things. -/
abbrev Attempt (α : Type) := α → Trail → Run Trail

/-- A way to match patterns at nodes. -/
abbrev Call := Pattern → Attempt NodeId

variable {α : Type}

/-! ## One after the other -/

/-- Go on with a trail that has not failed. -/
def andThen (run : Run Trail) (next : Trail → Run Trail) : Run Trail := do
  let trail ← run
  if trail.success then next trail else return trail

/-- Keep a trail that has not failed, or else try something in its place. -/
def orElse (run : Run Trail) (other : Trail → Run Trail) : Run Trail := do
  let trail ← run
  if trail.success then return trail else other trail

/-- Gather the span of a node whose children have matched. -/
def close (ust : Ust) (id : NodeId) (run : Run Trail) : Run Trail :=
  andThen run fun trail => do
    let found ← node ust id
    return trail.addNonterminal found.span

/-- Try all of several things, up to the first that fails. -/
def allOf (attempt : Attempt α) : List α → Trail → Run Trail
  | [], trail => return trail
  | first :: rest, trail => andThen (attempt first trail) (allOf attempt rest)

/-- The first thing that matches from the given trail. -/
def firstOf (attempt : Attempt α) : List α → Trail → Run Trail
  | [], trail => return trail.fail
  | first :: rest, trail =>
      orElse (attempt first trail) fun _ => firstOf attempt rest trail

/-- The first thing that matches, by its place behind the `offset` before it, and the
trail that it leaves. -/
def findFirst (attempt : Attempt α) : (offset : Nat) → List α → Trail → Run (Option (Nat × Trail))
  | _, [], _ => return none
  | offset, first :: rest, trail => do
      let tried ← attempt first trail
      if tried.success then return some (offset, tried)
      else findFirst attempt (offset + 1) rest trail

/-! ## Patterns and nodes -/

section Steps

variable (ust : Ust) (call : Call)

/-- Match a pattern that may be absent. -/
def optional : Option Pattern → Attempt (Option NodeId)
  | none, _, trail => return trail
  | some pattern, some id, trail => call pattern id trail
  | some _, none, trail => return trail.fail

/-- Match a pattern that may be absent at some member. -/
def someMember : Option Pattern → Attempt (List NodeId)
  | none, _, trail => return trail
  | some pattern, ids, trail => firstOf (call pattern) ids trail

/-- Match patterns and as many nodes one by one. -/
def positional (patterns : List Pattern) : Attempt (List NodeId) := fun ids trail =>
  if patterns.length = ids.length then
    allOf (fun pair => call pair.1 pair.2) (patterns.zip ids) trail
  else return trail.fail

/-- Match the arguments that a node holds. -/
def arguments (patterns : List Pattern) : Attempt NodeId := fun id trail => do
  let found ← node ust id
  match found.kind with
  | .args actual => close ust id (positional call patterns actual trail)
  | _ => return trail.fail

/-- Try a node, and if it does not match the node that stands inside it. -/
def orInner (inner? : NodeKind → Option NodeId) (attempt : Attempt NodeId) : Attempt NodeId :=
  fun id trail => orElse (attempt id trail) fun tried => do
    let found ← node ust id
    match inner? found.kind with
    | some inner => attempt inner trail
    | none => return tried

/-- Match patterns in order against the statements from a place on.  Each pattern takes
the earliest that it matches, and the next one looks behind it. -/
def inOrder (ids : List NodeId) : (cursor : Nat) → List Pattern → Trail → Run Trail
  | _, [], trail => return trail
  | cursor, pattern :: patterns, trail => do
      let rest ← sliceFrom ids cursor
      match ← findFirst (orInner ust Pattern.innerExpression? (call pattern)) 0 rest trail with
      | some (offset, tried) => inOrder ids (cursor + offset + 1) patterns tried
      | none => return trail.fail

/-- Whether a node is a block without statements. -/
def isEmptyBlock (id : NodeId) : Run Bool := do
  let found ← node ust id
  return (Pattern.blockItems? found.kind).any List.isEmpty

/-- Whether the type that a catch clause declares matches one of the patterns; without
patterns any clause will do. -/
def hasType (exceptionTypes : List Pattern) (trail : Trail) (declared : Option NodeId) :
    Run Bool :=
  if exceptionTypes.isEmpty then return true
  else
    match declared with
    | none => return false
    | some id => exceptionTypes.anyM fun pattern => return (← call pattern id trail).success

/-- Whether a catch clause has one of the types and, if asked for, an empty body. -/
def clauseMatches (exceptionTypes : List Pattern) (bodyEmpty : Bool) (trail : Trail)
    (clause : NodeId) : Run Bool := do
  let found ← node ust clause
  match found.kind with
  | .catchClause exceptionType _ body =>
      if ← hasType call exceptionTypes trail exceptionType then
        if bodyEmpty then isEmptyBlock ust body else return true
      else return false
  | _ => return false

/-- The type of a variable: that of the field around it. -/
def declaredType (variableId : NodeId) : Run (Option NodeId) := do
  match ← parent ust variableId with
  | none => return none
  | some field =>
      let found ← node ust field
      match found.kind with
      | .fieldDeclaration fieldType _ => return fieldType
      | _ => return none

/-- Try the pending nodes and all that lies under them, parents before children. -/
def firstBelow (attempt : Attempt NodeId) :
    (steps : Nat) → (pending : List NodeId) → Trail → Run Trail
  | _, [], trail => return trail.fail
  | 0, _ :: _, _ => .error .outOfSteps
  | steps + 1, id :: pending, trail => do
      let found ← node ust id
      orElse (attempt id trail) fun _ =>
        firstBelow attempt steps (found.kind.children ++ pending) trail

/-- Go on as the kind of a node asks for; a kind that the shape does not fit fails. -/
def atKind (shape : NodeKind → Option (Trail → Run Trail)) (kind : NodeKind) (trail : Trail) :
    Run Trail :=
  match shape kind with
  | some step => step trail
  | none => return trail.fail

/-- Match a pattern at a node that has been read. -/
@[simp]
def matchNode (steps : Nat) (id : NodeId) (kind : NodeKind) (span : Span) :
    Pattern → Trail → Run Trail
  | .any, trail => return trail.add span
  | .anyExpression, trail => return trail.check kind.isExpression span
  | .conjunction patterns, trail => allOf (fun pattern => call pattern id) patterns trail
  | .disjunction patterns, trail => firstOf (fun pattern => call pattern id) patterns trail
  | .negation pattern, trail => do
      if (← call pattern id trail).success then return trail.fail else return trail
  | .anywhere pattern, trail =>
      orElse (call pattern id trail) fun _ =>
        firstBelow ust (call pattern) steps kind.children trail
  | .idToken name, trail =>
      atKind
        (fun
          | .identifier actual | .typeToken actual =>
              some fun trail =>
                return trail.check (Pattern.sameName trail.caseInsensitive actual name) span
          | _ => none)
        kind trail
  | .idRegex regex, trail =>
      atKind
        (fun
          | .identifier name | .typeToken name =>
              some fun trail => return Pattern.checkRegex regex name span trail
          | _ => none)
        kind trail
  | .stringLiteral text, trail =>
      atKind
        (fun
          | .stringLiteral actual =>
              some fun trail => return trail.check (actual == text) span
          | _ => none)
        kind trail
  | .stringRegex regex, trail =>
      atKind
        (fun
          | .stringLiteral text =>
              some fun trail => return Pattern.checkRegex regex text span trail
          | _ => none)
        kind trail
  | .commentRegex regex, trail =>
      atKind
        (fun
          | .comment text =>
              some fun trail => return Pattern.checkRegex regex text span trail
          | _ => none)
        kind trail
  | .intLiteral value, trail =>
      atKind
        (fun
          | .intLiteral actual =>
              some fun trail => return trail.check (actual == value) span
          | _ => none)
        kind trail
  | .intRange least greatest, trail =>
      atKind
        (fun
          | .intLiteral actual =>
              some fun trail =>
                return trail.check (least ≤ actual && actual ≤ greatest) span
          | _ => none)
        kind trail
  | .floatLiteral value, trail =>
      atKind
        (fun
          | .floatLiteral actual =>
              some fun trail => return trail.check (actual == value) span
          | _ => none)
        kind trail
  | .booleanLiteral value, trail =>
      atKind
        (fun
          | .booleanLiteral actual =>
              some fun trail => return trail.check (Pattern.admits value actual) span
          | _ => none)
        kind trail
  | .nullLiteral, trail =>
      atKind
        (fun
          | .nullLiteral => some fun trail => return trail.add span
          | _ => none)
        kind trail
  | .baseReference, trail =>
      atKind
        (fun
          | .baseReference => some fun trail => return trail.add span
          | _ => none)
        kind trail
  | .binaryOperator left operator right, trail =>
      atKind
        (fun
          | .binaryOperator leftId actual rightId =>
              some fun trail =>
                if Pattern.admits operator actual then
                  close ust id (andThen (call left leftId trail) (call right rightId))
                else return trail.fail
          | _ => none)
        kind trail
  | .unaryOperator operator operand, trail =>
      atKind
        (fun
          | .unaryOperator actual operandId =>
              some fun trail =>
                if Pattern.admits operator actual then
                  close ust id (call operand operandId trail)
                else return trail.fail
          | _ => none)
        kind trail
  | .assignment left right, trail =>
      atKind
        (fun
          | .assignment leftId rightId =>
              some fun trail =>
                close ust id (andThen (call left leftId trail) (optional call right rightId))
          | _ => none)
        kind trail
  | .memberReference target name, trail =>
      atKind
        (fun
          | .memberReference targetId nameId =>
              some fun trail =>
                close ust id
                  (andThen (orInner ust Pattern.lastSegment? (call target) targetId trail)
                    (call name nameId))
          | _ => none)
        kind trail
  | .indexer target patterns, trail =>
      atKind
        (fun
          | .indexer targetId argumentsId =>
              some fun trail =>
                close ust id
                  (andThen (call target targetId trail) (arguments ust call patterns argumentsId))
          | _ => none)
        kind trail
  | .invocation target patterns, trail =>
      atKind
        (fun
          | .invocation targetId argumentsId =>
              some fun trail =>
                close ust id
                  (andThen (call target targetId trail) (arguments ust call patterns argumentsId))
          | _ => none)
        kind trail
  | .objectCreate typeName patterns, trail =>
      atKind
        (fun
          | .objectCreate typeId argumentsId =>
              some fun trail =>
                close ust id
                  (andThen (call typeName typeId trail) (arguments ust call patterns argumentsId))
          | _ => none)
        kind trail
  | .multipleExpressions expressions, trail =>
      atKind
        (fun
          | .multipleExpressions actual =>
              some fun trail => close ust id (positional call expressions actual trail)
          | _ => none)
        kind trail
  | .args patterns, trail => arguments ust call patterns id trail
  | .statements items, trail =>
      atKind
        (fun kind => (Pattern.blockItems? kind).map fun actual trail =>
          close ust id (inOrder ust call actual 0 items trail))
        kind trail
  | .tryCatch exceptionTypes catchBodyEmpty, trail =>
      atKind
        (fun
          | .tryCatch _ catchClauses _ =>
              some fun trail => do
                let matched ←
                  catchClauses.anyM (clauseMatches ust call exceptionTypes catchBodyEmpty trail)
                return trail.check matched span
          | _ => none)
        kind trail
  | .withStatement expression statement, trail =>
      atKind
        (fun
          | .withStatement expressionId statementId =>
              some fun trail =>
                close ust id
                  (andThen (call expression expressionId trail) (call statement statementId))
          | _ => none)
        kind trail
  | .classDeclaration name baseTypes body, trail =>
      atKind
        (fun
          | .classDeclaration nameId baseIds members =>
              some fun trail =>
                close ust id
                  (andThen
                    (andThen (optional call name (some nameId) trail)
                      (allOf (fun baseType => firstOf (call baseType) baseIds) baseTypes))
                    (someMember call body members))
          | _ => none)
        kind trail
  | .methodDeclaration name body, trail =>
      atKind
        (fun
          | .methodDeclaration nameId _ bodyId | .constructorDeclaration nameId _ bodyId =>
              some fun trail =>
                close ust id
                  (andThen (optional call name (some nameId) trail) (optional call body bodyId))
          | _ => none)
        kind trail
  | .parameterDeclaration parameterType name, trail =>
      atKind
        (fun
          | .parameterDeclaration typeId nameId _ =>
              some fun trail =>
                close ust id
                  (andThen (optional call parameterType typeId trail) (call name nameId))
          | _ => none)
        kind trail
  | .variableDeclaration variableType name initializer, trail =>
      atKind
        (fun
          | .variableDeclaration nameId initializerId =>
              some fun trail => do
                let typeId ← declaredType ust id
                close ust id
                  (andThen
                    (andThen (optional call variableType typeId trail) (call name nameId))
                    (optional call initializer initializerId))
          | .fieldDeclaration _ declarators =>
              -- The variables of a field are tried with the whole pattern again.
              some fun trail =>
                close ust id
                  (firstOf (call (.variableDeclaration variableType name initializer)) declarators
                    trail)
          | _ => none)
        kind trail

/-- Match a pattern at a node, with `call` for the matches that it asks for. -/
def matchOnce (steps : Nat) : Call := fun pattern id trail => do
  let found ← node ust id
  matchNode ust call steps id found.kind found.span pattern trail

end Steps

/-- Match a pattern at a node with so many steps: matches that are asked for inside each
other take one each, and so do the nodes of a walk. -/
def matchAt (ust : Ust) : (steps : Nat) → Call
  | 0 => fun _ _ _ => .error .outOfSteps
  | steps + 1 => matchOnce ust (matchAt ust steps) steps

end Guarded

end TreeSieve
