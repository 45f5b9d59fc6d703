import Mathlib.Data.List.Forall2
import TreeSieve.Proofs.Pattern.Parts

/-!
# Places inside a pattern

A place inside a pattern is a path: which of its parts to go to, which of the parts
of that part, and so on.  `partAt?` finds the pattern at a place and `replaceAt`
puts another one there.  Both go one layer at a time; `mapParts` changes the parts
of one layer and keeps all else.
-/

namespace TreeSieve

namespace Pattern

/-- The pattern with each of its parts changed, by where it stands among the
parts. -/
@[simp]
def mapParts (change : Nat → Pattern → Pattern) : Pattern → Pattern
  | conjunction patterns => conjunction (patterns.mapIdx change)
  | disjunction patterns => disjunction (patterns.mapIdx change)
  | negation pattern => negation (change 0 pattern)
  | anywhere pattern => anywhere (change 0 pattern)
  | binaryOperator left operator right => binaryOperator (change 0 left) operator (change 1 right)
  | unaryOperator operator operand => unaryOperator operator (change 0 operand)
  | assignment left right => assignment (change 0 left) (right.map (change 1))
  | memberReference target name => memberReference (change 0 target) (change 1 name)
  | indexer target arguments =>
      indexer (change 0 target) (arguments.mapIdx fun index => change (index + 1))
  | invocation target arguments =>
      invocation (change 0 target) (arguments.mapIdx fun index => change (index + 1))
  | objectCreate typeName arguments =>
      objectCreate (change 0 typeName) (arguments.mapIdx fun index => change (index + 1))
  | multipleExpressions expressions => multipleExpressions (expressions.mapIdx change)
  | args arguments => args (arguments.mapIdx change)
  | statements items => statements (items.mapIdx change)
  | tryCatch exceptionTypes catchBodyEmpty =>
      tryCatch (exceptionTypes.mapIdx change) catchBodyEmpty
  | withStatement expression statement =>
      withStatement (change 0 expression) (change 1 statement)
  | classDeclaration name baseTypes body =>
      classDeclaration (name.map (change 0))
        (baseTypes.mapIdx fun index => change (index + name.toList.length))
        (body.map (change (name.toList.length + baseTypes.length)))
  | methodDeclaration name body =>
      methodDeclaration (name.map (change 0)) (body.map (change name.toList.length))
  | parameterDeclaration parameterType name =>
      parameterDeclaration (parameterType.map (change 0))
        (change parameterType.toList.length name)
  | variableDeclaration variableType name initializer =>
      variableDeclaration (variableType.map (change 0)) (change variableType.toList.length name)
        (initializer.map (change (variableType.toList.length + 1)))
  -- The others have no parts.
  | pattern => pattern

theorem mapIdx_toList (change : Nat → Pattern → Pattern) (choice : Option Pattern) :
    choice.toList.mapIdx change = (choice.map (change 0)).toList := by
  cases choice <;> rfl

theorem parts_mapParts (change : Nat → Pattern → Pattern) (pattern : Pattern) :
    (pattern.mapParts change).parts = pattern.parts.mapIdx change := by
  cases pattern <;>
    simp [List.mapIdx_append, List.mapIdx_cons, mapIdx_toList, Nat.add_comm]

/-- The pattern at a place. -/
def partAt? : Pattern → List Nat → Option Pattern
  | pattern, [] => some pattern
  | pattern, index :: path => pattern.parts[index]?.bind fun part => part.partAt? path

/-- Put a pattern at a place; a place that is not there changes nothing. -/
def replaceAt : Pattern → List Nat → (new : Pattern) → Pattern
  | _, [], new => new
  | pattern, index :: path, new =>
      pattern.mapParts fun place part => if place = index then part.replaceAt path new else part

/-- The new pattern is found where it was put. -/
theorem partAt?_replaceAt {new old whole : Pattern} {path : List Nat}
    (found : whole.partAt? path = some old) :
    (whole.replaceAt path new).partAt? path = some new := by
  induction path generalizing whole with
  | nil => rfl
  | cons index path ih =>
      rw [partAt?, Option.bind_eq_some_iff] at found
      rcases found with ⟨part, partEq, found⟩
      rw [replaceAt, partAt?, parts_mapParts, List.getElem?_mapIdx, partEq]
      rw [Option.map_some, Option.bind_some, if_pos rfl, ih found]

/-! ## Relations between parts -/

theorem forall₂_mapIdx {related : Pattern → Pattern → Prop} {change : Nat → Pattern → Pattern}
    {patterns : List Pattern}
    (each : ∀ index part, patterns[index]? = some part → related part (change index part)) :
    List.Forall₂ related patterns (patterns.mapIdx change) := by
  induction patterns generalizing change with
  | nil => exact .nil
  | cons pattern rest ih =>
      rw [List.mapIdx_cons]
      exact .cons (each 0 pattern rfl) (ih fun index part given => each (index + 1) part given)

theorem rel_map {α : Type} {related : α → α → Prop} {change : α → α} {choice : Option α}
    (each : ∀ part, choice = some part → related part (change part)) :
    Option.Rel related choice (choice.map change) := by
  cases choice with
  | none => exact .none
  | some part => exact .some (each part rfl)

theorem rel_self {α : Type} {related : α → α → Prop} {choice : Option α}
    (each : ∀ part, choice = some part → related part part) :
    Option.Rel related choice choice := by
  cases choice with
  | none => exact .none
  | some part => exact .some (each part rfl)

end Pattern

end TreeSieve
