import TreeSieve.Pattern.Basic

/-!
# Parts of a pattern

Lists and options of patterns stand inside patterns, so an induction over
patterns is an induction over their parts: what holds of a pattern whenever it
holds of its parts holds of every pattern.
-/

namespace TreeSieve

namespace Pattern

/-- The patterns that a pattern consists of, in the order they are written. -/
@[simp]
def parts : Pattern → List Pattern
  | any | anyExpression | idToken _ | idRegex _ | stringLiteral _ | stringRegex _
  | commentRegex _ | intLiteral _ | intRange _ _ | floatLiteral _ | booleanLiteral _
  | nullLiteral | baseReference => []
  | conjunction patterns | disjunction patterns => patterns
  | negation pattern | anywhere pattern | unaryOperator _ pattern => [pattern]
  | binaryOperator left _ right => [left, right]
  | assignment left right => left :: right.toList
  | memberReference target name => [target, name]
  | indexer target arguments | invocation target arguments | objectCreate target arguments =>
      target :: arguments
  | multipleExpressions patterns | args patterns | statements patterns
  | tryCatch patterns _ => patterns
  | withStatement expression statement => [expression, statement]
  | classDeclaration name baseTypes body => name.toList ++ baseTypes ++ body.toList
  | methodDeclaration name body => name.toList ++ body.toList
  | parameterDeclaration parameterType name => parameterType.toList ++ [name]
  | variableDeclaration variableType name initializer =>
      variableType.toList ++ name :: initializer.toList

/-- A part is smaller than the pattern it stands in. -/
theorem sizeOf_lt_of_mem_parts {part pattern : Pattern} (member : part ∈ pattern.parts) :
    sizeOf part < sizeOf pattern := by
  have inList : ∀ {patterns : List Pattern}, part ∈ patterns → sizeOf part < sizeOf patterns :=
    List.sizeOf_lt_of_mem
  have inOption : ∀ {choice : Option Pattern}, choice = some part →
      sizeOf part < sizeOf choice := by
    rintro _ rfl
    simp
  cases pattern <;> simp at member ⊢ <;> grind

/-- Induction over the parts of a pattern. -/
theorem parts_induction {motive : Pattern → Prop}
    (step : ∀ pattern, (∀ part ∈ pattern.parts, motive part) → motive pattern)
    (pattern : Pattern) : motive pattern := by
  induction size : sizeOf pattern using Nat.strongRecOn generalizing pattern with
  | _ bound ih =>
      refine step pattern fun part member => ih (sizeOf part) ?_ part rfl
      rw [← size]
      exact sizeOf_lt_of_mem_parts member

end Pattern

end TreeSieve
