/-!
# Spans of source text

A span is a start offset and a length, both in bytes.  An empty span has no
text of its own and does not widen a union.
-/

namespace TreeSieve

/-- A stretch of source text. -/
structure Span where
  start : UInt64
  length : UInt64
  deriving DecidableEq, Inhabited

namespace Span

/-- The span of nothing. -/
def empty : Span := ⟨0, 0⟩

/-- The span from `start` to `finish`; empty at `start` when it would end
before it begins. -/
def ofBounds (start finish : UInt64) : Span :=
  ⟨start, if finish < start then 0 else finish - start⟩

/-- The offset just after the span. -/
def finish (span : Span) : UInt64 :=
  span.start + span.length

/-- Whether the span covers no text. -/
def isEmpty (span : Span) : Bool :=
  span.length == 0

/-- Whether one span lies inside another. -/
def contains (outer inner : Span) : Bool :=
  outer.start ≤ inner.start && inner.finish ≤ outer.finish

/-- The smallest span that covers both; an empty span adds nothing. -/
def union (left right : Span) : Span :=
  if left.isEmpty then right
  else if right.isEmpty then left
  else ofBounds (min left.start right.start) (max left.finish right.finish)

/-- The smallest span that covers all. -/
def cover (spans : List Span) : Span :=
  spans.foldl union empty

/-- The bounds of a span as text. -/
def describe (span : Span) : String :=
  "[" ++ toString span.start ++ ".." ++ toString span.finish ++ ")"

end Span

end TreeSieve
