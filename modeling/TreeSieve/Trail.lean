import TreeSieve.Source.Span

/-!
# Trails

A trail is what one attempt to match has gathered: the spans it passed and
whether it still succeeds.  Every operation gives a new trail, so an attempt
that fails leaves nothing behind in the trail it started from.
-/

namespace TreeSieve

/-- Switches of a search. -/
structure Options where
  /-- Look for further matches below a match. -/
  findAll : Bool := false
  /-- Gather the spans of nodes with children too. -/
  nonterminalSpans : Bool := false
  deriving DecidableEq, Inhabited

/-- What an attempt to match has gathered. -/
structure Trail where
  locations : List Span
  success : Bool
  options : Options
  caseInsensitive : Bool
  deriving DecidableEq, Inhabited

namespace Trail

/-- A trail at its start: nothing gathered and nothing failed. -/
def fresh (options : Options) (caseInsensitive : Bool) : Trail :=
  ⟨[], true, options, caseInsensitive⟩

/-- The trail of a failed attempt. -/
def fail (trail : Trail) : Trail :=
  { trail with success := false }

/-- Gather a span; an empty one covers no text and is left out. -/
def add (trail : Trail) (span : Span) : Trail :=
  if span.isEmpty then trail else { trail with locations := trail.locations ++ [span] }

/-- Gather the span of a node with children where that is asked for. -/
def addNonterminal (trail : Trail) (span : Span) : Trail :=
  if trail.options.nonterminalSpans then trail.add span else trail

/-- Gather the span of a node that passes a test, or fail. -/
def check (trail : Trail) (passed : Bool) (span : Span) : Trail :=
  if passed then trail.add span else trail.fail

/-- Go on with a trail that has not failed. -/
def andThen (trail : Trail) (next : Trail → Trail) : Trail :=
  if trail.success then next trail else trail

/-- Gather the span of a node whose children have matched. -/
def close (trail : Trail) (span : Span) : Trail :=
  trail.andThen (·.addNonterminal span)

end Trail

/-- A way to match one of several things, starting from a trail. -/
abbrev Attempt (α : Type) := α → Trail → Trail

/-- The first thing that matches from the given trail. -/
def firstOf {α : Type} (attempt : Attempt α) : List α → Trail → Trail
  | [], trail => trail.fail
  | candidate :: rest, trail =>
      let tried := attempt candidate trail
      if tried.success then tried else firstOf attempt rest trail

/-- Go on behind the first thing that matches from the given trail. -/
def behindFirst {α : Type} (attempt : Attempt α) (next : Attempt (List α)) : List α → Trail → Trail
  | [], trail => trail.fail
  | candidate :: rest, trail =>
      let tried := attempt candidate trail
      if tried.success then next rest tried else behindFirst attempt next rest trail

end TreeSieve
