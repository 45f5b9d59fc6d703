import TreeSieve.Proofs.Pattern.Decides
import TreeSieve.Proofs.Pattern.Uniform

/-!
# The earliest statements

Patterns for statements are matched in order, and each of them takes the first
statement behind the one before it that it matches.  Nothing is lost by that: if
the patterns can be given statements in order at all, matching succeeds, and no
other way to give them statements has any of them earlier.

That taking the earliest is best is a fact about lists and is shown there, one
item after the other.  What is gathered on the way is then what each pattern
gathers by itself.
-/

namespace TreeSieve

/-! ## Places in a list -/

section Places

variable {α β : Type}

/-- Places in a list, one for each thing that is wanted and in increasing order,
with items that fit what is wanted. -/
structure Placed (fits : β → α → Prop) (wanted : List β) (items : List α)
    (places : List Nat) : Prop where
  increasing : places.Pairwise (· < ·)
  fitting : List.Forall₂ (fun want place => ∃ item, items[place]? = some item ∧ fits want item)
    wanted places

/-- Places that are not behind any others, one by one. -/
structure Earliest (fits : β → α → Prop) (wanted : List β) (items : List α)
    (places : List Nat) : Prop extends Placed fits wanted items places where
  le : ∀ other, Placed fits wanted items other → List.Forall₂ (· ≤ ·) places other

/-- What the wanted things gather at their places, one after the other. -/
def gatheredAt (spans : β → α → List Span) (wanted : List β) (items : List α)
    (places : List Nat) : List Span :=
  (wanted.zip places).flatMap fun entry => items[entry.2]?.elim [] (spans entry.1)

variable {fits : β → α → Prop} {first : β} {later wanted : List β} {item : α} {items : List α}
  {places : List Nat}

theorem earliest_nil (items : List α) : Earliest fits [] items [] := by
  refine ⟨⟨.nil, .nil⟩, fun other placed => ?_⟩
  cases placed.fitting
  exact .nil

theorem not_placed_nil (places : List Nat) : ¬ Placed fits (first :: later) [] places := by
  rintro ⟨-, fitting⟩
  cases fitting with
  | cons here _ =>
      obtain ⟨item, found, -⟩ := here
      simp at found

/-- One item more in front moves every place up by one. -/
theorem placed_map_succ_iff (item : α) :
    Placed fits wanted (item :: items) (places.map (· + 1)) ↔ Placed fits wanted items places := by
  have sameOrder : (places.map (· + 1)).Pairwise (· < ·) ↔ places.Pairwise (· < ·) := by
    rw [List.pairwise_map]
    simp only [Nat.add_lt_add_iff_right]
  constructor
  · rintro ⟨increasing, fitting⟩
    exact ⟨sameOrder.mp increasing, List.forall₂_map_right_iff.mp fitting⟩
  · rintro ⟨increasing, fitting⟩
    exact ⟨sameOrder.mpr increasing, List.forall₂_map_right_iff.mpr fitting⟩

theorem exists_map_succ {places : List Nat} (positive : ∀ place ∈ places, 0 < place) :
    ∃ others : List Nat, places = others.map (· + 1) := by
  refine ⟨places.map (· - 1), ?_⟩
  calc
    places = places.map id := (List.map_id places).symm
    _ = places.map ((· + 1) ∘ (· - 1)) := by
      apply List.map_congr_left
      intro place member
      exact (Nat.sub_add_cancel (positive place member)).symm
    _ = (places.map (· - 1)).map (· + 1) := List.map_map.symm

theorem Placed.cons_of_fits (here : fits first item) (placed : Placed fits later items places) :
    Placed fits (first :: later) (item :: items) (0 :: places.map (· + 1)) := by
  obtain ⟨increasing, fitting⟩ := (placed_map_succ_iff item).mpr placed
  refine ⟨List.pairwise_cons.mpr ⟨?_, increasing⟩, .cons ⟨item, rfl, here⟩ fitting⟩
  simp

/-- Whatever place comes first, the others lie behind the first item. -/
theorem Placed.exists_later (placed : Placed fits (first :: later) (item :: items) places) :
    ∃ place behind, places = place :: behind.map (· + 1) ∧ Placed fits later items behind := by
  obtain ⟨increasing, fitting⟩ := placed
  cases fitting with
  | @cons _ place _ others _ laterFitting =>
      rw [List.pairwise_cons] at increasing
      obtain ⟨behind, rfl⟩ := exists_map_succ fun other member =>
        Nat.zero_lt_of_lt (increasing.1 other member)
      exact ⟨place, behind, rfl, (placed_map_succ_iff item).mp ⟨increasing.2, laterFitting⟩⟩

/-- If the first item does not fit, all places lie behind it. -/
theorem Placed.exists_behind (never : ¬ fits first item)
    (placed : Placed fits (first :: later) (item :: items) places) :
    ∃ behind, places = behind.map (· + 1) ∧ Placed fits (first :: later) items behind := by
  obtain ⟨place, others, rfl, -⟩ := placed.exists_later
  have notFirst : place ≠ 0 := by
    rintro rfl
    cases placed.fitting with
    | cons here _ =>
        obtain ⟨found, foundEq, foundFits⟩ := here
        cases foundEq
        exact never foundFits
  have positive : ∀ other ∈ place :: others.map (· + 1), 0 < other := by
    simpa using Nat.pos_of_ne_zero notFirst
  obtain ⟨behind, behindEq⟩ := exists_map_succ positive
  refine ⟨behind, behindEq, (placed_map_succ_iff item).mp ?_⟩
  rwa [← behindEq]

/-- Taking an item that fits is best, if the rest is placed best behind it. -/
theorem Earliest.cons_of_fits (here : fits first item)
    (earliest : Earliest fits later items places) :
    Earliest fits (first :: later) (item :: items) (0 :: places.map (· + 1)) := by
  refine ⟨earliest.toPlaced.cons_of_fits here, fun other placed => ?_⟩
  obtain ⟨place, behind, rfl, laterPlaced⟩ := placed.exists_later
  refine .cons (Nat.zero_le place) ?_
  rw [List.forall₂_map_left_iff, List.forall₂_map_right_iff]
  exact (earliest.le behind laterPlaced).imp fun _ _ => Nat.add_le_add_right (k := 1)

theorem Earliest.cons_of_not_fits (never : ¬ fits first item)
    (earliest : Earliest fits (first :: later) items places) :
    Earliest fits (first :: later) (item :: items) (places.map (· + 1)) := by
  refine ⟨(placed_map_succ_iff item).mpr earliest.toPlaced, fun other placed => ?_⟩
  obtain ⟨behind, rfl, behindPlaced⟩ := placed.exists_behind never
  rw [List.forall₂_map_left_iff, List.forall₂_map_right_iff]
  exact (earliest.le behind behindPlaced).imp fun _ _ => Nat.add_le_add_right (k := 1)

theorem gatheredAt_map_succ (spans : β → α → List Span) (wanted : List β) (item : α) :
    gatheredAt spans wanted (item :: items) (places.map (· + 1)) =
      gatheredAt spans wanted items places := by
  rw [gatheredAt, gatheredAt, List.zip_map_right, List.flatMap_map]
  rfl

theorem gatheredAt_cons_zero (spans : β → α → List Span) :
    gatheredAt spans (first :: later) (item :: items) (0 :: places.map (· + 1)) =
      spans first item ++ gatheredAt spans later items places := by
  rw [← gatheredAt_map_succ spans later item]
  rfl

end Places

/-! ## Going on behind the first that fits -/

/-- What comes of matching things in order from a trail: what they gather at their
earliest places, or a failure if there are no places for them. -/
def TakesEarliest {α β : Type} (fits : β → α → Prop) (spans : β → α → List Span)
    (wanted : List β) (items : List α) (trail result : Trail) : Prop :=
  (∃ places, Earliest fits wanted items places ∧
      result = trail.extend true (gatheredAt spans wanted items places)) ∨
    (∀ places, ¬ Placed fits wanted items places) ∧ result.success = false

theorem takesEarliest_behindFirst {α β : Type} {fits : β → α → Prop} {spans : β → α → List Span}
    {first : β} {later : List β} {attempt : Attempt α} {next : Attempt (List α)} {trail : Trail}
    (taken : ∀ item, fits first item → attempt item trail = trail.extend true (spans first item))
    (refused : ∀ item, ¬ fits first item → (attempt item trail).success = false)
    (onward : ∀ rest more, TakesEarliest fits spans later rest (trail.extend true more)
      (next rest (trail.extend true more))) (items : List α) :
    TakesEarliest fits spans (first :: later) items trail
      (behindFirst attempt next items trail) := by
  induction items with
  | nil => exact Or.inr ⟨not_placed_nil, rfl⟩
  | cons item rest ih =>
      by_cases here : fits first item
      · have result : behindFirst attempt next (item :: rest) trail =
            next rest (trail.extend true (spans first item)) := by
          simp [behindFirst, taken item here]
        rw [result]
        rcases onward rest (spans first item) with ⟨places, earliest, resultEq⟩ | ⟨none, fails⟩
        · refine Or.inl ⟨_, earliest.cons_of_fits here, ?_⟩
          rw [resultEq, Trail.extend_extend, gatheredAt_cons_zero]
        · refine Or.inr ⟨fun places placed => ?_, fails⟩
          obtain ⟨-, behind, -, laterPlaced⟩ := placed.exists_later
          exact none behind laterPlaced
      · have result : behindFirst attempt next (item :: rest) trail =
            behindFirst attempt next rest trail := by
          simp [behindFirst, refused item here]
        rw [result]
        rcases ih with ⟨places, earliest, resultEq⟩ | ⟨none, fails⟩
        · refine Or.inl ⟨_, earliest.cons_of_not_fits here, ?_⟩
          rw [resultEq, gatheredAt_map_succ]
        · refine Or.inr ⟨fun places placed => ?_, fails⟩
          obtain ⟨behind, -, behindPlaced⟩ := placed.exists_behind here
          exact none behind behindPlaced

namespace Pattern

/-! ## Statements -/

/-- A pattern matches a statement, or the expression that the statement consists
of, from a fresh trail. -/
def MatchesStatement (ust : Ust) (options : Options) (caseInsensitive : Bool) (pattern : Pattern)
    (statement : NodeId) : Prop :=
  (pattern.matchAt ust statement (.fresh options caseInsensitive)).success = true ∨
    ∃ expression, ust.kind? statement = some (.expressionStatement expression) ∧
      (pattern.matchAt ust expression (.fresh options caseInsensitive)).success = true

/-- What a pattern gathers at a statement, from a fresh trail: what it gathers there
if it matches there, and else what it gathers at the expression. -/
def statementSpans (ust : Ust) (options : Options) (caseInsensitive : Bool) (pattern : Pattern)
    (statement : NodeId) : List Span :=
  let direct := pattern.matchAt ust statement (.fresh options caseInsensitive)
  if direct.success then direct.locations
  else
    match ust.kind? statement with
    | some (.expressionStatement expression) =>
        (pattern.matchAt ust expression (.fresh options caseInsensitive)).locations
    | _ => []

section Statements

variable {ust : Ust} {pattern : Pattern} {statement : NodeId} {trail : Trail}

theorem statement_of_matches (succeeding : trail.success = true)
    (matched : MatchesStatement ust trail.options trail.caseInsensitive pattern statement) :
    orInner ust innerExpression? (matchAt ust pattern) statement trail =
      trail.extend true
        (statementSpans ust trail.options trail.caseInsensitive pattern statement) := by
  have direct := matchAt_eq_extend_fresh ust pattern statement succeeding
  unfold orInner statementSpans
  cases verdict : (pattern.matchAt ust statement
      (.fresh trail.options trail.caseInsensitive)).success with
  | true => simp [direct, verdict]
  | false =>
      obtain ⟨expression, kindEq, innerMatched⟩ :=
        matched.resolve_left (by simp [verdict])
      have inner := matchAt_eq_extend_fresh ust pattern expression succeeding
      rw [innerMatched] at inner
      simp [direct, verdict, kindEq, innerExpression?, inner]

theorem statement_of_not_matches (succeeding : trail.success = true)
    (never : ¬ MatchesStatement ust trail.options trail.caseInsensitive pattern statement) :
    (orInner ust innerExpression? (matchAt ust pattern) statement trail).success = false := by
  rw [MatchesStatement, not_or, not_exists] at never
  have direct := matchAt_eq_extend_fresh ust pattern statement succeeding
  rw [Bool.eq_false_iff.mpr never.1] at direct
  unfold orInner
  simp only [direct, Trail.success_extend, Bool.false_eq_true, if_false]
  cases found : (ust.kind? statement).bind innerExpression? with
  | none => simp
  | some expression =>
      have fails := not_and.mp (never.2 expression) (innerExpression?_eq_some_iff.mp found)
      change (matchAt ust pattern expression trail).success = false
      rw [matchAt_eq_extend_fresh ust pattern expression succeeding, Trail.success_extend]
      exact Bool.eq_false_iff.mpr fails

/-- Patterns in order take the earliest statements, by induction over the patterns:
what is left to match starts from a trail that differs in what it has gathered. -/
theorem takesEarliest_matchInOrder (ust : Ust) (succeeding : trail.success = true)
    (patterns : List Pattern) (items : List NodeId) :
    TakesEarliest (MatchesStatement ust trail.options trail.caseInsensitive)
      (statementSpans ust trail.options trail.caseInsensitive) patterns items trail
      (matchInOrder ust patterns items trail) := by
  induction patterns generalizing items trail with
  | nil =>
      refine Or.inl ⟨[], earliest_nil items, ?_⟩
      exact (Trail.extend_true_nil succeeding).symm
  | cons pattern rest ih =>
      exact takesEarliest_behindFirst (fun _ => statement_of_matches succeeding)
        (fun _ => statement_of_not_matches succeeding)
        (fun behind more => ih (Trail.success_extend trail true more) behind) items

end Statements

/-- Patterns for statements at a block or a list of statements, from a trail that has
not failed.  If there are places in increasing order where the patterns match the
statements, then matching succeeds, and it takes places that are not behind any others:
it gathers what the patterns gather by themselves at the statements there, one after
the other, and then the span of the node itself if it is not empty and asked for.  If
there are no such places, matching fails. -/
theorem matchAt_statements_earliest {ust : Ust} {id : NodeId} {items : List NodeId}
    (hasItems : ust.HasItems id items) (patterns : List Pattern) {trail : Trail}
    (succeeding : trail.success = true) :
    ((∃ places, Placed (MatchesStatement ust trail.options trail.caseInsensitive) patterns items
          places) →
        ∃ places,
          Earliest (MatchesStatement ust trail.options trail.caseInsensitive) patterns items
              places ∧
            (statements patterns).matchAt ust id trail =
              { locations := trail.locations ++
                  gatheredAt (statementSpans ust trail.options trail.caseInsensitive) patterns
                    items places ++
                  if trail.options.nonterminalSpans && !(ust.span id).isEmpty then [ust.span id]
                  else []
                success := true
                options := trail.options
                caseInsensitive := trail.caseInsensitive }) ∧
      ((∀ places, ¬ Placed (MatchesStatement ust trail.options trail.caseInsensitive) patterns
          items places) →
        ((statements patterns).matchAt ust id trail).success = false) := by
  have closed : (statements patterns).matchAt ust id trail =
      (matchInOrder ust patterns items trail).close (ust.span id) := by
    rw [matchAt, atKind]
    rcases hasItems with kindEq | kindEq <;> rw [kindEq] <;> rfl
  have outcome := takesEarliest_matchInOrder ust succeeding patterns items
  rw [closed]
  constructor
  · rintro ⟨others, placed⟩
    rcases outcome with ⟨places, earliest, resultEq⟩ | ⟨none, -⟩
    · refine ⟨places, earliest, ?_⟩
      rw [resultEq]
      cases asked : trail.options.nonterminalSpans <;> cases empty : (ust.span id).isEmpty <;>
        simp [Trail.close, Trail.andThen, Trail.addNonterminal, Trail.add, Trail.extend, asked,
          empty]
    · exact absurd placed (none others)
  · intro none
    rcases outcome with ⟨places, earliest, -⟩ | ⟨-, fails⟩
    · exact absurd earliest.toPlaced (none places)
    · simp [Trail.close, Trail.andThen, fails]

end Pattern

/-- The statements `a; b; a;` as a document. -/
def Document.sampleSequence : Document where
  language := .java
  file := .unindexed "A.java" "a; b; a;"
  nodes := #[
    ⟨.statements [⟨1⟩, ⟨3⟩, ⟨5⟩], ⟨0, 8⟩⟩,
    ⟨.expressionStatement ⟨2⟩, ⟨0, 2⟩⟩,
    ⟨.identifier "a", ⟨0, 1⟩⟩,
    ⟨.expressionStatement ⟨4⟩, ⟨3, 2⟩⟩,
    ⟨.identifier "b", ⟨3, 1⟩⟩,
    ⟨.expressionStatement ⟨6⟩, ⟨6, 2⟩⟩,
    ⟨.identifier "a", ⟨6, 1⟩⟩]
  root := ⟨0⟩
  comments := []

/-- The tree of the statements `a; b; a;`. -/
def Ust.sampleSequence : Ust where
  toDocument := { Document.sampleSequence with file := Document.sampleSequence.file.indexed }
  parents := some #[none, some ⟨0⟩, some ⟨1⟩, some ⟨0⟩, some ⟨3⟩, some ⟨0⟩, some ⟨5⟩]

namespace Pattern

/-- The name `a` and then anything could be found in the first statement and the
last, but it is found in the first and the second.  The name is found inside its
statement, and anything is the whole statement. -/
theorem matchAt_statements_sampleSequence :
    Ust.ofDocument .sampleSequence = .ok .sampleSequence ∧
      Ust.sampleSequence.HasItems ⟨0⟩ [⟨1⟩, ⟨3⟩, ⟨5⟩] ∧
        Placed (MatchesStatement .sampleSequence { nonterminalSpans := true } false)
            [idToken "a", any] [⟨1⟩, ⟨3⟩, ⟨5⟩] [0, 2] ∧
          ∃ places,
            Earliest (MatchesStatement .sampleSequence { nonterminalSpans := true } false)
                [idToken "a", any] [⟨1⟩, ⟨3⟩, ⟨5⟩] places ∧
              gatheredAt (statementSpans .sampleSequence { nonterminalSpans := true } false)
                  [idToken "a", any] [⟨1⟩, ⟨3⟩, ⟨5⟩] places ++ [⟨0, 8⟩] =
                [⟨0, 1⟩, ⟨3, 2⟩, ⟨0, 8⟩] := by
  have hasItems : Ust.sampleSequence.HasItems ⟨0⟩ [⟨1⟩, ⟨3⟩, ⟨5⟩] := Or.inr rfl
  have placed : Placed (MatchesStatement .sampleSequence { nonterminalSpans := true } false)
      [idToken "a", any] [⟨1⟩, ⟨3⟩, ⟨5⟩] [0, 2] := by
    refine ⟨by decide, .cons ⟨⟨1⟩, rfl, Or.inr ⟨⟨2⟩, rfl, by decide⟩⟩ ?_⟩
    exact .cons ⟨⟨5⟩, rfl, Or.inl (by decide)⟩ .nil
  have fresh : (Trail.fresh { nonterminalSpans := true } false).success = true := rfl
  obtain ⟨places, earliest, matched⟩ :=
    (matchAt_statements_earliest hasItems [idToken "a", any] fresh).1 ⟨[0, 2], placed⟩
  exact ⟨rfl, hasItems, placed, places, earliest, (congrArg Trail.locations matched).symm⟩

end Pattern

end TreeSieve
