import TreeSieve.Proofs.Pattern.Marks

/-!
# Matching does not depend on what was gathered before

Matching a pattern at a node adds the same spans and comes to the same verdict from
any two trails that treat case and the spans of nodes with children in the same
way, because it leaves the same marks.

A trail also carries the switch for finding all matches.  Matching never reads
it, so the two trails may differ there.
-/

namespace TreeSieve

open Trail

namespace Pattern

/-! ## Trails with a history -/

/-- From any trail that has not failed, matching adds what it adds to a fresh
trail and comes to the same verdict. -/
theorem matchAt_eq_extend_fresh (ust : Ust) (pattern : Pattern) (id : NodeId) {trail : Trail}
    (succeeding : trail.success = true) :
    pattern.matchAt ust id trail =
      trail.extend
        (pattern.matchAt ust id (.fresh trail.options trail.caseInsensitive)).success
        (pattern.matchAt ust id (.fresh trail.options trail.caseInsensitive)).locations := by
  obtain ⟨success, marks, leaves, -⟩ := traced ust trail.caseInsensitive pattern id
  rw [leaves succeeding rfl, leaves.success_fresh, leaves.locations_fresh]

/-- The switch for finding all matches has no influence on a fresh attempt. -/
theorem matchAt_fresh_congr (ust : Ust) (pattern : Pattern) (id : NodeId) {first second : Options}
    (same : first.nonterminalSpans = second.nonterminalSpans) (caseInsensitive : Bool) :
    (pattern.matchAt ust id (.fresh first caseInsensitive)).success =
        (pattern.matchAt ust id (.fresh second caseInsensitive)).success ∧
      (pattern.matchAt ust id (.fresh first caseInsensitive)).locations =
        (pattern.matchAt ust id (.fresh second caseInsensitive)).locations := by
  obtain ⟨success, marks, leaves, -⟩ := traced ust caseInsensitive pattern id
  rw [leaves.success_fresh, leaves.success_fresh, leaves.locations_fresh, leaves.locations_fresh,
    same]
  exact ⟨rfl, rfl⟩

end Pattern

/-- What comes of trying candidates one after the other from the same trail:
the first success, as if nothing had been tried before it, or else the trail
marked as failed. -/
def FirstSuccess {α : Type} (attempt : Attempt α) (candidates : List α) (trail result : Trail) :
    Prop :=
  (∃ before candidate behind, candidates = before ++ candidate :: behind ∧
      (∀ other ∈ before, (attempt other trail).success = false) ∧
        (attempt candidate trail).success = true ∧ result = attempt candidate trail) ∨
    (∀ candidate ∈ candidates, (attempt candidate trail).success = false) ∧ result = trail.fail

theorem firstSuccess_firstOf {α : Type} (attempt : Attempt α) (candidates : List α)
    (trail : Trail) : FirstSuccess attempt candidates trail (firstOf attempt candidates trail) := by
  induction candidates with
  | nil => exact Or.inr ⟨by simp, rfl⟩
  | cons candidate rest ih =>
      cases tried : (attempt candidate trail).success with
      | true => exact Or.inl ⟨[], candidate, rest, rfl, by simp, tried, by simp [firstOf, tried]⟩
      | false =>
          have skipped :
              firstOf attempt (candidate :: rest) trail = firstOf attempt rest trail := by
            simp [firstOf, tried]
          rw [skipped]
          rcases ih with ⟨before, winner, behind, rfl, beforeFail, succeeds, resultEq⟩ |
            ⟨allFail, resultEq⟩
          · refine Or.inl ⟨candidate :: before, winner, behind, rfl, ?_, succeeds, resultEq⟩
            simpa [tried] using beforeFail
          · exact Or.inr ⟨by simpa [tried] using allFail, resultEq⟩

namespace Pattern

theorem matchSome_eq_firstOf (ust : Ust) (patterns : List Pattern) (id : NodeId) (trail : Trail) :
    matchSome ust patterns id trail =
      firstOf (fun pattern => matchAt ust pattern id) patterns trail := by
  induction patterns with
  | nil => rfl
  | cons pattern rest ih => rw [matchSome, firstOf, ih]

/-- A node that fails is forgotten when the node inside it is tried. -/
theorem orInner_of_fail {ust : Ust} {inner? : NodeKind → Option NodeId} {attempt : Attempt NodeId}
    {id inner : NodeId} {trail : Trail} (found : (ust.kind? id).bind inner? = some inner)
    (fails : (attempt id trail).success = false) :
    orInner ust inner? attempt id trail = attempt inner trail := by
  simp [orInner, fails, found]

/-- Statements that fail are forgotten when a later one is tried. -/
theorem behindFirst_of_fail {α : Type} {attempt : Attempt α} {next : Attempt (List α)}
    {trail : Trail} {failed : List α}
    (fails : ∀ candidate ∈ failed, (attempt candidate trail).success = false) (rest : List α) :
    behindFirst attempt next (failed ++ rest) trail = behindFirst attempt next rest trail := by
  induction failed with
  | nil => rfl
  | cons candidate others ih =>
      have here := fails candidate List.mem_cons_self
      rw [List.cons_append, behindFirst]
      simp only [here, Bool.false_eq_true, if_false]
      exact ih fun other member => fails other (List.mem_cons_of_mem candidate member)

/-- The parts of a conjunction that holds add their spans in their order. -/
theorem locations_matchAll {ust : Ust} {patterns : List Pattern} {id : NodeId} {trail : Trail}
    (succeeding : trail.success = true)
    (succeeds : (matchAll ust patterns id trail).success = true) :
    (matchAll ust patterns id trail).locations =
      trail.locations ++ patterns.flatMap fun pattern =>
        (pattern.matchAt ust id (.fresh trail.options trail.caseInsensitive)).locations := by
  induction patterns generalizing trail with
  | nil => simp [matchAll]
  | cons pattern rest ih =>
      rw [matchAll] at succeeds ⊢
      have firstEq := matchAt_eq_extend_fresh ust pattern id succeeding
      cases verdict :
          (pattern.matchAt ust id (.fresh trail.options trail.caseInsensitive)).success with
      | false => simp [firstEq, verdict, andThen] at succeeds
      | true =>
          rw [verdict] at firstEq
          rw [firstEq] at succeeds ⊢
          simp only [andThen, success_extend, if_true] at succeeds ⊢
          rw [ih rfl succeeds, locations_extend, List.append_assoc]
          rfl

/-- Matching from a trail with a history is matching from a fresh one.  The
verdict is the same, and what a fresh trail gathers is added to what was there,
whether matching succeeds or fails.  A conjunction that holds adds what its
parts add, in their order; alternatives, the search below a node, the search
among candidates, a node with one inside it and statements in order all start
each attempt from the trail they were given, so that attempts which failed are
not seen in what comes of the others. -/
theorem matchAt_extends_fresh (ust : Ust) (id : NodeId) (trail : Trail)
    (succeeding : trail.success = true) :
    (∀ pattern : Pattern,
      pattern.matchAt ust id trail =
        { locations := trail.locations ++
            (pattern.matchAt ust id (.fresh trail.options trail.caseInsensitive)).locations
          success := (pattern.matchAt ust id (.fresh trail.options trail.caseInsensitive)).success
          options := trail.options
          caseInsensitive := trail.caseInsensitive }) ∧
    (∀ patterns : List Pattern,
      ((conjunction patterns).matchAt ust id trail).success = true →
        ((conjunction patterns).matchAt ust id trail).locations =
          trail.locations ++ patterns.flatMap fun pattern =>
            (pattern.matchAt ust id (.fresh trail.options trail.caseInsensitive)).locations) ∧
    (∀ patterns : List Pattern,
      FirstSuccess (fun pattern => pattern.matchAt ust id) patterns trail
        ((disjunction patterns).matchAt ust id trail)) ∧
    (∀ pattern : Pattern,
      FirstSuccess (pattern.matchAt ust) (id :: ust.descendants id) trail
        ((anywhere pattern).matchAt ust id trail)) ∧
    (∀ (attempt : Attempt NodeId) (candidates : List NodeId),
      FirstSuccess attempt candidates trail (firstOf attempt candidates trail)) ∧
    (∀ (attempt : Attempt NodeId) (inner? : NodeKind → Option NodeId) (inner : NodeId),
      (ust.kind? id).bind inner? = some inner → (attempt id trail).success = false →
        orInner ust inner? attempt id trail = attempt inner trail) ∧
    (∀ (pattern : Pattern) (patterns : List Pattern) (failed rest : List NodeId),
      (∀ statement ∈ failed,
        (orInner ust innerExpression? (pattern.matchAt ust) statement trail).success = false) →
        matchInOrder ust (pattern :: patterns) (failed ++ rest) trail =
          matchInOrder ust (pattern :: patterns) rest trail) := by
  refine ⟨?_, ?_, ?_, ?_, ?_, ?_, ?_⟩
  · intro pattern
    exact matchAt_eq_extend_fresh ust pattern id succeeding
  · intro patterns succeeds
    exact locations_matchAll succeeding succeeds
  · intro patterns
    rw [matchAt, matchSome_eq_firstOf]
    exact firstSuccess_firstOf _ patterns trail
  · intro pattern
    exact firstSuccess_firstOf _ (id :: ust.descendants id) trail
  · intro attempt candidates
    exact firstSuccess_firstOf attempt candidates trail
  · intro attempt inner? inner found fails
    exact orInner_of_fail found fails
  · intro pattern patterns failed rest fails
    exact behindFirst_of_fail fails rest

/-- A trail that has passed the type goes on to the name. -/
theorem matchAt_extends_fresh_sampleField :
    (Trail.mk [⟨0, 3⟩] true {} false).success = true ∧
      (anywhere (idToken "x")).matchAt Ust.sampleField ⟨0⟩ ⟨[⟨0, 3⟩], true, {}, false⟩ =
        { locations := [⟨0, 3⟩] ++
            ((anywhere (idToken "x")).matchAt Ust.sampleField ⟨0⟩ (.fresh {} false)).locations
          success :=
            ((anywhere (idToken "x")).matchAt Ust.sampleField ⟨0⟩ (.fresh {} false)).success
          options := {}
          caseInsensitive := false } :=
  ⟨rfl, (matchAt_extends_fresh Ust.sampleField ⟨0⟩ ⟨[⟨0, 3⟩], true, {}, false⟩ rfl).1
    (anywhere (idToken "x"))⟩

end Pattern

end TreeSieve
