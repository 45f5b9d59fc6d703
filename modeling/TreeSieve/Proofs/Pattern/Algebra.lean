import Mathlib.Data.List.TakeWhile
import TreeSieve.Proofs.Pattern.Agreement
import TreeSieve.Proofs.Pattern.Uniform
import TreeSieve.Proofs.Search.Termination

/-!
# Algebra of patterns

Conjunctions, alternatives and negations obey the laws of Boolean algebra as far
as success goes.  A conjunction inside a conjunction may also be written out in its
place without any change to the trail that comes of it, and so may alternatives
inside alternatives.

Success is a congruence: a pattern may take the place of another one, however deep
inside a third, if the two succeed at the same nodes of the tree.
-/

namespace TreeSieve

open Relation (reflTransGen_iff_eq_or_transGen)

namespace Trail

theorem andThen_congr {trail : Trail} {next other : Trail → Trail}
    (same : trail.success = true → next trail = other trail) :
    trail.andThen next = trail.andThen other := by
  unfold andThen
  split
  · exact same ‹_›
  · rfl

theorem andThen_assoc (trail : Trail) (next last : Trail → Trail) :
    (trail.andThen next).andThen last = trail.andThen fun trail => (next trail).andThen last := by
  cases passed : trail.success <;> simp [andThen, passed]

/-- Trails that have both failed or both not, and treat case as given. -/
def SameSuccess (caseInsensitive : Bool) (first second : Trail) : Prop :=
  second.success = first.success ∧
    first.caseInsensitive = caseInsensitive ∧ second.caseInsensitive = caseInsensitive

theorem SameSuccess.add {caseInsensitive : Bool} {first second : Trail}
    (same : SameSuccess caseInsensitive first second) (span : Span) :
    SameSuccess caseInsensitive (first.add span) (second.add span) := by
  unfold Trail.add
  split <;> exact same

/-- Trails may ask for the spans of nodes with children or not, independently. -/
theorem SameSuccess.addNonterminal {caseInsensitive : Bool} {first second : Trail}
    (same : SameSuccess caseInsensitive first second) (span : Span) :
    SameSuccess caseInsensitive (first.addNonterminal span) (second.addNonterminal span) := by
  unfold Trail.addNonterminal Trail.add
  repeat' split
  all_goals exact same

theorem likeness_sameSuccess (caseInsensitive : Bool) : Likeness (SameSuccess caseInsensitive) where
  success_eq same := same.1
  caseInsensitive_eq same := same.2.2.trans same.2.1.symm
  fail same := ⟨rfl, same.2⟩
  add span same := same.add span
  addNonterminal span same := same.addNonterminal span

end Trail

namespace Pattern

section Laws

variable {ust : Ust} {id : NodeId} {trail : Trail}

/-! ## Flattening -/

theorem matchAll_append (succeeding : trail.success = true) (patterns others : List Pattern) :
    matchAll ust (patterns ++ others) id trail =
      (matchAll ust patterns id trail).andThen (matchAll ust others id) := by
  induction patterns generalizing trail with
  | nil => simp [matchAll, Trail.andThen, succeeding]
  | cons pattern rest ih =>
      rw [List.cons_append, matchAll, matchAll, Trail.andThen_assoc]
      exact Trail.andThen_congr ih

theorem matchSome_append (patterns others : List Pattern) :
    matchSome ust (patterns ++ others) id trail =
      if (matchSome ust patterns id trail).success then matchSome ust patterns id trail
      else matchSome ust others id trail := by
  induction patterns with
  | nil => simp [matchSome, Trail.fail]
  | cons pattern rest ih =>
      rw [List.cons_append, matchSome, matchSome]
      by_cases passed : (matchAt ust pattern id trail).success = true
      · simp only [passed, if_true]
      · simp only [passed, Bool.false_eq_true, if_false]
        exact ih

theorem matchAll_flatten (succeeding : trail.success = true)
    (before inner behind : List Pattern) :
    matchAll ust (before ++ [conjunction inner] ++ behind) id trail =
      matchAll ust (before ++ inner ++ behind) id trail := by
  rw [List.append_assoc, List.append_assoc, List.singleton_append, matchAll_append succeeding,
    matchAll_append succeeding]
  refine Trail.andThen_congr fun passed => ?_
  rw [matchAll, matchAt, matchAll_append passed]

theorem matchSome_flatten (before inner behind : List Pattern) :
    matchSome ust (before ++ [disjunction inner] ++ behind) id trail =
      matchSome ust (before ++ inner ++ behind) id trail := by
  rw [List.append_assoc, List.append_assoc, List.singleton_append, matchSome_append before,
    matchSome_append before, matchSome, matchAt, matchSome_append inner]

/-! ## Success -/

theorem success_eq_fits (succeeding : trail.success = true) (pattern : Pattern) :
    (pattern.matchAt ust id trail).success = pattern.fits ust trail.caseInsensitive id := by
  rcases traced ust trail.caseInsensitive pattern id with ⟨success, marks, leaves, -⟩
  rw [leaves succeeding rfl, Trail.success_extend, fits, leaves.success_fresh]

theorem caseInsensitive_matchAt (succeeding : trail.success = true) (pattern : Pattern) :
    (pattern.matchAt ust id trail).caseInsensitive = trail.caseInsensitive := by
  rw [matchAt_eq_extend_fresh ust pattern id succeeding]
  rfl

theorem success_matchAll_eq (succeeding : trail.success = true) (patterns : List Pattern) :
    (matchAll ust patterns id trail).success =
      patterns.all fun pattern => pattern.fits ust trail.caseInsensitive id := by
  induction patterns generalizing trail with
  | nil => exact succeeding
  | cons pattern rest ih =>
      rw [matchAll, List.all_cons, ← success_eq_fits succeeding, Trail.andThen]
      cases passed : (matchAt ust pattern id trail).success with
      | false => simp [passed]
      | true =>
          rw [if_pos rfl, Bool.true_and, ih passed, caseInsensitive_matchAt succeeding]

theorem success_matchSome_eq (succeeding : trail.success = true) (patterns : List Pattern) :
    (matchSome ust patterns id trail).success =
      patterns.any fun pattern => pattern.fits ust trail.caseInsensitive id := by
  rw [matchSome_eq_firstOf, success_firstOf]
  simp only [success_eq_fits succeeding]

theorem success_negation (succeeding : trail.success = true) (pattern : Pattern) :
    ((negation pattern).matchAt ust id trail).success =
      !pattern.fits ust trail.caseInsensitive id := by
  rw [matchAt, success_eq_fits succeeding]
  cases pattern.fits ust trail.caseInsensitive id with
  | false => exact succeeding
  | true => rfl

theorem fits_negation (caseInsensitive : Bool) (pattern : Pattern) :
    (negation pattern).fits ust caseInsensitive id = !pattern.fits ust caseInsensitive id :=
  success_negation rfl pattern

/-! ## Blocks of spans -/

/-- The spans that matching a pattern adds to a trail. -/
def added (ust : Ust) (id : NodeId) (trail : Trail) (pattern : Pattern) : List Span :=
  (pattern.matchAt ust id trail).locations.drop trail.locations.length

/-- The patterns up to the first one that does not match, and that one too. -/
def tried (ust : Ust) (caseInsensitive : Bool) (id : NodeId) (patterns : List Pattern) :
    List Pattern :=
  patterns.take
    ((patterns.takeWhile fun pattern => pattern.fits ust caseInsensitive id).length + 1)

theorem tried_cons (caseInsensitive : Bool) (pattern : Pattern) (rest : List Pattern) :
    tried ust caseInsensitive id (pattern :: rest) =
      pattern ::
        if pattern.fits ust caseInsensitive id then tried ust caseInsensitive id rest else [] := by
  cases passed : pattern.fits ust caseInsensitive id <;> simp [tried, passed]

theorem tried_eq_self {caseInsensitive : Bool} {patterns : List Pattern}
    (allFit : patterns.all (·.fits ust caseInsensitive id) = true) :
    tried ust caseInsensitive id patterns = patterns := by
  rw [tried, List.takeWhile_eq_self_iff.mpr (List.all_eq_true.mp allFit)]
  exact List.take_of_length_le (Nat.le_succ _)

theorem matchAt_eq_extend_added (succeeding : trail.success = true) (pattern : Pattern) :
    pattern.matchAt ust id trail =
      trail.extend (pattern.fits ust trail.caseInsensitive id) (added ust id trail pattern) := by
  rw [added, ← success_eq_fits succeeding, matchAt_eq_extend_fresh ust pattern id succeeding]
  simp

/-- What is added does not depend on what was gathered before. -/
theorem added_extend (succeeding : trail.success = true) (spans : List Span) :
    added ust id (trail.extend true spans) = added ust id trail := by
  funext pattern
  rw [added, added, matchAt_eq_extend_fresh ust pattern id succeeding,
    matchAt_eq_extend_fresh ust pattern id (trail.success_extend true spans)]
  simp only [Trail.locations_extend, List.drop_left]
  rfl

/-- Each part of a conjunction adds its own spans, up to the first that fails. -/
theorem locations_matchAll_tried (succeeding : trail.success = true) (patterns : List Pattern) :
    (matchAll ust patterns id trail).locations =
      trail.locations ++
        ((tried ust trail.caseInsensitive id patterns).map (added ust id trail)).flatten := by
  induction patterns generalizing trail with
  | nil => simp [matchAll, tried]
  | cons pattern rest ih =>
      rw [matchAll, matchAt_eq_extend_added succeeding, tried_cons, List.map_cons,
        List.flatten_cons]
      cases pattern.fits ust trail.caseInsensitive id with
      | false => simp [Trail.andThen]
      | true =>
          simp only [Trail.andThen, Trail.success_extend, if_true]
          rw [ih rfl, added_extend succeeding, Trail.locations_extend, List.append_assoc]
          rfl

theorem locations_matchAll_of_success (succeeding : trail.success = true)
    {patterns : List Pattern} (succeeds : (matchAll ust patterns id trail).success = true) :
    (matchAll ust patterns id trail).locations =
      trail.locations ++ (patterns.map (added ust id trail)).flatten := by
  rw [success_matchAll_eq succeeding] at succeeds
  rw [locations_matchAll_tried succeeding, tried_eq_self succeeds]

end Laws

/-! ## Replacement -/

section Replacement

variable {ust : Ust}

/-- Matching at a node under the root stays under the root. -/
theorem enclosed_reaches {document : Document} (accepted : Ust.ofDocument document = .ok ust) :
    ust.Enclosed (ust.Reaches ust.root) where
  child reached isChild := reached.tail isChild
  declaredType reached found := by
    rcases reflTransGen_iff_eq_or_transGen.mp reached with rfl | above
    · rcases exists_parent_declaredType accepted found with ⟨field, parentEq, -⟩
      rw [Ust.parent?_root accepted] at parentEq
      contradiction
    · exact reaches_declaredType accepted above found

variable {caseInsensitive : Bool} {inside : NodeId → Prop}

theorem agreeing_of_fits {pattern other : Pattern}
    (same : ∀ id, inside id → other.fits ust caseInsensitive id =
      pattern.fits ust caseInsensitive id) :
    Agreeing (Trail.SameSuccess caseInsensitive) inside ust ust pattern other := by
  rintro id isInside first second succeeding ⟨sameSuccess, firstCase, secondCase⟩
  have otherSucceeding : second.success = true := sameSuccess.trans succeeding
  refine ⟨?_, ?_, ?_⟩
  · rw [success_eq_fits succeeding, success_eq_fits otherSucceeding, firstCase, secondCase]
    exact same id isInside
  · rw [caseInsensitive_matchAt succeeding, firstCase]
  · rw [caseInsensitive_matchAt otherSucceeding, secondCase]

/-- A pattern agrees with itself after a part of it, at any depth, has given way to
one that matches the same nodes.  The induction is on the path to the part. -/
theorem agreeing_replaceAt (enclosed : ust.Enclosed inside) {old new : Pattern}
    (same : ∀ id, inside id → new.fits ust caseInsensitive id = old.fits ust caseInsensitive id)
    {whole : Pattern} {path : List Nat} (found : whole.partAt? path = some old) :
    Agreeing (Trail.SameSuccess caseInsensitive) inside ust ust whole
      (whole.replaceAt path new) := by
  have comparison : Comparison (Trail.SameSuccess caseInsensitive) Eq inside ust ust :=
    ⟨Trail.likeness_sameSuccess caseInsensitive, .refl ust, enclosed⟩
  induction path generalizing whole with
  | nil =>
      cases found
      exact agreeing_of_fits same
  | cons index path ih =>
      rcases Option.bind_eq_some_iff.mp found with ⟨part, partEq, foundBelow⟩
      refine agreeing_mapParts comparison (fun _ => agreeing_of_fits fun _ _ => rfl)
        fun place other given => ?_
      -- One part of this layer changes, further down; the others are kept.
      by_cases here : place = index
      · subst here
        cases partEq.symm.trans given
        rw [if_pos rfl]
        exact ih foundBelow
      · rw [if_neg here]
        exact agreeing_of_fits fun _ _ => rfl

end Replacement

/-- The algebra of patterns, at any node of a tree and from any trail that has not
failed.  A conjunction or alternatives inside others of their sort may be written
out in place, which leaves the same trail.  The order of parts has no influence on
success, and if a conjunction succeeds it only changes the order of the blocks of
spans that the parts add; one that fails has added the blocks of its parts up to
the first that fails.  Negation turns conjunctions into alternatives, these into
conjunctions, and undoes itself.  And a pattern that succeeds at the same nodes of
the tree as another may replace it at any place inside a pattern. -/
theorem matchAt_algebra {document : Document} {ust : Ust}
    (accepted : Ust.ofDocument document = .ok ust) {id : NodeId}
    (reached : ust.Reaches ust.root id) {trail : Trail} (succeeding : trail.success = true) :
    (∀ before inner behind : List Pattern,
      (conjunction (before ++ [conjunction inner] ++ behind)).matchAt ust id trail =
          (conjunction (before ++ inner ++ behind)).matchAt ust id trail ∧
        (disjunction (before ++ [disjunction inner] ++ behind)).matchAt ust id trail =
          (disjunction (before ++ inner ++ behind)).matchAt ust id trail) ∧
    (∀ patterns others : List Pattern, patterns.Perm others →
      ((disjunction others).matchAt ust id trail).success =
          ((disjunction patterns).matchAt ust id trail).success ∧
        ((conjunction others).matchAt ust id trail).success =
          ((conjunction patterns).matchAt ust id trail).success ∧
        (((conjunction patterns).matchAt ust id trail).success = true →
          ((conjunction patterns).matchAt ust id trail).locations =
              trail.locations ++ (patterns.map (added ust id trail)).flatten ∧
            ((conjunction others).matchAt ust id trail).locations =
              trail.locations ++ (others.map (added ust id trail)).flatten ∧
            (patterns.map (added ust id trail)).Perm (others.map (added ust id trail)))) ∧
    (∀ patterns : List Pattern,
      ((conjunction patterns).matchAt ust id trail).locations =
        trail.locations ++
          ((tried ust trail.caseInsensitive id patterns).map (added ust id trail)).flatten) ∧
    (∀ patterns : List Pattern,
      ((negation (conjunction patterns)).matchAt ust id trail).success =
          ((disjunction (patterns.map negation)).matchAt ust id trail).success ∧
        ((negation (disjunction patterns)).matchAt ust id trail).success =
          ((conjunction (patterns.map negation)).matchAt ust id trail).success) ∧
    (∀ pattern : Pattern,
      ((negation (negation pattern)).matchAt ust id trail).success =
        (pattern.matchAt ust id trail).success) ∧
    ∀ (whole old new : Pattern) (path : List Nat), whole.partAt? path = some old →
      (∀ node, ust.Reaches ust.root node →
        (new.matchAt ust node trail).success = (old.matchAt ust node trail).success) →
      (whole.replaceAt path new).partAt? path = some new ∧
        ((whole.replaceAt path new).matchAt ust id trail).success =
          (whole.matchAt ust id trail).success := by
  refine ⟨?_, ?_, ?_, ?_, ?_, ?_⟩
  · intro before inner behind
    exact ⟨matchAll_flatten succeeding before inner behind, matchSome_flatten before inner behind⟩
  · intro patterns others permuted
    have sameAll : ((conjunction others).matchAt ust id trail).success =
        ((conjunction patterns).matchAt ust id trail).success := by
      rw [matchAt, matchAt, success_matchAll_eq succeeding, success_matchAll_eq succeeding,
        permuted.all_eq]
    refine ⟨?_, sameAll, fun succeeds => ⟨?_, ?_, permuted.map _⟩⟩
    · rw [matchAt, matchAt, success_matchSome_eq succeeding, success_matchSome_eq succeeding,
        permuted.any_eq]
    · exact locations_matchAll_of_success succeeding succeeds
    · exact locations_matchAll_of_success succeeding (sameAll.trans succeeds)
  · exact locations_matchAll_tried succeeding
  · intro patterns
    rw [success_negation succeeding, success_negation succeeding, ← success_eq_fits succeeding,
      ← success_eq_fits succeeding]
    simp only [matchAt, success_matchAll_eq succeeding, success_matchSome_eq succeeding,
      List.any_map, List.all_map, List.not_all_eq_any_not, List.not_any_eq_all_not,
      Function.comp_def, fits_negation, and_self]
  · intro pattern
    rw [success_negation succeeding, fits_negation, Bool.not_not, success_eq_fits succeeding]
  · intro whole old new path found same
    refine ⟨partAt?_replaceAt found, ?_⟩
    simp only [success_eq_fits succeeding] at same
    have agreeing := agreeing_replaceAt (enclosed_reaches accepted) same found
    exact (agreeing reached succeeding ⟨rfl, rfl, rfl⟩).1

/-- Inside the search for a name, the test of the name may be negated twice. -/
theorem matchAt_algebra_sampleField :
    Ust.ofDocument Document.sampleField = .ok Ust.sampleField ∧
      Ust.sampleField.Reaches Ust.sampleField.root Ust.sampleField.root ∧
      (anywhere (idToken "x")).partAt? [0] = some (idToken "x") ∧
      (((anywhere (idToken "x")).replaceAt [0] (negation (negation (idToken "x")))).matchAt
        Ust.sampleField Ust.sampleField.root (.fresh {} false)).success = true := by
  refine ⟨Ust.ofDocument_sampleField, .refl, rfl, ?_⟩
  have laws := fun {node : NodeId} (reached : Ust.sampleField.Reaches Ust.sampleField.root node) =>
    matchAt_algebra Ust.ofDocument_sampleField reached (rfl : (Trail.fresh {} false).success = true)
  have replaced := (laws .refl).2.2.2.2.2 (anywhere (idToken "x")) (idToken "x")
    (negation (negation (idToken "x"))) [0] rfl
    fun node reached => (laws reached).2.2.2.2.1 (idToken "x")
  rw [replaced.2]
  rfl

end Pattern

end TreeSieve
