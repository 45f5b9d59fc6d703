import TreeSieve.Proofs.Pattern.Meaning

/-!
# Steps that decide a statement

A step of matching decides a statement if it succeeds exactly when the statement
is true.  The steps that matching is put together from carry this along: what
they decide is put together from what their parts decide.
-/

namespace TreeSieve

/-! ## Steps that decide a statement -/

/-- From a trail that has not failed and treats case as given, a step succeeds
exactly when a statement is true, and it leaves the treatment of case alone. -/
def Decides (caseInsensitive : Bool) (step : Trail → Trail) (statement : Prop) : Prop :=
  ∀ ⦃trail : Trail⦄, trail.success = true → trail.caseInsensitive = caseInsensitive →
    (step trail).caseInsensitive = caseInsensitive ∧
      ((step trail).success = true ↔ statement)

namespace Decides

variable {caseInsensitive : Bool} {step next : Trail → Trail} {first second : Prop}

theorem congr (decides : Decides caseInsensitive step first) (same : first ↔ second) :
    Decides caseInsensitive step second := by
  intro trail succeeding caseEq
  rw [← same]
  exact decides succeeding caseEq

theorem self : Decides caseInsensitive (fun trail => trail) True :=
  fun _ succeeding caseEq => ⟨caseEq, iff_of_true succeeding trivial⟩

theorem fail : Decides caseInsensitive Trail.fail False :=
  fun _ _ caseEq => ⟨caseEq, by simp [Trail.fail]⟩

/-- A branch is taken by a test that has a meaning of its own. -/
theorem ite {test : Trail → Bool} {condition : Prop}
    (means : ∀ ⦃trail⦄, trail.success = true → trail.caseInsensitive = caseInsensitive →
      (test trail = true ↔ condition))
    (passed : condition → Decides caseInsensitive step second)
    (failed : ¬ condition → Decides caseInsensitive next second) :
    Decides caseInsensitive (fun trail => if test trail then step trail else next trail)
      second := by
  intro trail succeeding caseEq
  have tested := means succeeding caseEq
  beta_reduce
  by_cases holds : condition
  · rw [if_pos (tested.mpr holds)]
    exact passed holds succeeding caseEq
  · rw [if_neg fun passes => holds (tested.mp passes)]
    exact failed holds succeeding caseEq

theorem add (span : Span) : Decides caseInsensitive (fun trail => trail.add span) True := by
  intro trail succeeding caseEq
  unfold Trail.add
  split
  · exact self succeeding caseEq
  · exact ⟨caseEq, iff_of_true succeeding trivial⟩

theorem addNonterminal (span : Span) :
    Decides caseInsensitive (fun trail => trail.addNonterminal span) True := by
  intro trail succeeding caseEq
  beta_reduce
  unfold Trail.addNonterminal
  split
  · exact add span succeeding caseEq
  · exact self succeeding caseEq

theorem check {test : Trail → Bool}
    (means : ∀ ⦃trail⦄, trail.success = true → trail.caseInsensitive = caseInsensitive →
      (test trail = true ↔ first)) (span : Span) :
    Decides caseInsensitive (fun trail => trail.check (test trail) span) first :=
  ite means (fun holds => (add span).congr (iff_of_true trivial holds))
    fun fails => fail.congr (iff_of_false id fails)

theorem andThen (decidesStep : Decides caseInsensitive step first)
    (decidesNext : Decides caseInsensitive next second) :
    Decides caseInsensitive (fun trail => (step trail).andThen next) (first ∧ second) := by
  intro trail succeeding caseEq
  have here := decidesStep succeeding caseEq
  beta_reduce
  by_cases succeeds : (step trail).success = true
  · have onward := decidesNext succeeds here.1
    rw [Trail.andThen, if_pos succeeds]
    exact ⟨onward.1, by rw [onward.2, ← here.2, and_iff_right succeeds]⟩
  · rw [Trail.andThen, if_neg succeeds]
    exact ⟨here.1, iff_of_false succeeds fun both => succeeds (here.2.mpr both.1)⟩

/-- What is tried decides which of two ways to go. -/
theorem branch {last : Trail → Trail} {third : Prop}
    (tried : Decides caseInsensitive step first) (passed : Decides caseInsensitive next second)
    (failed : Decides caseInsensitive last third) :
    Decides caseInsensitive
      (fun trail => if (step trail).success then next (step trail) else last trail)
      (first ∧ second ∨ ¬ first ∧ third) := by
  intro trail succeeding caseEq
  have here := tried succeeding caseEq
  beta_reduce
  by_cases holds : first
  · rw [if_pos (here.2.mpr holds)]
    exact passed.congr (by simp [holds]) (here.2.mpr holds) here.1
  · rw [if_neg fun succeeds => holds (here.2.mp succeeds)]
    exact failed.congr (by simp [holds]) succeeding caseEq

theorem close (decides : Decides caseInsensitive step first) (span : Span) :
    Decides caseInsensitive (fun trail => (step trail).close span) first :=
  (decides.andThen (addNonterminal span)).congr (iff_of_eq (and_true first))

end Decides

/-! ## Searching among candidates -/

theorem decides_firstOf {α : Type} {caseInsensitive : Bool} {attempt : Attempt α}
    {meaning : α → Prop} {candidates : List α}
    (each : ∀ candidate ∈ candidates,
      Decides caseInsensitive (attempt candidate) (meaning candidate)) :
    Decides caseInsensitive (firstOf attempt candidates)
      (∃ candidate ∈ candidates, meaning candidate) := by
  induction candidates with
  | nil => exact Decides.fail.congr (by simp)
  | cons candidate rest ih =>
      have here := each candidate List.mem_cons_self
      have others := ih fun other member => each other (List.mem_cons_of_mem candidate member)
      refine Decides.ite (fun trail succeeding caseEq => (here succeeding caseEq).2) ?_ ?_
      · intro holds
        exact here.congr (iff_of_true holds ⟨candidate, List.mem_cons_self, holds⟩)
      · intro fails
        exact others.congr (by simp [fails])

namespace Pattern

/-! ## Types of variables -/

section Types

variable {ust : Ust}

/-- The type that matching looks up is the type of the field that the table of
parents has for the variable. -/
theorem declaredType?_eq_some_iff_exists_field {variableId typeId : NodeId} :
    declaredType? ust variableId = some typeId ↔
      ∃ field declarators, ust.parent? variableId = some field ∧
        ust.kind? field = some (.fieldDeclaration (some typeId) declarators) := by
  simp only [declaredType?, Option.bind_eq_bind, Option.bind_eq_some_iff]
  constructor
  · rintro ⟨field, parentEq, kind, kindEq, typeEq⟩
    split at typeEq
    · cases typeEq
      exact ⟨field, _, parentEq, kindEq⟩
    · contradiction
  · rintro ⟨field, declarators, parentEq, kindEq⟩
    exact ⟨field, parentEq, _, kindEq, rfl⟩

/-- It is the type of the field around the variable, if the table is right. -/
theorem declaredType?_eq_some_iff
    (parents : ∀ {parent child}, ust.parent? child = some parent ↔ ust.IsChild parent child)
    {variableId typeId : NodeId} :
    declaredType? ust variableId = some typeId ↔ ust.TypeOf variableId typeId := by
  simp only [declaredType?_eq_some_iff_exists_field, parents, Ust.TypeOf]

end Types

end Pattern

end TreeSieve
