import TreeSieve.Proofs.Pattern.Holds
import TreeSieve.Proofs.Pattern.Outline

/-!
# What an outline means

An outline can be read as a statement, where to call a pattern is to say that it holds.
A pattern holds at a node exactly when the statement is true that its outline makes
there.

Matching statements in order is the one place where this is more than bookkeeping.  The
outline says to go on behind the first statement that fits, and the pattern that some
statements in order fit; taking the earliest one never spoils a later choice.
-/

namespace TreeSieve

open Relation

namespace Pattern

/-! ## Outlines as statements -/

section Means

variable (ust : Ust) (caseInsensitive : Bool)

/-- Some variable at a node, or declared by it through fields inside fields, has
a meaning. -/
def Declared (meaning : NodeId → NodeId → Option NodeId → Prop) (id : NodeId) : Prop :=
  ∃ variableId, ReflTransGen ust.Declares id variableId ∧
    ∃ nameId initializerId,
      ust.kind? variableId = some (.variableDeclaration nameId initializerId) ∧
        meaning variableId nameId initializerId

/-- What it means that a test is passed. -/
@[simp]
def Test.Means : Test → Prop
  | ask question => question caseInsensitive = true
  | fits pattern id => pattern.Holds ust caseInsensitive id
  | both first second => first.Means ∧ second.Means
  | either first second => first.Means ∨ second.Means
  | look id next => (next (ust.kind? id)).Means

/-- What it means that a step at a node succeeds. -/
@[simp]
def Step.Means (id : NodeId) : Step → Prop
  | skip => True
  | fail => False
  | call pattern node => pattern.Holds ust caseInsensitive node
  | arguments patterns node => (args patterns).Holds ust caseInsensitive node
  | descend pattern => ∃ node, ust.Above id node ∧ pattern.Holds ust caseInsensitive node
  | typed choice =>
      ∀ part ∈ meaning? ust caseInsensitive choice, ∃ typeId, ust.TypeOf id typeId ∧ part typeId
  | andThen first second => first.Means id ∧ second.Means id
  | branch first onward otherwise =>
      first.Means id ∧ onward.Means id ∨ ¬ first.Means id ∧ otherwise.Means id
  | refuse test => ¬ test.Means ust caseInsensitive
  | look node next => (next (ust.kind? node)).Means id

/-- What it means that an outline succeeds at a node. -/
@[simp]
def Outline.Means (id : NodeId) : Outline → Prop
  | mark => True
  | check test => test.Means ust caseInsensitive
  | close step | bare step => step.Means ust caseInsensitive id
  | declared variableType name initializer =>
      Declared ust
        (fun variableId nameId initializerId =>
          (Step.ofVariable variableType name initializer nameId initializerId).Means ust
            caseInsensitive variableId)
        id

end Means

/-! ## Tests -/

theorem sameName_iff {caseInsensitive : Bool} {left right : String} :
    sameName caseInsensitive left right = true ↔ SameName caseInsensitive left right := by
  cases caseInsensitive <;> simp [sameName, SameName]

theorem admits_iff {α : Type} [BEq α] [LawfulBEq α] {choice : Option α} {actual : α} :
    admits choice actual = true ↔ ∀ wanted ∈ choice, wanted = actual := by
  simp [admits, Option.all_eq_true]

theorem isExpression_iff {kind : NodeKind} :
    kind.isExpression = true ↔
      (kind.category = .token ∨ kind.category = .expression) ∧ ∀ text, kind ≠ .comment text := by
  cases kind <;> simp [NodeKind.isExpression, NodeKind.isComment, NodeKind.category]

section Kinds

variable {ust : Ust} {id : NodeId}

theorem innerExpression?_eq_some_iff {inner : NodeId} :
    (ust.kind? id).bind innerExpression? = some inner ↔
      ust.kind? id = some (.expressionStatement inner) := by
  cases ust.kind? id with
  | none => simp
  | some kind => cases kind <;> simp [innerExpression?]

theorem lastSegment?_eq_some_iff {segment : NodeId} :
    (ust.kind? id).bind lastSegment? = some segment ↔
      ∃ qualifier, ust.kind? id = some (.memberReference qualifier segment) := by
  cases ust.kind? id with
  | none => simp
  | some kind => cases kind <;> simp [lastSegment?]

theorem blockItems?_eq_some_iff {items : List NodeId} :
    (ust.kind? id).bind blockItems? = some items ↔ ust.HasItems id items := by
  unfold Ust.HasItems
  cases ust.kind? id with
  | none => simp
  | some kind => cases kind <;> simp [blockItems?]

end Kinds

/-! ## Steps put together -/

section Steps

variable {ust : Ust} {caseInsensitive : Bool} {id : NodeId} {steps : List Step}
  {patterns : List Pattern} {choice : Option Pattern} {node : NodeId} {ids : List NodeId}

theorem Test.means_anyOf {tests : List Test} :
    (anyOf tests).Means ust caseInsensitive ↔ ∃ test ∈ tests, test.Means ust caseInsensitive := by
  induction tests with
  | nil => simp [anyOf, never]
  | cons test rest ih => simp_all [anyOf]

theorem Step.means_all :
    (all steps).Means ust caseInsensitive id ↔
      ∀ step ∈ steps, step.Means ust caseInsensitive id := by
  induction steps with
  | nil => simp [all]
  | cons step rest ih => simp_all [all]

theorem Step.means_orElse {first other : Step} :
    (orElse first other).Means ust caseInsensitive id ↔
      first.Means ust caseInsensitive id ∨ other.Means ust caseInsensitive id := by
  simp only [orElse, Means, and_true]
  tauto

theorem Step.means_firstOf :
    (firstOf steps).Means ust caseInsensitive id ↔
      ∃ step ∈ steps, step.Means ust caseInsensitive id := by
  induction steps with
  | nil => simp [firstOf]
  | cons step rest ih =>
      rw [List.exists_mem_cons_iff, ← ih]
      exact means_orElse

theorem meanings_eq_map : meanings ust caseInsensitive patterns =
    patterns.map (Holds ust caseInsensitive) := by
  induction patterns with
  | nil => rfl
  | cons pattern rest ih => simp [ih]

theorem Step.means_optional {node? : Option NodeId} :
    (optional choice node?).Means ust caseInsensitive id ↔
      ∀ part ∈ meaning? ust caseInsensitive choice, ∃ node ∈ node?, part node := by
  cases choice with
  | none => simp [optional]
  | some pattern => cases node? <;> simp [optional]

theorem Step.means_positional :
    (positional patterns ids).Means ust caseInsensitive id ↔
      OneByOne (meanings ust caseInsensitive patterns) ids := by
  induction patterns generalizing ids with
  | nil => cases ids <;> simp [positional, all]
  | cons pattern rest ih =>
      cases ids with
      | nil => simp [positional]
      | cons node ids =>
          simp only [meanings, List.forall₂_cons, ← ih, positional, List.length_cons,
            Nat.add_right_cancel_iff]
          split <;> simp [all]

theorem Step.means_someMember :
    (someMember choice ids).Means ust caseInsensitive id ↔
      ∀ part ∈ meaning? ust caseInsensitive choice, ∃ member ∈ ids, part member := by
  cases choice with
  | none => simp [someMember]
  | some pattern => simp [someMember, means_firstOf]

theorem Step.means_orInner {inner? : NodeKind → Option NodeId} {pattern : Pattern} :
    (orInner inner? pattern node).Means ust caseInsensitive id ↔
      pattern.Holds ust caseInsensitive node ∨
        ∃ inner, (ust.kind? node).bind inner? = some inner ∧
          pattern.Holds ust caseInsensitive inner := by
  rw [orInner, means_orElse, Means, Means]
  cases (ust.kind? node).bind inner? <;> simp

section Sublists

variable {α β : Type} {fits : β → α → Prop} {first : β} {later : List β} {candidate : α}
  {rest : List α}

/-- Where the first candidate fits the first pattern, taking it loses nothing:
whatever fits the later patterns behind a later choice also stands behind the
first candidate. -/
theorem exists_sublist_cons_of_fits (here : fits first candidate) :
    (∃ chosen, chosen.Sublist (candidate :: rest) ∧ List.Forall₂ fits (first :: later) chosen) ↔
      ∃ chosen, chosen.Sublist rest ∧ List.Forall₂ fits later chosen := by
  constructor
  · rintro ⟨chosen, inside, fitting⟩
    cases fitting with
    | @cons _ _ _ behind _ laterFits => exact ⟨behind, inside.tail, laterFits⟩
  · rintro ⟨chosen, inside, laterFits⟩
    exact ⟨candidate :: chosen, inside.cons_cons candidate, .cons here laterFits⟩

/-- A first candidate that does not fit the first pattern is not chosen. -/
theorem exists_sublist_cons_of_not_fits (never : ¬ fits first candidate) :
    (∃ chosen, chosen.Sublist (candidate :: rest) ∧ List.Forall₂ fits (first :: later) chosen) ↔
      ∃ chosen, chosen.Sublist rest ∧ List.Forall₂ fits (first :: later) chosen := by
  constructor
  · rintro ⟨chosen, inside, fitting⟩
    cases inside with
    | cons _ inside => exact ⟨chosen, inside, fitting⟩
    | cons_cons _ inside =>
        cases fitting with
        | cons here _ => exact absurd here never
  · rintro ⟨chosen, inside, fitting⟩
    exact ⟨chosen, inside.cons candidate, fitting⟩

/-- So a choice is found by deciding at the first candidate. -/
theorem exists_sublist_cons_iff :
    (∃ chosen, chosen.Sublist (candidate :: rest) ∧ List.Forall₂ fits (first :: later) chosen) ↔
      fits first candidate ∧ (∃ chosen, chosen.Sublist rest ∧ List.Forall₂ fits later chosen) ∨
        ¬ fits first candidate ∧
          ∃ chosen, chosen.Sublist rest ∧ List.Forall₂ fits (first :: later) chosen := by
  by_cases here : fits first candidate
  · rw [exists_sublist_cons_of_fits here]
    simp only [here, true_and, not_true_eq_false, false_and, or_false]
  · rw [exists_sublist_cons_of_not_fits here]
    simp only [here, false_and, not_false_eq_true, true_and, false_or]

end Sublists

/-- Going on behind the first statement that fits finds a choice of statements in order
whenever there is one. -/
theorem Step.means_inOrder :
    (inOrder patterns ids).Means ust caseInsensitive id ↔
      ∃ chosen, chosen.Sublist ids ∧
        List.Forall₂
          (fun part statement => part statement ∨
            ∃ inner, ust.kind? statement = some (.expressionStatement inner) ∧ part inner)
          (meanings ust caseInsensitive patterns) chosen := by
  induction ids generalizing patterns with
  | nil => cases patterns <;> simp [inOrder]
  | cons statement ids ih =>
      cases patterns with
      | nil =>
          exact iff_of_true trivial ⟨[], List.nil_sublist _, .nil⟩
      | cons pattern later =>
          rw [inOrder, Means, ih, ih, means_orInner, meanings, exists_sublist_cons_iff]
          simp only [innerExpression?_eq_some_iff]

theorem Test.means_emptyBlock :
    (emptyBlock node).Means ust caseInsensitive ↔ ust.HasItems node [] := by
  rw [emptyBlock, Means, Means, Option.any_eq_true, ← blockItems?_eq_some_iff]
  simp

theorem Test.means_hasType {declared : Option NodeId} :
    (hasType patterns declared).Means ust caseInsensitive ↔
      patterns = [] ∨ ∃ node ∈ declared, ∃ part ∈ meanings ust caseInsensitive patterns,
        part node := by
  rw [hasType, meanings_eq_map]
  cases patterns with
  | nil => simp [always]
  | cons pattern rest => cases declared <;> simp [never, means_anyOf]

theorem Test.means_clause {bodyEmpty : Bool} :
    (clause patterns bodyEmpty node).Means ust caseInsensitive ↔
      ∃ exceptionType boundName body,
        ust.kind? node = some (.catchClause exceptionType boundName body) ∧
          (patterns = [] ∨ ∃ declared ∈ exceptionType,
            ∃ part ∈ meanings ust caseInsensitive patterns, part declared) ∧
            (bodyEmpty = true → ust.HasItems body []) := by
  rw [clause, Means]
  cases ust.kind? node with
  | none => simp [never]
  | some kind =>
      cases kind with
      | catchClause exceptionType boundName body =>
          cases bodyEmpty <;> simp [means_hasType, means_emptyBlock, always]
      | _ => simp [never]

end Steps

/-! ## Patterns -/

section Holds

variable {ust : Ust} {caseInsensitive : Bool} {id : NodeId}

/-- A pattern holds at a node exactly when what its outline says there is true. -/
theorem holds_iff_means (pattern : Pattern) :
    pattern.Holds ust caseInsensitive id ↔
      (pattern.outline id (ust.kind? id)).Means ust caseInsensitive id := by
  cases pattern with
  | any => simp [outline]
  | anyExpression => simp [outline, Option.any_eq_true, isExpression_iff]
  | conjunction patterns => simp [outline, Step.means_all, meanings_eq_map]
  | disjunction patterns => simp [outline, Step.means_firstOf, meanings_eq_map]
  | negation pattern => simp [outline]
  | anywhere pattern =>
      simp only [Holds, outline, Outline.Means, Step.means_orElse, Step.Means]
      constructor
      · rintro ⟨node, reached, holds⟩
        rcases reflTransGen_iff_eq_or_transGen.mp reached with rfl | above
        · exact .inl holds
        · exact .inr ⟨node, above, holds⟩
      · rintro (holds | ⟨node, above, holds⟩)
        · exact ⟨id, .refl, holds⟩
        · exact ⟨node, above.to_reflTransGen, holds⟩
  | variableDeclaration variableType name initializer =>
      simp only [Holds, outline, Outline.Means, Declared, Step.ofVariable, Step.Means,
        Step.means_optional, and_assoc]
  -- The others have the shape of a node: both sides are false at all other kinds.
  | idToken _ | idRegex _ =>
      simp only [Holds, Ust.HasName]
      rcases ust.kind? id with _ | ⟨⟨⟩⟩ <;> first
        | exact iff_of_false (by rintro ⟨_, eq | eq, _⟩ <;> cases eq) fun never => never
        | simp [outline, shape, sameName_iff]
  | stringLiteral _ | intLiteral _ | nullLiteral | baseReference =>
      simp only [Holds]
      rcases ust.kind? id with _ | ⟨⟨⟩⟩ <;> first
        | exact iff_of_false (by rintro ⟨⟩) fun never => never
        | simp [outline, shape]
  | stringRegex _ | commentRegex _ | intRange _ _ | floatLiteral _ | booleanLiteral _
  | multipleExpressions _ | args _ =>
      simp only [Holds]
      rcases ust.kind? id with _ | ⟨⟨⟩⟩ <;> first
        | exact iff_of_false (by rintro ⟨_, ⟨⟩, _⟩) fun never => never
        | simp [outline, shape, admits_iff, Step.means_positional]
  | binaryOperator _ _ _ =>
      simp only [Holds]
      rcases ust.kind? id with _ | ⟨⟨⟩⟩ <;> first
        | exact iff_of_false (by rintro ⟨_, _, _, ⟨⟩, _⟩) fun never => never
        | (simp only [outline, Option.elim_some, shape]
           split <;> simp_all [admits_iff])
  | unaryOperator _ _ =>
      simp only [Holds]
      rcases ust.kind? id with _ | ⟨⟨⟩⟩ <;> first
        | exact iff_of_false (by rintro ⟨_, _, ⟨⟩, _⟩) fun never => never
        | (simp only [outline, Option.elim_some, shape]
           split <;> simp_all [admits_iff])
  | assignment _ _ | memberReference _ _ | indexer _ _ | invocation _ _ | objectCreate _ _
  | withStatement _ _ =>
      simp only [Holds]
      rcases ust.kind? id with _ | ⟨⟨⟩⟩ <;> first
        | exact iff_of_false (by rintro ⟨_, _, ⟨⟩, _⟩) fun never => never
        | simp [outline, shape, Step.means_optional, Step.means_orInner,
            lastSegment?_eq_some_iff]
  | statements _ =>
      simp only [Holds, Ust.HasItems]
      rcases ust.kind? id with _ | ⟨⟨⟩⟩ <;> first
        | exact iff_of_false (by rintro ⟨_, eq | eq, _⟩ <;> cases eq) fun never => never
        | simp [outline, shape, Step.means_inOrder]
  | tryCatch _ _ =>
      simp only [Holds]
      rcases ust.kind? id with _ | ⟨⟨⟩⟩ <;> first
        | exact iff_of_false (by rintro ⟨_, _, _, ⟨⟩, _⟩) fun never => never
        | simp [outline, shape, Test.means_anyOf, Test.means_clause]
  | classDeclaration _ _ _ | parameterDeclaration _ _ =>
      simp only [Holds]
      rcases ust.kind? id with _ | ⟨⟨⟩⟩ <;> first
        | exact iff_of_false (by rintro ⟨_, _, _, ⟨⟩, _⟩) fun never => never
        | simp [outline, shape, Step.means_optional, Step.means_all, Step.means_firstOf,
            Step.means_someMember, meanings_eq_map, and_assoc]
  | methodDeclaration _ _ =>
      simp only [Holds]
      rcases ust.kind? id with _ | ⟨⟨⟩⟩ <;> first
        | exact iff_of_false (by rintro ⟨_, _, _, eq | eq, _⟩ <;> cases eq) fun never => never
        | simp [outline, shape, Step.means_optional]

end Holds

end Pattern

end TreeSieve
