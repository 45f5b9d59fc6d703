import TreeSieve.Proofs.Pattern.Marks
import TreeSieve.Proofs.Search.Walk

/-!
# Spans of nodes with children

A search may be asked to gather the spans of nodes with children too.  This decides
which of the marks that matching leaves are gathered, and nothing else: the marks are
the same, and so is every verdict.  So the switch adds spans between those that are
gathered anyway, each of them that of a node where a pattern with parts has matched,
and whatever depends on verdicts alone is the same with the switch and without it:
which rules are silenced, and which rules are reported where.
-/

namespace TreeSieve

open Relation

/-- The first list is left if members of the second that are extra are taken out. -/
inductive Thinned {α : Type} (extra : α → Prop) : List α → List α → Prop
  | nil : Thinned extra [] []
  | keep (kept : α) {few many : List α} (rest : Thinned extra few many) :
      Thinned extra (kept :: few) (kept :: many)
  | drop {dropped : α} (isExtra : extra dropped) {few many : List α}
      (rest : Thinned extra few many) : Thinned extra few (dropped :: many)

theorem Thinned.sublist {α : Type} {extra : α → Prop} {few many : List α}
    (thinned : Thinned extra few many) : few.Sublist many := by
  induction thinned with
  | nil => exact .slnil
  | keep kept _ ih => exact ih.cons_cons kept
  | drop _ _ ih => exact ih.cons _

namespace Pattern

/-- A span that covers some text and is that of a node where a pattern with a structure
of its own has matched, on the way of matching a pattern at a node. -/
def Structural (ust : Ust) (caseInsensitive : Bool) (pattern : Pattern) (id : NodeId)
    (span : Span) : Prop :=
  span.isEmpty = false ∧
    ∃ part node, part.isNonterminal = true ∧
      ReflTransGen (Turns ust) (pattern, id) (part, node) ∧
        part.fits ust caseInsensitive node = true ∧ ust.span node = span

end Pattern

/-- Asking for the spans of nodes with children adds the spans of some of the marks. -/
theorem thinned_spans {ust : Ust} {caseInsensitive : Bool} {pattern : Pattern} {id : NodeId}
    {marks : List Mark}
    (known : ∀ mark ∈ marks, mark.Known ust caseInsensitive (pattern, id)) :
    Thinned (pattern.Structural ust caseInsensitive id)
      (marks.filterMap (·.span? ust false)) (marks.filterMap (·.span? ust true)) := by
  induction marks with
  | nil => exact .nil
  | cons mark rest ih =>
      have others := ih fun other member => known other (List.mem_cons_of_mem mark member)
      have here := known mark List.mem_cons_self
      cases empty : (ust.span mark.node).isEmpty with
      | true => simpa [Mark.span?, empty] using others
      | false =>
          cases nonterminal : mark.pattern.isNonterminal with
          | false => simpa [Mark.span?, empty, nonterminal] using others.keep (ust.span mark.node)
          | true =>
              have isExtra : pattern.Structural ust caseInsensitive id (ust.span mark.node) :=
                ⟨empty, mark.pattern, mark.node, nonterminal, here.path, here.matched, rfl⟩
              simpa [Mark.span?, empty, nonterminal] using others.drop isExtra

namespace Search

section Keys

variable {ust : Ust} {first second : Options}

/-- Whether a rule matches a node depends on none of the switches. -/
theorem matchesAt_eq (first second : Options) (ust : Ust) (rule : Rule) (id : NodeId) :
    matchesAt first ust rule id = matchesAt second ust rule id := by
  obtain ⟨success, marks, leaves, -⟩ :=
    Pattern.traced ust ust.language.caseInsensitive rule.pattern id
  rw [matchesAt, matchesAt, leaves.success_fresh, leaves.success_fresh]

theorem map_key_findingAt? (options : Options) (ust : Ust) (id : NodeId) (rule : Rule) :
    (findingAt? options ust id rule).map Finding.key =
      if matchesAt options ust rule id then some rule.key else none := by
  rw [← isSome_findingAt?, findingAt?, Option.map_map, Option.isSome_map]
  cases spansAt? options ust rule id <;> rfl

theorem map_key_findingAt?_eq (first second : Options) (ust : Ust) (id : NodeId) (rule : Rule) :
    (findingAt? first ust id rule).map Finding.key =
      (findingAt? second ust id rule).map Finding.key := by
  rw [map_key_findingAt?, map_key_findingAt?, matchesAt_eq first second]

/-- Trying a rule at a node yields the same key and goes on in the same way. -/
theorem attempt_congr (sameMode : first.findAll = second.findAll) (id : NodeId) (trial : Trial) :
    (trial.attempt first ust id).1.map Finding.key =
        (trial.attempt second ust id).1.map Finding.key ∧
      (trial.attempt first ust id).2 = (trial.attempt second ust id).2 := by
  have sameKey := map_key_findingAt?_eq first second ust id trial.rule
  unfold Trial.attempt
  split
  · exact ⟨rfl, rfl⟩
  · cases found : findingAt? first ust id trial.rule with
    | none =>
        rw [found, Option.map_none, eq_comm, Option.map_eq_none_iff] at sameKey
        rw [sameKey]
        exact ⟨rfl, rfl⟩
    | some finding =>
        rw [found, Option.map_some, eq_comm, Option.map_eq_some_iff] at sameKey
        obtain ⟨other, otherFound, keyEq⟩ := sameKey
        rw [otherFound, sameMode]
        exact ⟨congrArg some keyEq.symm, rfl⟩

/-- A walk finds the same keys at each visit, by induction over its tasks: the rules go
from one task to the next in the same way. -/
theorem map_key_walk (sameMode : first.findAll = second.findAll) (count : Nat)
    (tasks : List Task) (trials : List Trial) :
    (walk first ust count tasks trials).map (List.map Finding.key) =
      (walk second ust count tasks trials).map (List.map Finding.key) := by
  induction count generalizing tasks trials with
  | zero => rfl
  | succ count ih =>
      cases tasks with
      | nil => rfl
      | cons task tasks =>
          cases task with
          | leave id => exact ih tasks _
          | enter id =>
              have sameTrials : (trials.map (·.attempt first ust id)).map (·.2) =
                  (trials.map (·.attempt second ust id)).map (·.2) := by
                rw [List.map_map, List.map_map]
                exact List.map_congr_left fun trial _ => (attempt_congr sameMode id trial).2
              have sameKeys :
                  ((trials.map (·.attempt first ust id)).filterMap (·.1)).map Finding.key =
                    ((trials.map (·.attempt second ust id)).filterMap (·.1)).map Finding.key := by
                rw [List.filterMap_map, List.filterMap_map, List.map_filterMap, List.map_filterMap]
                exact List.filterMap_congr fun trial _ => (attempt_congr sameMode id trial).1
              rw [walk, walk, List.map_cons, List.map_cons, sameKeys, sameTrials, ih]

theorem map_key_allVisits (sameMode : first.findAll = second.findAll) (quarantine : Quarantine)
    (rules : List Rule) :
    (allVisits first quarantine ust rules).map (List.map Finding.key) =
      (allVisits second quarantine ust rules).map (List.map Finding.key) := by
  unfold allVisits
  split
  · rfl
  · rw [List.map_append, List.map_append, treeVisits, treeVisits, map_key_walk sameMode,
      commentVisits, commentVisits, List.map_map, List.map_map]
    congr 1
    apply List.map_congr_left
    intro comment _
    exact map_filterMap_congr (map_key_findingAt?_eq first second ust comment) _

end Keys

/-- Asking for the spans of nodes with children.  At every node and for every pattern and
treatment of case, a fresh trail comes to the same verdict with the switch and without it.
What it gathers without the switch is left of what it gathers with it if some spans are
taken out, each of which covers some text and is that of a node where a pattern with a
structure of its own has matched on the way.  So a search reports the same keys in the
same order with the switch and without it, or is stopped in the same way, whether it
reports a match once or finds all matches. -/
theorem nonterminalSpans_only_add (ust : Ust) (options : Options) :
    (∀ (pattern : Pattern) id caseInsensitive,
      let without := pattern.matchAt ust id
        (.fresh { options with nonterminalSpans := false } caseInsensitive)
      let included := pattern.matchAt ust id
        (.fresh { options with nonterminalSpans := true } caseInsensitive)
      included.success = without.success ∧
        without.locations.Sublist included.locations ∧
          Thinned (pattern.Structural ust caseInsensitive id) without.locations
            included.locations) ∧
      ∀ quarantine polls rules,
        (run { options with nonterminalSpans := true } quarantine polls ust rules).map
            (List.map Finding.key) =
          (run { options with nonterminalSpans := false } quarantine polls ust rules).map
            (List.map Finding.key) := by
  constructor
  · intro pattern id caseInsensitive
    obtain ⟨success, marks, leaves, known⟩ := Pattern.traced ust caseInsensitive pattern id
    have thinned := thinned_spans known
    simp only [leaves.success_fresh, leaves.locations_fresh]
    exact ⟨trivial, thinned.sublist, thinned⟩
  · intro quarantine polls rules
    apply gather_congr
    apply map_key_allVisits
    rfl

-- With the switch the span of the variable follows that of its name.
example :
    ((Pattern.variableDeclaration none .any none).matchAt Ust.sampleField ⟨2⟩
        (.fresh {} false)).locations = [⟨4, 1⟩] ∧
      ((Pattern.variableDeclaration none .any none).matchAt Ust.sampleField ⟨2⟩
        (.fresh { nonterminalSpans := true } false)).locations = [⟨4, 1⟩, ⟨4, 5⟩] :=
  ⟨rfl, rfl⟩

end Search

end TreeSieve
