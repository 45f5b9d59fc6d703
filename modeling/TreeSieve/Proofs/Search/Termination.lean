import TreeSieve.Proofs.Pattern.Decides
import TreeSieve.Proofs.Pattern.Parts
import TreeSieve.Proofs.Search.Walk
import TreeSieve.Proofs.Ust.Circles

/-!
# When a search ends

Matching follows the pattern, and a pattern is finite.  What may keep it from
ending are two loops through the tree: to look anywhere below a node is to take the
walk there, and a variable is looked for in fields inside fields.  So matching ends
whatever the pattern if it starts at a node that comes to no circle.

The nodes under the root are such nodes.  A comment need not be one, and a search
goes to the comments too.
-/

namespace TreeSieve

open Relation

namespace Pattern

/-- The nodes that matching can come to from where it starts: it goes on to children,
and from a variable to the type of the field around it. -/
inductive Meets (ust : Ust) (start : NodeId) : NodeId → Prop
  | start : Meets ust start start
  | child {node child : NodeId} (met : Meets ust start node)
      (isChild : ust.IsChild node child) : Meets ust start child
  | declaredType {node nameId typeId : NodeId} {initializerId : Option NodeId}
      (met : Meets ust start node)
      (isVariable : ust.kind? node = some (.variableDeclaration nameId initializerId))
      (found : declaredType? ust node = some typeId) : Meets ust start typeId

/-- The nodes that matching goes down from: the one where it starts, and its type if that
one is a variable. -/
inductive Tops (ust : Ust) (start : NodeId) : NodeId → Prop
  | start : Tops ust start start
  | declaredType {nameId typeId : NodeId} {initializerId : Option NodeId}
      (isVariable : ust.kind? start = some (.variableDeclaration nameId initializerId))
      (found : declaredType? ust start = some typeId) : Tops ust start typeId

/-- Matching a pattern at a node ends, whether or not something is found on the way: so
do the loop that the pattern makes at the node, if it makes one, and matching its
parts at the nodes that it can come to. -/
inductive Halts (ust : Ust) : Pattern → NodeId → Prop
  | intro {pattern : Pattern} {id : NodeId}
      (walk : ∀ inner, pattern = anywhere inner → ust.WalkEnds id)
      (fields : ∀ variableType name initializer,
        pattern = variableDeclaration variableType name initializer →
          Acc (fun inner field => ust.Declares field inner) id)
      (parts : ∀ part ∈ pattern.parts, ∀ node, Meets ust id node → Halts ust part node) :
      Halts ust pattern id

/-- A pattern makes no loop, nor does any of its parts. -/
inductive Shallow : Pattern → Prop
  | intro {pattern : Pattern} (noWalk : ∀ inner, pattern ≠ anywhere inner)
      (noFields : ∀ variableType name initializer,
        pattern ≠ variableDeclaration variableType name initializer)
      (parts : ∀ part ∈ pattern.parts, Shallow part) : Shallow pattern

theorem Shallow.halts {ust : Ust} {pattern : Pattern} (shallow : pattern.Shallow) (id : NodeId) :
    Halts ust pattern id := by
  induction shallow generalizing id with
  | intro noWalk noFields _ ih =>
      exact .intro (fun inner same => absurd same (noWalk inner))
        (fun variableType name initializer same =>
          absurd same (noFields variableType name initializer))
        fun part member node _ => ih part member node

theorem Halts.walkEnds {ust : Ust} {pattern : Pattern} {id : NodeId}
    (halts : Halts ust (anywhere pattern) id) : ust.WalkEnds id := by
  cases halts with
  | intro walk _ _ => exact walk pattern rfl

theorem Halts.of_mem_parts {ust : Ust} {pattern part : Pattern} {id node : NodeId}
    (halts : Halts ust pattern id) (member : part ∈ pattern.parts) (met : Meets ust id node) :
    Halts ust part node := by
  cases halts with
  | intro _ _ parts => exact parts part member node met

theorem Meets.trans {ust : Ust} {first second third : NodeId} (met : Meets ust first second)
    (further : Meets ust second third) : Meets ust first third := by
  induction further with
  | start => exact met
  | child _ isChild ih => exact ih.child isChild
  | declaredType _ isVariable found ih => exact ih.declaredType isVariable found

section Matching

variable {document : Document} {ust : Ust} {start node : NodeId}

/-- A variable and its type have the same parent. -/
theorem exists_parent_declaredType (accepted : Ust.ofDocument document = .ok ust)
    {typeId : NodeId} (found : declaredType? ust node = some typeId) :
    ∃ field, ust.parent? node = some field ∧ ust.parent? typeId = some field ∧
      ust.IsChild field typeId ∧ declaredType? ust typeId = some typeId := by
  obtain ⟨field, declarators, parentEq, kindEq⟩ := declaredType?_eq_some_iff_exists_field.mp found
  have isChild : ust.IsChild field typeId :=
    Ust.isChild_of_kind? kindEq (by simp [NodeKind.children])
  have typeParent := Ust.parent?_of_isChild accepted isChild
  exact ⟨field, parentEq, typeParent, isChild,
    declaredType?_eq_some_iff_exists_field.mpr ⟨field, declarators, typeParent, kindEq⟩⟩

/-- What lies above a variable lies above its type. -/
theorem reaches_declaredType (accepted : Ust.ofDocument document = .ok ust) {above typeId : NodeId}
    (isAbove : ust.Above above node) (found : declaredType? ust node = some typeId) :
    ust.Reaches above typeId := by
  obtain ⟨field, parentEq, -, typeChild, -⟩ := exists_parent_declaredType accepted found
  rcases TransGen.tail'_iff.mp isAbove with ⟨parent, toParent, isChild⟩
  have same := Ust.parent?_of_isChild accepted isChild
  rw [parentEq, Option.some.injEq] at same
  exact toParent.tail (same ▸ typeChild)

/-- The field around a type has that type, so the type of a type is itself. -/
theorem declaredType?_of_declaredType? (accepted : Ust.ofDocument document = .ok ust)
    {typeId other : NodeId} (found : declaredType? ust node = some typeId)
    (further : declaredType? ust typeId = some other) : other = typeId := by
  obtain ⟨-, -, -, -, itself⟩ := exists_parent_declaredType accepted found
  rw [further, Option.some.injEq] at itself
  exact itself

theorem Tops.meets {top : NodeId} (isTop : Tops ust start top) : Meets ust start top := by
  cases isTop with
  | start => exact .start
  | declaredType isVariable found => exact .declaredType .start isVariable found

/-- What matching comes to lies below one of the tops. -/
theorem Meets.exists_top (accepted : Ust.ofDocument document = .ok ust)
    (met : Meets ust start node) : ∃ top, Tops ust start top ∧ ust.Reaches top node := by
  induction met with
  | start => exact ⟨start, .start, .refl⟩
  | child _ isChild ih =>
      obtain ⟨top, isTop, reached⟩ := ih
      exact ⟨top, isTop, reached.tail isChild⟩
  | @declaredType node _ typeId _ _ isVariable found ih =>
      obtain ⟨top, isTop, reached⟩ := ih
      rcases reflTransGen_iff_eq_or_transGen.mp reached with rfl | above
      · cases isTop with
        | start => exact ⟨typeId, .declaredType isVariable found, .refl⟩
        | declaredType startVariable isType =>
            rw [declaredType?_of_declaredType? accepted isType found]
            exact ⟨node, .declaredType startVariable isType, .refl⟩
      · exact ⟨top, isTop, reaches_declaredType accepted above found⟩

/-- Where no top lies above itself, no node that matching can come to does. -/
theorem Meets.not_above_self (accepted : Ust.ofDocument document = .ok ust)
    (straight : ∀ top, Tops ust start top → ¬ ust.Above top top)
    (met : Meets ust start node) : ¬ ust.Above node node := by
  obtain ⟨top, isTop, reached⟩ := met.exists_top accepted
  exact (Ust.rooted_of_ofDocument accepted).not_above_self_of_reaches (straight top isTop) reached

/-- Below a node that does not lie above itself, fields are inside fields to an end. -/
theorem acc_declares (rooted : ust.Rooted) (straight : ¬ ust.Above node node) :
    Acc (fun inner field => ust.Declares field inner) node := by
  induction node using ust.wellFounded_below.induction with
  | _ node ih =>
      refine .intro node fun inner declares => ?_
      obtain ⟨fieldType, declarators, kindEq, member⟩ := declares
      have isChild : ust.IsChild node inner :=
        Ust.isChild_of_kind? kindEq (by simp [NodeKind.children, member])
      exact ih inner ⟨straight, .single isChild⟩
        (rooted.not_above_self_of_reaches straight (.single isChild))

/-- Where no node that matching can come to lies above itself, matching ends, by
induction over the parts of the pattern. -/
theorem halts_of_forall_meets (rooted : ust.Rooted)
    (straight : ∀ node, Meets ust start node → ¬ ust.Above node node) (pattern : Pattern) :
    Halts ust pattern start := by
  induction pattern using parts_induction generalizing start with
  | step pattern ih =>
      have here := straight start .start
      refine .intro (fun _ _ => rooted.walkEnds_iff.mpr here)
        (fun _ _ _ _ => acc_declares rooted here) fun part member node met => ?_
      exact ih part member fun other further => straight other (met.trans further)

/-- Matching at a node ends for all patterns exactly if the node does not lie above itself,
nor, if it is a variable, its type. -/
theorem forall_halts_iff (accepted : Ust.ofDocument document = .ok ust) :
    (∀ pattern, Halts ust pattern start) ↔ ∀ top, Tops ust start top → ¬ ust.Above top top := by
  have rooted := Ust.rooted_of_ofDocument accepted
  constructor
  · intro halts top isTop
    -- The type of a variable is tried before its name, and so in any case.
    have typed := halts (variableDeclaration (some (anywhere (negation any)))
      (anywhere (negation any)) none)
    have atTop : Halts ust (anywhere (negation any)) top :=
      typed.of_mem_parts (by simp) isTop.meets
    exact rooted.walkEnds_iff.mp atTop.walkEnds
  · intro straight
    exact halts_of_forall_meets rooted fun node met => met.not_above_self accepted straight

/-- Where the way up ends, no top lies above itself: the type of a variable has the way
up of the variable. -/
theorem Tops.not_above_self_of_chainEnds (accepted : Ust.ofDocument document = .ok ust)
    (ends : ust.ChainEnds start) {top : NodeId} (isTop : Tops ust start top) :
    ¬ ust.Above top top := by
  cases isTop with
  | start => exact Ust.not_above_self_of_chainEnds accepted ends
  | declaredType _ found =>
      obtain ⟨field, parentEq, typeParent, -⟩ := exists_parent_declaredType accepted found
      apply Ust.not_above_self_of_chainEnds accepted
      rwa [Ust.ChainEnds, typeParent, ← parentEq]

/-- Where the way up ends, matching ends. -/
theorem halts_of_chainEnds (accepted : Ust.ofDocument document = .ok ust)
    (ends : ust.ChainEnds start) (pattern : Pattern) : Halts ust pattern start :=
  (forall_halts_iff accepted).mpr (fun _ isTop => isTop.not_above_self_of_chainEnds accepted ends)
    pattern

end Matching

end Pattern

namespace Search

/-- A search for some rules ends: more tasks than the walk through the tree has make
no difference to it, and matching the rules ends at every node and at every
comment. -/
structure Ends (ust : Ust) (rules : List Rule) : Prop where
  walk : ∀ options count, 2 * ust.size ≤ count →
    walk options ust count [.enter ust.root] (rules.map fun rule => { rule }) =
      treeVisits options ust rules
  nodes : ∀ rule ∈ rules, ∀ id, ust.Reaches ust.root id → rule.pattern.Halts ust id
  comments : ∀ rule ∈ rules, ∀ comment ∈ ust.comments, rule.pattern.Halts ust comment

/-- In the tree a search ends; whether it does at all depends on the comments. -/
theorem ends_iff_forall_comments {document : Document} {ust : Ust}
    (accepted : Ust.ofDocument document = .ok ust) {rules : List Rule} :
    Ends ust rules ↔
      ∀ rule ∈ rules, ∀ comment ∈ ust.comments, rule.pattern.Halts ust comment := by
  have rooted := Ust.rooted_of_ofDocument accepted
  constructor
  · exact Ends.comments
  · intro comments
    constructor
    · intro options count enough
      rw [walk_root_eq rooted rules enough, treeVisits_eq rooted]
    · intro rule _ id reached
      have ends := (Ust.chainEnds_root accepted).of_reaches accepted reached
      exact Pattern.halts_of_chainEnds accepted ends rule.pattern
    · exact comments

/-- A rule that looks for a pattern and for nothing else. -/
def ruleOf (pattern : Pattern) : Rule where
  key := ""
  name := ""
  label := ""
  languages := .patternLanguages
  wildcard := none
  pattern
  value := ""
  format := .json
  cwe := none
  description := ""

/-- Searches for all rules end exactly if no comment lies above itself, nor the type of a
comment that is a variable. -/
theorem forall_ends_iff_not_above {document : Document} {ust : Ust}
    (accepted : Ust.ofDocument document = .ok ust) :
    (∀ rules, Ends ust rules) ↔ ∀ comment ∈ ust.comments, ∀ top,
      Pattern.Tops ust comment top → ¬ ust.Above top top := by
  constructor
  · intro ends comment listed
    apply (Pattern.forall_halts_iff accepted).mp
    intro pattern
    exact (ends [ruleOf pattern]).comments _ List.mem_cons_self comment listed
  · intro straight rules
    apply (ends_iff_forall_comments accepted).mpr
    intro rule _ comment listed
    exact (Pattern.forall_halts_iff accepted).mpr (straight comment listed) rule.pattern

end Search

end TreeSieve
