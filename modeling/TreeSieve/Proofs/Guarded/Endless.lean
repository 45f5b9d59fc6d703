import TreeSieve.Proofs.Guarded.Search

/-!
# Searches that never end

`Guarded.Within` asks for comments that lie on no circle, and not for want of a better
argument.  To look anywhere below a node that lies above itself, for something that is
not there, takes all the steps there are, however many; and one rule that does so at one
comment is enough for a search not to end.

So searches end for all rules only if no comment lies above itself, nor the type of a
comment that is a variable.  That is also enough, and it is what `Search.Ends` comes to.
-/

namespace TreeSieve

open Relation

namespace Guarded

/-! ## Runs that come to no value -/

section Runs

variable {α β : Type} {run : Run α}

/-- A run does not come to a value. -/
def Stuck (run : Run α) : Prop :=
  ∀ value, run ≠ .ok value

theorem Stuck.error (stop : Stop) : Stuck (.error stop : Run α) :=
  fun _ => nofun

/-- A run that goes on is stuck if it is stuck from every value that it goes on from. -/
theorem Stuck.bind_of_forall {onward : α → Run β}
    (later : ∀ value, run = .ok value → Stuck (onward value)) : Stuck (run >>= onward) := by
  cases run with
  | error stop => exact .error stop
  | ok value => exact later value rfl

theorem Stuck.bind (stuck : Stuck run) (onward : α → Run β) : Stuck (run >>= onward) :=
  .bind_of_forall fun value ended => absurd ended (stuck value)

/-- One of several runs is enough. -/
theorem Stuck.mapM {each : α → Run β} {items : List α} {item : α} (member : item ∈ items)
    (stuck : Stuck (each item)) : Stuck (items.mapM each) := by
  induction items with
  | nil => exact absurd member List.not_mem_nil
  | cons first rest ih =>
      rw [List.mapM_cons]
      rcases List.mem_cons.mp member with rfl | later
      · exact stuck.bind _
      · exact .bind_of_forall fun _ _ => (ih later).bind _

/-- Where nothing but want of steps stops a run, a run that is stuck is out of steps. -/
theorem Stuck.eq_outOfSteps (stuck : Stuck run)
    (safe : ∀ stop, run = .error stop → stop = .outOfSteps) : run = .error .outOfSteps := by
  cases run with
  | error stop => rw [safe stop rfl]
  | ok value => exact absurd rfl (stuck value)

end Runs

/-! ## Circles -/

section Circles

variable {document : Document} {ust : Ust} {id : NodeId} {pattern : Pattern}

theorem children_of_node {found : Node} (foundEq : node ust id = .ok found) :
    found.kind.children = ust.children id := by
  by_cases present : id.index < ust.nodes.size
  · obtain ⟨kind, kindEq⟩ := Ust.exists_kind?_of_lt present
    rw [node_eq_ok kindEq] at foundEq
    cases foundEq
    exact (Ust.children_of_kind? kindEq).symm
  · rw [node, read, dif_neg present] at foundEq
    cases foundEq

/-- Looking for what is not there, the walk goes through all there is; where that has no
end, neither has the walk. -/
theorem stuck_firstBelow {attempt : Attempt NodeId} {pending : List NodeId} {trail : Trail}
    (fails : ∀ id ∈ pending, ∀ node, ust.Reaches id node → ∀ tried,
      attempt node trail = .ok tried → tried.success = false)
    (endless : ∀ order, ¬ ust.Preorder pending order) (steps : Nat) :
    Stuck (firstBelow ust attempt steps pending trail) := by
  induction steps generalizing pending with
  | zero =>
      cases pending with
      | nil => exact absurd .nil (endless [])
      | cons id pending => exact .error .outOfSteps
  | succ steps ih =>
      cases pending with
      | nil => exact absurd .nil (endless [])
      | cons id pending =>
          refine .bind_of_forall fun found foundEq => .bind_of_forall fun tried triedEq => ?_
          rw [children_of_node foundEq, fails id List.mem_cons_self id .refl tried triedEq]
          apply ih
          · intro node member below reached
            rcases List.mem_append.mp member with isChild | later
            · exact fails id List.mem_cons_self below (reached.head isChild)
            · exact fails node (List.mem_cons_of_mem id later) below reached
          · intro order walk
            obtain ⟨below, after, under, beside, -⟩ := walk.split
            exact endless _ (under.cons beside)

/-- A pattern is nowhere at or below a node: a match of it there fails if it ends. -/
def Absent (ust : Ust) (pattern : Pattern) (id : NodeId) : Prop :=
  ∀ node, ust.Reaches id node → ∀ steps trail tried,
    matchAt ust steps pattern node trail = .ok tried → tried.success = false

theorem stuck_anywhere (absent : Absent ust pattern id) (circle : ust.Above id id)
    (steps : Nat) (trail : Trail) : Stuck (matchAt ust steps (.anywhere pattern) id trail) := by
  cases steps with
  | zero => exact .error .outOfSteps
  | succ steps =>
      refine .bind_of_forall fun found foundEq => .bind_of_forall fun tried triedEq => ?_
      rw [absent id .refl steps trail tried triedEq, children_of_node foundEq]
      apply stuck_firstBelow
      · intro child isChild node reached
        exact absent node (reached.head isChild) steps trail
      · intro order walk
        exact walk.not_above_self circle

/-- A variable whose type is looked at is no better than the type: the type is tried
before the name. -/
theorem stuck_variable (accepted : Ust.ofDocument document = .ok ust) {nameId typeId : NodeId}
    {initializerId : Option NodeId}
    (kindEq : ust.kind? id = some (.variableDeclaration nameId initializerId))
    (found : Pattern.declaredType? ust id = some typeId)
    (atType : ∀ steps trail, Stuck (matchAt ust steps pattern typeId trail)) (name : Pattern)
    (initializer : Option Pattern) (steps : Nat) (trail : Trail) :
    Stuck (matchAt ust steps (.variableDeclaration (some pattern) name initializer) id trail) := by
  cases steps with
  | zero => exact .error .outOfSteps
  | succ steps =>
      rw [matchAt, matchOnce, node_eq_ok kindEq]
      change Stuck (declaredType ust id >>= _)
      rw [declaredType_eq_ok accepted (Ust.lt_of_kind? kindEq), found]
      exact (((atType steps trail).bind _).bind _).bind _

/-- A choice between no patterns is nowhere. -/
theorem absent_disjunction_nil (ust : Ust) (id : NodeId) : Absent ust (.disjunction []) id := by
  intro node _ steps trail tried ended
  cases steps with
  | zero => cases ended
  | succ steps =>
      rw [matchAt, matchOnce] at ended
      cases found : Guarded.node ust node with
      | error stop =>
          rw [found] at ended
          cases ended
      | ok read =>
          rw [found] at ended
          cases ended
          rfl

end Circles

/-! ## Comments on circles -/

section Comments

variable {document : Document} {options : Options} {ust : Ust} {steps : Nat}
  {quarantine : Quarantine} {polls : Nat → Poll} {rules : List Rule} {rule : Rule}
  {comment : NodeId}

/-- One rule at one comment is enough. -/
theorem stuck_search (active : rule ∈ Search.active quarantine ust rules)
    (listed : comment ∈ ust.comments)
    (stuck : ∀ trail, Stuck (matchAt ust steps rule.pattern comment trail)) :
    Stuck (search options ust steps quarantine polls rules) := by
  have atComment : Stuck (commentVisits options ust steps (Search.active quarantine ust rules)) :=
    .mapM listed (.bind (.mapM active (((stuck _).bind _).bind _)) _)
  refine .bind ?_ _
  unfold allVisits
  cases isActive : Search.active quarantine ust rules with
  | nil =>
      rw [isActive] at active
      exact absurd active List.not_mem_nil
  | cons first others =>
      rw [isActive] at atComment
      exact .bind_of_forall fun _ _ => atComment.bind _

/-- A search does not end if one of its rules is to look anywhere for something that is
not there, and a comment lies above itself. -/
theorem search_eq_outOfSteps (accepted : Ust.ofDocument document = .ok ust)
    (active : rule ∈ Search.active quarantine ust rules) (listed : comment ∈ ust.comments)
    (circle : ust.Above comment comment) {pattern : Pattern}
    (looks : rule.pattern = .anywhere pattern) (absent : Absent ust pattern comment)
    (options : Options) (polls : Nat → Poll) (steps : Nat) :
    search options ust steps quarantine polls rules = .error .outOfSteps := by
  apply Stuck.eq_outOfSteps
  · apply stuck_search active listed
    intro trail
    rw [looks]
    exact stuck_anywhere absent circle steps trail
  · exact (yields_search accepted quarantine polls rules).2

/-- A rule for the language of a tree, with no wildcard, is tried there. -/
theorem mem_active_ruleOf (ust : Ust) (pattern : Pattern) :
    { Search.ruleOf pattern with languages := .ofList [ust.language] } ∈
      Search.active {} ust
        [{ Search.ruleOf pattern with languages := .ofList [ust.language] }] := by
  simp [Search.active, Search.isActive, Search.ruleOf, Rule.appliesTo, Rule.appliesToFile,
    LanguageSet.contains, LanguageSet.ofList, Language.mem_all, Quarantine.contains]

/-- If searches for all rules end, no comment lies above itself, nor the type of a comment
that is a variable. -/
theorem not_above_of_forall_search_ends (accepted : Ust.ofDocument document = .ok ust)
    (ends : ∀ rules, ∃ steps outcome, search options ust steps {} polls rules = .ok outcome)
    (listed : comment ∈ ust.comments) {top : NodeId} (isTop : Pattern.Tops ust comment top) :
    ¬ ust.Above top top := by
  intro circle
  have stuckless : ∀ pattern, ¬ ∀ steps trail, Stuck (matchAt ust steps pattern comment trail) := by
    intro pattern stuck
    obtain ⟨steps, outcome, ended⟩ :=
      ends [{ Search.ruleOf pattern with languages := .ofList [ust.language] }]
    exact stuck_search (mem_active_ruleOf ust pattern) listed (stuck steps) outcome ended
  have atTop := stuck_anywhere (absent_disjunction_nil ust top) circle
  cases isTop with
  | start => exact stuckless _ atTop
  | declaredType isVariable found =>
      exact stuckless _ (stuck_variable accepted isVariable found atTop .any none)

/-- The steps that are enough for every rule are enough for the search. -/
theorem exists_steps_of_forall_ends (accepted : Ust.ofDocument document = .ok ust)
    (ends : ∀ rules, Search.Ends ust rules) (rules : List Rule) :
    ∃ steps, ∀ options quarantine polls, search options ust steps quarantine polls rules =
      .ok (Search.run options quarantine polls ust rules) := by
  have straight := (Search.forall_ends_iff_not_above accepted).mp ends
  refine ⟨(rules.map fun rule => (rule.pattern.height + 2) * (ust.size + 1)).foldr max 0, ?_⟩
  intro options quarantine polls
  refine (yields_search accepted quarantine polls rules).1 ⟨straight, fun rule member => ?_⟩
  exact List.le_max_of_le' 0 (List.mem_map_of_mem member) (Nat.le_refl _)

/-- Searches for all rules end in the sense of `Search.Ends` exactly if guarded searches
do, each with some number of steps. -/
theorem forall_ends_iff_exists_steps (accepted : Ust.ofDocument document = .ok ust)
    (options : Options) (polls : Nat → Poll) :
    (∀ rules, Search.Ends ust rules) ↔
      ∀ rules, ∃ steps outcome, search options ust steps {} polls rules = .ok outcome := by
  constructor
  · intro ends rules
    obtain ⟨steps, ended⟩ := exists_steps_of_forall_ends accepted ends rules
    exact ⟨steps, _, ended options {} polls⟩
  · intro ends
    apply (Search.forall_ends_iff_not_above accepted).mpr
    intro comment listed top isTop
    exact not_above_of_forall_search_ends accepted ends listed isTop

end Comments

end Guarded

namespace Search

/-- The way up from a node of an accepted document ends exactly if it leads to a node
without a parent, and the walk below a node ends exactly if the node does not lie
above itself; if they end, both have fewer nodes than the document, however many
steps they are given.  Where the way up ends the walk ends, and both do under the
root.  Searches for all rules end exactly if no comment lies above itself, nor the type
of a comment that is a variable, and exactly if each of them, taken step by step, comes
to an outcome with some number of steps; so they do if the ways up from the comments
end.  A search for rules whose patterns make no loop always ends. -/
theorem ends_iff_comments_off_circles {document : Document} {ust : Ust}
    (accepted : Ust.ofDocument document = .ok ust) :
    (∀ id, (ust.ChainEnds id ↔ ∃ top, ReflTransGen ust.Up id top ∧ ust.parent? top = none) ∧
      (ust.ChainEnds id → (ust.ancestors id).length < ust.size ∧
        ∀ count, ust.chain count (ust.parent? id) = (ust.ancestors id).take count)) ∧
      (∀ id, (ust.WalkEnds id ↔ ¬ ust.Above id id) ∧
        (ust.WalkEnds id → (ust.descendants id).length < ust.size ∧
          ∀ count, ust.walk count (ust.children id) = (ust.descendants id).take count)) ∧
        (∀ id, ust.ChainEnds id → ust.WalkEnds id) ∧
          (∀ id, ust.Reaches ust.root id → ust.ChainEnds id) ∧
            ((∀ rules, Ends ust rules) ↔ ∀ comment ∈ ust.comments, ∀ top,
              Pattern.Tops ust comment top → ¬ ust.Above top top) ∧
              (∀ options polls, (∀ rules, Ends ust rules) ↔ ∀ rules, ∃ steps outcome,
                Guarded.search options ust steps {} polls rules = .ok outcome) ∧
                ((∀ comment ∈ ust.comments, ust.ChainEnds comment) →
                  ∀ rules, Ends ust rules) ∧
                  ∀ rules : List Rule, (∀ rule ∈ rules, rule.pattern.Shallow) →
                    Ends ust rules := by
  have rooted := Ust.rooted_of_ofDocument accepted
  constructor
  · intro id
    refine ⟨Ust.chainEnds_iff_exists_top, fun ends => ?_⟩
    have climb := Ust.climb_ancestors accepted ends
    exact ⟨Ust.length_climb_lt accepted climb, climb.chain_eq_take⟩
  constructor
  · intro id
    refine ⟨rooted.walkEnds_iff, fun ends => ?_⟩
    have straight := rooted.walkEnds_iff.mp ends
    exact ⟨rooted.length_descendants_lt_of_not_above straight,
      (rooted.preorder_children_of_not_above straight).walk_eq_take⟩
  constructor
  · intro id ends
    exact rooted.walkEnds_iff.mpr (Ust.not_above_self_of_chainEnds accepted ends)
  constructor
  · intro id reached
    exact (Ust.chainEnds_root accepted).of_reaches accepted reached
  constructor
  · exact forall_ends_iff_not_above accepted
  constructor
  · exact Guarded.forall_ends_iff_exists_steps accepted
  constructor
  · intro comments rules
    apply (ends_iff_forall_comments accepted).mpr
    intro rule _ comment listed
    exact Pattern.halts_of_chainEnds accepted (comments comment listed) rule.pattern
  · intro rules shallow
    apply (ends_iff_forall_comments accepted).mpr
    intro rule member comment _
    exact (shallow rule member).halts comment

/-- If the comment is the only one, a search ends, although the walk and the way up
do not end at the second block. -/
theorem ends_sampleCircle :
    Ust.ofDocument (.sampleCircle [⟨2⟩]) = .ok (.sampleCircle [⟨2⟩]) ∧
      (∀ rules, Ends (.sampleCircle [⟨2⟩]) rules) ∧
        (∀ options polls rules, ∃ steps outcome,
          Guarded.search options (.sampleCircle [⟨2⟩]) steps {} polls rules = .ok outcome) ∧
          ¬ (Ust.sampleCircle [⟨2⟩]).WalkEnds ⟨1⟩ ∧
            ¬ (Ust.sampleCircle [⟨2⟩]).ChainEnds ⟨1⟩ := by
  have accepted : Ust.ofDocument (.sampleCircle [⟨2⟩]) = .ok (.sampleCircle [⟨2⟩]) := rfl
  obtain ⟨ups, downs, upDown, -, -, steps, off, -⟩ := ends_iff_comments_off_circles accepted
  have circle : (Ust.sampleCircle [⟨2⟩]).Above ⟨1⟩ ⟨1⟩ :=
    .single (show (⟨1⟩ : NodeId) ∈ (Ust.sampleCircle [⟨2⟩]).children ⟨1⟩ by decide)
  have endless : ¬ (Ust.sampleCircle [⟨2⟩]).WalkEnds ⟨1⟩ := fun walk =>
    (downs ⟨1⟩).1.mp walk circle
  have ends : ∀ rules, Ends (.sampleCircle [⟨2⟩]) rules := off fun comment listed => by
    rw [List.mem_singleton.mp listed]
    exact (ups ⟨2⟩).1.mpr ⟨⟨2⟩, .refl, rfl⟩
  exact ⟨accepted, ends, fun options polls => (steps options polls).mp ends, endless,
    fun chain => endless (upDown _ chain)⟩

theorem eq_of_reaches_sampleCircle {node : NodeId}
    (reached : (Ust.sampleCircle [⟨1⟩]).Reaches ⟨1⟩ node) : node = ⟨1⟩ := by
  induction reached with
  | refl => rfl
  | tail _ isChild same =>
      rw [same] at isChild
      exact List.mem_singleton.mp isChild

/-- If the second block is listed as a comment, neither way ends there, and a search
for a number, which is not there, does not end: taken step by step, it takes all the
steps there are. -/
theorem endless_sampleCircle :
    Ust.ofDocument (.sampleCircle [⟨1⟩]) = .ok (.sampleCircle [⟨1⟩]) ∧
      (⟨1⟩ : NodeId) ∈ (Ust.sampleCircle [⟨1⟩]).comments ∧
        (∀ count, (Ust.sampleCircle [⟨1⟩]).chain count
            ((Ust.sampleCircle [⟨1⟩]).parent? ⟨1⟩) = List.replicate count ⟨1⟩) ∧
          (∀ count, (Ust.sampleCircle [⟨1⟩]).walk count
              ((Ust.sampleCircle [⟨1⟩]).children ⟨1⟩) = List.replicate count ⟨1⟩) ∧
            (∀ trail, (Pattern.matchAt (.sampleCircle [⟨1⟩]) (.intLiteral 1) ⟨1⟩ trail).success =
              false) ∧
              ¬ Ends (.sampleCircle [⟨1⟩]) [ruleOf (.anywhere (.intLiteral 1))] ∧
                ∀ options polls steps, Guarded.search options (.sampleCircle [⟨1⟩]) steps {} polls
                  [ruleOf (.anywhere (.intLiteral 1))] = .error .outOfSteps := by
  have accepted : Ust.ofDocument (.sampleCircle [⟨1⟩]) = .ok (.sampleCircle [⟨1⟩]) := rfl
  have listed : (⟨1⟩ : NodeId) ∈ (Ust.sampleCircle [⟨1⟩]).comments := List.mem_singleton_self _
  have circle : (Ust.sampleCircle [⟨1⟩]).Above ⟨1⟩ ⟨1⟩ :=
    .single (show (⟨1⟩ : NodeId) ∈ (Ust.sampleCircle [⟨1⟩]).children ⟨1⟩ by decide)
  refine ⟨accepted, listed, fun count => ?_, fun count => ?_, fun _ => rfl, fun ends => ?_, ?_⟩
  · induction count with
    | zero => rfl
    | succ count ih => exact congrArg (List.cons ⟨1⟩) ih
  · induction count with
    | zero => rfl
    | succ count ih => exact congrArg (List.cons ⟨1⟩) ih
  · have halts : (Pattern.anywhere (.intLiteral 1)).Halts (.sampleCircle [⟨1⟩]) ⟨1⟩ :=
      ends.comments _ List.mem_cons_self ⟨1⟩ listed
    exact (Ust.rooted_of_ofDocument accepted).walkEnds_iff.mp halts.walkEnds circle
  · have active : ruleOf (.anywhere (.intLiteral 1)) ∈
        active {} (.sampleCircle [⟨1⟩]) [ruleOf (.anywhere (.intLiteral 1))] :=
      List.mem_filter.mpr ⟨List.mem_singleton_self _, rfl⟩
    have absent : Guarded.Absent (.sampleCircle [⟨1⟩]) (.intLiteral 1) ⟨1⟩ := by
      intro node reached steps trail tried ended
      rw [eq_of_reaches_sampleCircle reached] at ended
      cases steps with
      | zero => cases ended
      | succ steps =>
          cases ended
          rfl
    exact Guarded.search_eq_outOfSteps accepted active listed circle rfl absent

end Search

end TreeSieve
