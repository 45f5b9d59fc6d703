import TreeSieve.Proofs.Guarded.Steps

/-!
# What one guarded match does

A match that asks for others does what `Pattern.matchAt` does if they do, since both
follow one outline.

A field asks for its variables with the pattern that it was asked for.  There
`Pattern.matchAt` counts how deep it is, which makes no difference if no circle of
fields is in the way.
-/

namespace TreeSieve

/-! ## Depth -/

theorem firstOf_congr {α : Type} {attempt other : Attempt α} {candidates : List α}
    (same : ∀ candidate ∈ candidates, attempt candidate = other candidate) :
    firstOf attempt candidates = firstOf other candidates := by
  induction candidates with
  | nil => rfl
  | cons candidate rest ih =>
      have others := ih fun later member => same later (List.mem_cons_of_mem candidate member)
      funext trail
      rw [firstOf, firstOf, same candidate List.mem_cons_self, others]

namespace Pattern

variable {ust : Ust} {id : NodeId}

/-- Where the walk ends, looking deeper for variables makes no difference. -/
theorem matchDeclared_eq_of_preorder
    (declared : NodeId → NodeId → Option NodeId → Trail → Trail) {ids order : List NodeId}
    (walk : ust.Preorder ids order) {depth deeper : Nat} (enough : order.length ≤ depth)
    (deepEnough : order.length ≤ deeper) (member : id ∈ ids) :
    matchDeclared ust declared depth id = matchDeclared ust declared deeper id := by
  induction walk generalizing depth deeper id with
  | nil => simp at member
  | @cons node rest below after under beside ihUnder ihBeside =>
      simp only [List.length_cons, List.length_append] at enough deepEnough
      rcases List.mem_cons.mp member with rfl | member
      · obtain ⟨depth, rfl⟩ := Nat.exists_eq_add_of_le' (show 1 ≤ depth by omega)
        obtain ⟨deeper, rfl⟩ := Nat.exists_eq_add_of_le' (show 1 ≤ deeper by omega)
        funext trail
        rw [matchDeclared, matchDeclared, atKind, atKind]
        cases kindEq : ust.kind? id with
        | none => rfl
        | some kind =>
            cases kind with
            | fieldDeclaration fieldType declarators =>
                have inside : firstOf (matchDeclared ust declared depth) declarators =
                    firstOf (matchDeclared ust declared deeper) declarators := by
                  refine firstOf_congr fun inner listed => ?_
                  exact ihUnder (by omega) (by omega)
                    (Ust.isChild_of_kind? kindEq (by simp [NodeKind.children, listed]))
                simp only [Option.bind_some, inside]
            | _ => rfl
      · exact ihBeside (by omega) (by omega) member

theorem matchAt_of_variableDeclaration {nameId : NodeId} {initializerId : Option NodeId}
    (kindEq : ust.kind? id = some (.variableDeclaration nameId initializerId))
    (variableType : Option Pattern) (name : Pattern) (initializer : Option Pattern)
    (trail : Trail) :
    matchAt ust (variableDeclaration variableType name initializer) id trail =
      ((Step.ofVariable variableType name initializer nameId initializerId).run ust id
        trail).close (ust.span id) := by
  obtain ⟨depth, sizeEq⟩ := Nat.exists_eq_add_one_of_ne_zero
    (Nat.ne_zero_of_lt (Ust.lt_of_kind? kindEq))
  rw [matchAt, sizeEq, matchDeclared, atKind, kindEq, ← ofVariable_eq_run]
  rfl

theorem matchDeclared_of_fieldDeclaration (rooted : ust.Rooted) (straight : ¬ ust.Above id id)
    {fieldType : Option NodeId} {declarators : List NodeId}
    (kindEq : ust.kind? id = some (.fieldDeclaration fieldType declarators))
    (declared : NodeId → NodeId → Option NodeId → Trail → Trail) (trail : Trail) :
    matchDeclared ust declared ust.size id trail =
      (firstOf (matchDeclared ust declared ust.size) declarators trail).close (ust.span id) := by
  have walk := rooted.preorder_children_of_not_above straight
  have short := rooted.length_descendants_lt_of_not_above straight
  obtain ⟨depth, sizeEq⟩ := Nat.exists_eq_add_one_of_ne_zero (Nat.ne_zero_of_lt short)
  have inside : ∀ inner ∈ declarators,
      matchDeclared ust declared ust.size inner = matchDeclared ust declared depth inner := by
    intro inner listed
    have isChild : ust.IsChild id inner :=
      Ust.isChild_of_kind? kindEq (by simp [NodeKind.children, listed])
    exact matchDeclared_eq_of_preorder declared walk (by omega) (by omega) isChild
  rw [firstOf_congr inside, sizeEq, matchDeclared, atKind, kindEq]
  rfl

/-- A field is matched by matching the same pattern at its variables, unless it lies
above itself. -/
theorem matchAt_of_fieldDeclaration (rooted : ust.Rooted) (straight : ¬ ust.Above id id)
    {fieldType : Option NodeId} {declarators : List NodeId}
    (kindEq : ust.kind? id = some (.fieldDeclaration fieldType declarators))
    (variableType : Option Pattern) (name : Pattern) (initializer : Option Pattern)
    (trail : Trail) :
    matchAt ust (variableDeclaration variableType name initializer) id trail =
      (firstOf (matchAt ust (variableDeclaration variableType name initializer)) declarators
        trail).close (ust.span id) := by
  rw [matchAt, matchDeclared_of_fieldDeclaration rooted straight kindEq]
  refine congrArg (Trail.close · _) (congrFun (firstOf_congr fun inner _ => ?_) trail)
  funext trail
  rw [matchAt]

end Pattern

namespace Guarded

variable {enough : Prop}

/-! ## Matching -/

/-- What is done at a node that has been read is what the pattern does there. -/
def Does (enough : Prop) (ust : Ust) (call : Call) (steps : Nat) (id : NodeId) (kind : NodeKind)
    (pattern : Pattern) : Prop :=
  ∀ trail, Yields enough (matchNode ust call steps id kind (ust.span id) pattern trail)
    (pattern.matchAt ust id trail)

section Matching

variable {document : Document} {ust : Ust} {call : Call} {steps : Nat} {id : NodeId}
  {kind : NodeKind} {pattern : Pattern}

theorem Answers.patterns (answers : Answers enough ust call id pattern) :
    (guardTies enough ust call steps id kind).Patterns pattern pattern := by
  rintro _ node ⟨rfl, met, -⟩
  exact answers node met

/-- A variable asks for parts of the pattern, and a field for the pattern itself. -/
theorem does_variableDeclaration (accepted : Ust.ofDocument document = .ok ust)
    (kindEq : ust.kind? id = some kind) (straight : enough → ¬ ust.Above id id)
    {variableType : Option Pattern} {name : Pattern} {initializer : Option Pattern}
    (calls : ∀ part ∈ (Pattern.variableDeclaration variableType name initializer).parts,
      Answers enough ust call id part)
    (again : ∀ inner, ust.Declares id inner → ∀ trail,
      Yields enough (call (.variableDeclaration variableType name initializer) inner trail)
        ((Pattern.variableDeclaration variableType name initializer).matchAt ust inner trail)) :
    Does enough ust call steps id kind
      (.variableDeclaration variableType name initializer) := by
  intro trail
  have rooted := Ust.rooted_of_ofDocument accepted
  have present := Ust.lt_of_kind? kindEq
  cases kind with
  | variableDeclaration nameId initializerId =>
      let ties := guardTies enough ust call steps id (.variableDeclaration nameId initializerId)
      have toChild : ∀ node ∈ nameId :: initializerId.toList, ties.nodes node node :=
        fun node member => ⟨rfl, .of_kind? kindEq member,
          rooted.child_lt (Ust.isChild_of_kind? kindEq member)⟩
      have onPart : ∀ part ∈ (Pattern.variableDeclaration variableType name initializer).parts,
          ties.Patterns part part := fun part member => (calls part member).patterns
      have typeEq := declaredType_eq_ok accepted present
      have toType : ∀ node, Pattern.declaredType? ust id = some node → ties.nodes node node := by
        intro node found
        obtain ⟨field, -, -, isChild, -⟩ := Pattern.exists_parent_declaredType accepted found
        exact ⟨rfl, .declaredType .start kindEq found, rooted.child_lt isChild⟩
      have ofType : ties.steps (.typed variableType) (.typed variableType) := by
        intro trail
        have optional : (Pattern.Step.optional variableType (Pattern.declaredType? ust id)).Like
            ties (Pattern.Step.optional variableType (Pattern.declaredType? ust id)) :=
          Pattern.Step.like_optional
            (Pattern.rel_self fun part given => onPart part (by simp [given]))
            (Pattern.rel_self toType)
        rw [Pattern.Step.run, Pattern.matchOptional_eq_run id]
        refine .of_eq_ok typeEq ?_
        rw [optional_eq_guardStep]
        exact yields_guardStep rooted optional trail
      have like := Pattern.Step.like_ofVariable_self ofType onPart toChild
      rw [Pattern.matchAt_of_variableDeclaration kindEq]
      have yields := yields_close kindEq (yields_guardStep rooted like trail)
      simp only [Pattern.Step.ofVariable, guardStep, typeEq, ← optional_eq_guardStep] at yields
      simp only [matchNode, atKind, typeEq]
      exact yields
  | fieldDeclaration fieldType declarators =>
      have inside := yields_close kindEq (yields_firstOf
        (fun inner member => again inner ⟨fieldType, declarators, kindEq, member⟩) trail)
      refine inside.congr fun holds => ?_
      exact (Pattern.matchAt_of_fieldDeclaration rooted (straight holds) kindEq _ _ _ trail).symm
  | _ =>
      obtain ⟨depth, sizeEq⟩ := Nat.exists_eq_add_one_of_ne_zero (Nat.ne_zero_of_lt present)
      rw [Pattern.matchAt, sizeEq, Pattern.matchDeclared, Pattern.atKind, kindEq]
      exact .ok trail.fail

/-- A pattern does what it should if the matches that it asks for do. -/
theorem does_of_parts (rooted : ust.Rooted) (kindEq : ust.kind? id = some kind)
    (calls : ∀ part ∈ pattern.parts, Answers enough ust call id part)
    (arguments : ∀ {patterns}, pattern.callArguments? = some patterns →
      ∀ node, Pattern.Meets ust id node → node.index < ust.size → ∀ trail,
        Yields enough (arguments ust call patterns node trail)
          ((Pattern.args patterns).matchAt ust node trail))
    (descend : ∀ {part}, pattern = .anywhere part → ∀ trail,
      Yields enough (firstBelow ust (call part) steps kind.children trail)
        (TreeSieve.firstOf (part.matchAt ust) (ust.descendants id) trail))
    (declared : ∀ {variableType name initializer},
      pattern = .variableDeclaration variableType name initializer →
        Does enough ust call steps id kind pattern) :
    Does enough ust call steps id kind pattern := by
  intro trail
  have parts : (guardTies enough ust call steps id kind).Parts pattern fun _ part => part := by
    constructor
    · exact fun index part found => (calls part (List.mem_of_getElem? found)).patterns
    · exact fun _ _ _ same => same
    · rintro patterns given _ node ⟨rfl, met, nodePresent⟩
      exact arguments given node met nodePresent
    · intro part other given patterns
      exact descend given
    · rintro _ _ _ _ _ _ rfl - - - trail
      have does := declared rfl trail
      rw [Pattern.matchAt_eq_run] at does
      exact does
  have own : (guardTies enough ust call steps id kind).nodes id id :=
    ⟨rfl, .start, Ust.lt_of_kind? kindEq⟩
  have like := Pattern.like_outline_self parts own (.some (kinds_of_meets rooted .start kindEq))
  rw [matchNode_eq_guardOutline (node_eq_ok kindEq), Pattern.matchAt_eq_run, kindEq]
  exact yields_guardOutline rooted kindEq like trail

/-- Whatever the pattern, a match does what it should if the matches that it asks for do:
those of parts of the pattern, and those of the pattern itself inside a field. -/
theorem yields_matchOnce (accepted : Ust.ofDocument document = .ok ust)
    (present : id.index < ust.size) (straight : enough → ¬ ust.Above id id)
    (walk : enough → (ust.descendants id).length ≤ steps)
    (calls : ∀ part ∈ pattern.parts, Answers enough ust call id part)
    (again : ∀ inner, ust.Declares id inner → ∀ trail,
      Yields enough (call pattern inner trail) (pattern.matchAt ust inner trail))
    (trail : Trail) :
    Yields enough (matchOnce ust call steps pattern id trail) (pattern.matchAt ust id trail) := by
  have rooted := Ust.rooted_of_ofDocument accepted
  obtain ⟨kind, kindEq⟩ := Ust.exists_kind?_of_lt present
  suffices does : Does enough ust call steps id kind pattern from
    .of_eq_ok (node_eq_ok kindEq) (does trail)
  refine does_of_parts rooted kindEq calls (fun {patterns} given node met nodePresent => ?_) ?_ ?_
  · -- The node that holds the arguments is matched as a pattern of arguments would be.
    obtain ⟨holding, holdingEq⟩ := Ust.exists_kind?_of_lt nodePresent
    have onArguments : Does enough ust call steps node holding (.args patterns) :=
      does_of_parts rooted holdingEq
        (fun part member =>
          (calls part (Pattern.mem_parts_of_callArguments? given member)).of_meets met)
        nofun nofun nofun
    exact onArguments
  · rintro part rfl trail
    rw [← Ust.children_of_kind? kindEq]
    refine yields_firstBelow rooted (fun child isChild => rooted.child_lt isChild) ?_
      (fun holds => ⟨rooted.preorder_children_of_not_above (straight holds), walk holds⟩) trail
    intro child isChild node reached
    exact calls part (by simp) node (.of_reaches (reached.head isChild))
  · rintro variableType name initializer rfl
    exact does_variableDeclaration accepted kindEq straight calls again

end Matching

end Guarded

end TreeSieve
