import TreeSieve.Proofs.Pattern.Marks
import TreeSieve.Proofs.Search.Comments
import TreeSieve.Proofs.Search.Termination

/-!
# Where locations come from

Matching leaves the node where it starts in one direction only.  It goes down to what
lies below the node, and there is a single step that does not: a pattern that asks for
the type of a variable is matched at the type of the field around it.  That type lies
below whatever lies above the variable.  So the step leads out of what lies below the
start only if it is taken at the start itself, and what a trail gathers are the spans
of nodes below the start or below its type.
-/

namespace TreeSieve

open Relation

namespace Pattern

/-- A pattern asks for the type of a variable, or a part of it does. -/
inductive AsksForType : Pattern → Prop
  | here {variableType name : Pattern} {initializer : Option Pattern} :
      AsksForType (variableDeclaration (some variableType) name initializer)
  | inside {pattern part : Pattern} (member : part ∈ pattern.parts) (asks : AsksForType part) :
      AsksForType pattern

/-- The nodes that a pattern can look at from a node: those at or below it, and if the
node is a variable inside a field and the pattern asks for its type, those at or below
the type of the field. -/
inductive InView (ust : Ust) (pattern : Pattern) (id : NodeId) : NodeId → Prop
  | below {node : NodeId} (reached : ust.Reaches id node) : InView ust pattern id node
  | fieldType {node nameId field typeId : NodeId} {initializerId : Option NodeId}
      {declarators : List NodeId}
      (isVariable : ust.kind? id = some (.variableDeclaration nameId initializerId))
      (asks : pattern.AsksForType) (parentEq : ust.parent? id = some field)
      (isField : ust.kind? field = some (.fieldDeclaration (some typeId) declarators))
      (reached : ust.Reaches typeId node) : InView ust pattern id node

/-- A span that covers some text and is the span of a node in view. -/
def Sourced (ust : Ust) (pattern : Pattern) (id : NodeId) (span : Span) : Prop :=
  span.isEmpty = false ∧ ∃ node, pattern.InView ust id node ∧ ust.span node = span

section View

variable {document : Document} {ust : Ust} {pattern next : Pattern} {id inner node : NodeId}

/-- From above, all that is in view from a node lies below. -/
theorem InView.reaches_of_above (accepted : Ust.ofDocument document = .ok ust)
    (isAbove : ust.Above id inner) (inView : next.InView ust inner node) :
    ust.Reaches id node := by
  cases inView with
  | below reached => exact isAbove.to_reflTransGen.trans reached
  | fieldType _ _ parentEq isField reached =>
      have found := declaredType?_eq_some_iff_exists_field.mpr ⟨_, _, parentEq, isField⟩
      exact (reaches_declaredType accepted isAbove found).trans reached

/-- What is in view where matching turns to was in view before. -/
theorem InView.of_turns (accepted : Ust.ofDocument document = .ok ust)
    (turns : Turns ust (pattern, id) (next, inner)) (inView : next.InView ust inner node) :
    pattern.InView ust id node := by
  cases turns with
  | part member reached =>
      rcases reflTransGen_iff_eq_or_transGen.mp reached with rfl | isAbove
      · cases inView with
        | below reached => exact .below reached
        | fieldType isVariable asks parentEq isField reached =>
            exact .fieldType isVariable (.inside member asks) parentEq isField reached
      · exact .below (inView.reaches_of_above accepted isAbove)
  | arguments _ isChild => exact .below (inView.reaches_of_above accepted (.single isChild))
  | declaredType kindEq found =>
      obtain ⟨field, declarators, parentEq, isField⟩ :=
        declaredType?_eq_some_iff_exists_field.mp found
      cases inView with
      | below reached => exact .fieldType kindEq .here parentEq isField reached
      | fieldType _ _ typeParent typeField reached =>
          have further := declaredType?_eq_some_iff_exists_field.mpr ⟨_, _, typeParent, typeField⟩
          rw [declaredType?_of_declaredType? accepted found further] at reached
          exact .fieldType kindEq .here parentEq isField reached
  | declared declares =>
      obtain ⟨fieldType, declarators, kindEq, listed⟩ := declares
      have isChild : ust.IsChild id inner :=
        Ust.isChild_of_kind? kindEq (by simp [NodeKind.children, listed])
      exact .below (inView.reaches_of_above accepted (.single isChild))

/-- Matching stays in view of where it starts. -/
theorem inView_of_path (accepted : Ust.ofDocument document = .ok ust)
    {start finish : Pattern × NodeId} (path : ReflTransGen (Turns ust) start finish) :
    start.1.InView ust start.2 finish.2 := by
  induction path using ReflTransGen.head_induction_on with
  | refl => exact .below .refl
  | head turns _ ih => exact ih.of_turns accepted turns

/-- What a fresh trail gathers, whether matching succeeds or fails, has its source in
view. -/
theorem sourced_of_mem_locations (accepted : Ust.ofDocument document = .ok ust)
    {options : Options} {caseInsensitive : Bool} {span : Span}
    (gathered :
      span ∈ (pattern.matchAt ust id (.fresh options caseInsensitive)).locations) :
    pattern.Sourced ust id span := by
  obtain ⟨success, marks, leaves, known⟩ := traced ust caseInsensitive pattern id
  rw [leaves.locations_fresh, List.mem_filterMap] at gathered
  obtain ⟨mark, member, spanEq⟩ := gathered
  obtain ⟨-, covers, rfl⟩ := Mark.span?_eq_some_iff.mp spanEq
  exact ⟨covers, mark.node, inView_of_path accepted (known mark member).path, rfl⟩

end View

end Pattern

namespace Search

section Results

variable {ust : Ust} {options : Options} {quarantine : Quarantine} {rules : List Rule}

/-- A search that is not stopped reports the hits of the tree that it does not silence,
and then what is to be reported at the comments. -/
theorem eq_hits_of_run (rooted : ust.Rooted) {polls : Nat → Poll} {findings : List Finding}
    (ran : run options quarantine polls ust rules = .ok findings) :
    findings = ((treeHits options quarantine ust rules).filter fun hit =>
        options.findAll || outermost options ust hit.rule hit.node).map Hit.finding ++
      commentFindings options quarantine ust rules := by
  have quiet : ∀ count, (fun _ => .proceed : Nat → Poll) count = .proceed := fun _ => rfl
  have complete : run options quarantine (fun _ => .proceed) ust rules = .ok _ :=
    run_eq_hits rooted quiet options.findAll
  rw [run, gather_eq_flatten quiet] at complete
  rw [eq_flatten_of_gather ran]
  exact Except.ok.inj complete

/-- The spans of what is to be reported at a node are what was gathered there, or the span
of the node if nothing was. -/
theorem spans_of_expectedAt? {id : NodeId} {rule : Rule} {finding : Finding}
    (expected : expectedAt? options quarantine ust id rule = some finding) :
    finding.spans = [ust.span id] ∨
      finding.spans =
        (rule.pattern.matchAt ust id (.fresh options ust.language.caseInsensitive)).locations := by
  unfold expectedAt? at expected
  simp only [Option.ite_none_right_eq_some, Option.some.injEq] at expected
  obtain ⟨-, rfl⟩ := expected
  dsimp only
  split
  · exact .inl rfl
  · exact .inr rfl

end Results

/-- In an accepted document every span that a fresh trail gathers at a node, whatever the
pattern and whether or not it matches, covers some text and is the span of a node at or
below that node, or, if the node is a variable inside a field and the pattern asks for the
type of a variable, of a node at or below the type of the field.  A search that nothing
stops has a result, and if a search has one, it reports hits in the tree and findings at
the comments.  The spans of a hit all are such spans, seen from the node of the hit, or
there is one of them only, the span of that node.

A result is that of the search as it is defined here, which goes down from a node no more
steps than there are nodes.  Where comments come to circles, which `Search.Ends` excludes,
such a result does not say that going down comes to an end. -/
theorem locations_sourced_in_view {document : Document} {ust : Ust}
    (accepted : Ust.ofDocument document = .ok ust) :
    (∀ (pattern : Pattern) id options caseInsensitive,
      ∀ span ∈ (pattern.matchAt ust id (.fresh options caseInsensitive)).locations,
        pattern.Sourced ust id span) ∧
      ∀ options quarantine polls rules,
        ((∀ count, polls count = .proceed) →
          ∃ findings, run options quarantine polls ust rules = .ok findings) ∧
        (∀ findings, run options quarantine polls ust rules = .ok findings →
          findings = ((treeHits options quarantine ust rules).filter fun hit =>
              options.findAll || outermost options ust hit.rule hit.node).map Hit.finding ++
            commentFindings options quarantine ust rules) ∧
        ∀ hit ∈ treeHits options quarantine ust rules,
          ust.Reaches ust.root hit.node ∧
            (hit.finding.spans = [ust.span hit.node] ∨
              ∀ span ∈ hit.finding.spans, hit.rule.pattern.Sourced ust hit.node span) := by
  have rooted := Ust.rooted_of_ofDocument accepted
  constructor
  · intro pattern id options caseInsensitive span gathered
    exact Pattern.sourced_of_mem_locations accepted gathered
  · intro options quarantine polls rules
    refine ⟨?_, ?_, ?_⟩
    · intro quiet
      exact ⟨_, run_eq rooted quiet quarantine rules⟩
    · intro findings ran
      exact eq_hits_of_run rooted ran
    · intro hit member
      obtain ⟨reached, -, expected⟩ := (mem_treeHits_iff rooted).mp member
      refine ⟨reached, ?_⟩
      rcases spans_of_expectedAt? expected with fallback | gathered
      · exact .inl fallback
      · right
        rw [gathered]
        intro span member
        exact Pattern.sourced_of_mem_locations accepted member

/-- In the sample the variable is matched by its type and its name.  The span of the type
is gathered although the type does not lie below the variable. -/
theorem sourced_sampleField :
    Ust.ofDocument Document.sampleField = .ok Ust.sampleField ∧
      ((Pattern.variableDeclaration (some (.idToken "int")) .any none).matchAt Ust.sampleField ⟨2⟩
        (.fresh {} false)).locations = [⟨0, 3⟩, ⟨4, 1⟩] ∧
        (Pattern.variableDeclaration (some (.idToken "int")) .any none).Sourced Ust.sampleField ⟨2⟩
          ⟨0, 3⟩ := by
  have gathered :
      ((Pattern.variableDeclaration (some (.idToken "int")) .any none).matchAt Ust.sampleField ⟨2⟩
        (.fresh {} false)).locations = [⟨0, 3⟩, ⟨4, 1⟩] := rfl
  refine ⟨Ust.ofDocument_sampleField, gathered, ?_⟩
  apply (locations_sourced_in_view Ust.ofDocument_sampleField).1 _ ⟨2⟩ {} false
  rw [gathered]
  exact List.mem_cons_self

end Search

end TreeSieve
