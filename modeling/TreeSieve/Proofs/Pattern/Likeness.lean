import TreeSieve.Pattern.Matching
import TreeSieve.Proofs.Ust.Rooted

/-!
# Like trails in like trees

Two runs of matching can be compared step by step, in trees that differ in nothing
but names.  Steps agree if they take like trails to like trails.  What it takes for
trails to be alike is left open, except that like trails have failed or not
together and treat case in the same way.
-/

namespace TreeSieve

/-! ## Steps on like trails -/

/-- Trails that are alike stay so when the same is done to both. -/
structure Likeness (alike : Trail → Trail → Prop) : Prop where
  success_eq : ∀ {first second}, alike first second → second.success = first.success
  caseInsensitive_eq :
    ∀ {first second}, alike first second → second.caseInsensitive = first.caseInsensitive
  fail : ∀ {first second}, alike first second → alike first.fail second.fail
  add : ∀ {first second} span, alike first second → alike (first.add span) (second.add span)
  addNonterminal : ∀ {first second} span, alike first second →
    alike (first.addNonterminal span) (second.addNonterminal span)

/-- Two steps take like trails that have not failed to like trails. -/
def Agree (alike : Trail → Trail → Prop) (step other : Trail → Trail) : Prop :=
  ∀ ⦃first second : Trail⦄, first.success = true → alike first second →
    alike (step first) (other second)

/-- Two tests come to the same verdict on like trails that have not failed. -/
def SameVerdict (alike : Trail → Trail → Prop) (test other : Trail → Bool) : Prop :=
  ∀ ⦃first second : Trail⦄, first.success = true → alike first second →
    other second = test first

namespace Likeness

variable {alike : Trail → Trail → Prop} (likeness : Likeness alike)
include likeness

theorem sameVerdict_caseInsensitive (test : Bool → Bool) :
    SameVerdict alike (fun trail => test trail.caseInsensitive)
      fun trail => test trail.caseInsensitive :=
  fun _ _ _ related => congrArg test (likeness.caseInsensitive_eq related)

theorem agree_fail : Agree alike Trail.fail Trail.fail :=
  fun _ _ _ related => likeness.fail related

theorem agree_add (span : Span) : Agree alike (·.add span) (·.add span) :=
  fun _ _ _ related => likeness.add span related

end Likeness

theorem agree_self {alike : Trail → Trail → Prop} :
    Agree alike (fun trail => trail) fun trail => trail :=
  fun _ _ _ related => related

namespace Agree

variable {alike : Trail → Trail → Prop} {step other next otherNext : Trail → Trail}

theorem sameVerdict (agree : Agree alike step other) (likeness : Likeness alike) :
    SameVerdict alike (fun trail => (step trail).success) fun trail => (other trail).success :=
  fun _ _ succeeding related => likeness.success_eq (agree succeeding related)

theorem ite {test otherTest : Trail → Bool} (tests : SameVerdict alike test otherTest)
    (passed : Agree alike step other) (failed : Agree alike next otherNext) :
    Agree alike (fun trail => if test trail then step trail else next trail)
      fun trail => if otherTest trail then other trail else otherNext trail := by
  intro first second succeeding related
  simp only [tests succeeding related]
  split
  · exact passed succeeding related
  · exact failed succeeding related

theorem check (likeness : Likeness alike) {test otherTest : Trail → Bool}
    (tests : SameVerdict alike test otherTest) (span : Span) :
    Agree alike (fun trail => trail.check (test trail) span)
      fun trail => trail.check (otherTest trail) span :=
  ite tests (likeness.agree_add span) likeness.agree_fail

theorem andThen (likeness : Likeness alike) (agree : Agree alike step other)
    (onward : Agree alike next otherNext) :
    Agree alike (fun trail => (step trail).andThen next)
      fun trail => (other trail).andThen otherNext := by
  intro first second succeeding related
  have after := agree succeeding related
  simp only [Trail.andThen, likeness.success_eq after]
  split
  · exact onward ‹_› after
  · exact after

/-- Both go on from where they come, or both start again. -/
theorem branch (likeness : Likeness alike) {last otherLast : Trail → Trail}
    (tried : Agree alike step other) (passed : Agree alike next otherNext)
    (failed : Agree alike last otherLast) :
    Agree alike (fun trail => if (step trail).success then next (step trail) else last trail)
      fun trail => if (other trail).success then otherNext (other trail) else otherLast trail := by
  intro first second succeeding related
  have after := tried succeeding related
  simp only [likeness.success_eq after]
  split
  · exact passed ‹_› after
  · exact failed succeeding related

theorem close (likeness : Likeness alike) (agree : Agree alike step other) (span : Span) :
    Agree alike (fun trail => (step trail).close span) fun trail => (other trail).close span :=
  agree.andThen likeness fun _ _ _ related => likeness.addNonterminal span related

end Agree

section Candidates

variable {alike : Trail → Trail → Prop} {α : Type} {attempt other : Attempt α}
  {candidates : List α}

theorem agree_firstOf (likeness : Likeness alike)
    (each : ∀ candidate ∈ candidates, Agree alike (attempt candidate) (other candidate)) :
    Agree alike (firstOf attempt candidates) (firstOf other candidates) := by
  induction candidates with
  | nil => exact likeness.agree_fail
  | cons candidate rest ih =>
      have here := each candidate List.mem_cons_self
      exact .ite (here.sameVerdict likeness) here
        (ih fun later member => each later (List.mem_cons_of_mem candidate member))

end Candidates

/-! ## Trees that differ in names -/

/-- Kinds of nodes that differ at most in the name of an identifier or a type,
where the two names are the same in some sense. -/
inductive NodeKind.UpToNames (same : String → String → Prop) : NodeKind → NodeKind → Prop
  | refl (kind : NodeKind) : UpToNames same kind kind
  | identifier {name other : String} (names : same name other) :
      UpToNames same (.identifier name) (.identifier other)
  | typeToken {name other : String} (names : same name other) :
      UpToNames same (.typeToken name) (.typeToken other)

/-- What is read off a kind without its names is the same for both. -/
theorem NodeKind.UpToNames.read_eq {same : String → String → Prop} {kind other : NodeKind}
    (upToNames : kind.UpToNames same other) {α : Sort*} (read : NodeKind → α)
    (identifiers : ∀ name other, read (.identifier other) = read (.identifier name))
    (typeTokens : ∀ name other, read (.typeToken other) = read (.typeToken name)) :
    read other = read kind := by
  cases upToNames with
  | refl => rfl
  | identifier => exact identifiers _ _
  | typeToken => exact typeTokens _ _

/-- Trees that differ at most in names. -/
structure Ust.UpToNames (same : String → String → Prop) (first second : Ust) : Prop where
  size_eq : second.size = first.size
  span_eq : ∀ id, second.span id = first.span id
  parent?_eq : ∀ id, second.parent? id = first.parent? id
  kind?_rel : ∀ id, Option.Rel (NodeKind.UpToNames same) (first.kind? id) (second.kind? id)

namespace Ust.UpToNames

variable {same : String → String → Prop} {first second : Ust}

theorem refl (ust : Ust) : ust.UpToNames same ust where
  size_eq := rfl
  span_eq _ := rfl
  parent?_eq _ := rfl
  kind?_rel id := by
    cases ust.kind? id with
    | none => exact .none
    | some kind => exact .some (.refl kind)

/-- What is read off a node without its name is the same in both trees. -/
theorem read_eq (upToNames : first.UpToNames same second) (id : NodeId) {α : Sort*}
    (read : Option NodeKind → α)
    (identifiers : ∀ name other,
      read (some (.identifier other)) = read (some (.identifier name)))
    (typeTokens : ∀ name other, read (some (.typeToken other)) = read (some (.typeToken name))) :
    read (second.kind? id) = read (first.kind? id) := by
  have related := upToNames.kind?_rel id
  generalize first.kind? id = kind? at related ⊢
  generalize second.kind? id = other? at related ⊢
  cases related with
  | none => rfl
  | some related => exact related.read_eq (fun kind => read (some kind)) identifiers typeTokens

theorem children_eq (upToNames : first.UpToNames same second) (id : NodeId) :
    second.children id = first.children id :=
  upToNames.read_eq id (fun kind? => (kind?.map NodeKind.children).getD []) (fun _ _ => rfl)
    fun _ _ => rfl

theorem walk_eq (upToNames : first.UpToNames same second) (count : Nat) (pending : List NodeId) :
    second.walk count pending = first.walk count pending := by
  induction count generalizing pending with
  | zero => simp only [walk]
  | succ count ih =>
      cases pending with
      | nil => simp only [walk]
      | cons id pending => rw [walk, walk, upToNames.children_eq, ih]

theorem descendants_eq (upToNames : first.UpToNames same second) (id : NodeId) :
    second.descendants id = first.descendants id := by
  rw [descendants, descendants, upToNames.size_eq, upToNames.children_eq, upToNames.walk_eq]

end Ust.UpToNames

/-- Matching at one of some nodes goes on at these nodes only. -/
structure Ust.Enclosed (ust : Ust) (inside : NodeId → Prop) : Prop where
  child : ∀ {id child}, inside id → ust.IsChild id child → inside child
  declaredType : ∀ {id typeId}, inside id → Pattern.declaredType? ust id = some typeId →
    inside typeId

theorem Ust.Enclosed.descendant {ust : Ust} {inside : NodeId → Prop}
    (enclosed : ust.Enclosed inside) {id below : NodeId} (isInside : inside id)
    (reached : ust.Reaches id below) : inside below := by
  induction reached with
  | refl => exact isInside
  | tail _ isChild ih => exact enclosed.child ih isChild

/-- All that it takes to compare matching in two trees. -/
structure Comparison (alike : Trail → Trail → Prop) (same : String → String → Prop)
    (inside : NodeId → Prop) (first second : Ust) : Prop where
  likeness : Likeness alike
  upToNames : first.UpToNames same second
  enclosed : first.Enclosed inside

end TreeSieve
