import TreeSieve.Proofs.Pattern.Uniform

/-!
# Searching below a node

A pattern that may match anywhere below a node is tried along the walk of the node,
parents before children, and the first node that matches decides what is gathered.
Nothing above the node and nothing beside it is on that walk.

The walk of a node on the walk is a part of it, so searching for a pattern that is
itself searched for finds the same node.
-/

namespace TreeSieve

open Relation

theorem firstOf_eq_find? {α : Type} (attempt : Attempt α) (candidates : List α) (trail : Trail) :
    firstOf attempt candidates trail =
      (candidates.find? fun candidate => (attempt candidate trail).success).elim trail.fail
        (attempt · trail) := by
  induction candidates with
  | nil => rfl
  | cons candidate rest ih =>
      rw [firstOf, List.find?_cons]
      cases tried : (attempt candidate trail).success with
      | true => rfl
      | false => simpa [tried] using ih

namespace Ust

namespace Rooted

variable {ust : Ust} {id node : NodeId}

/-- The walk of a node on a walk is a part of it. -/
theorem descendants_subset (rooted : ust.Rooted) (reached : ust.Reaches ust.root id)
    (below : node ∈ id :: ust.descendants id) :
    node :: ust.descendants node ⊆ id :: ust.descendants id := by
  intro lower member
  rw [rooted.mem_cons_descendants_iff reached] at below ⊢
  rw [rooted.mem_cons_descendants_iff (reached.trans below)] at member
  exact below.trans member

/-- Below a node nothing lies above it. -/
theorem not_above_of_reaches (rooted : ust.Rooted) (reached : ust.Reaches ust.root id)
    (below : ust.Reaches id node) : ¬ ust.Above node id := by
  intro above
  exact rooted.not_above_self reached (TransGen.trans_right below above)

/-- Below a node is nothing that lies below a node beside it. -/
theorem not_reaches_beside (rooted : ust.Rooted) (reached : ust.Reaches ust.root id)
    (below : ust.Reaches id node) {parent sibling : NodeId} (isChild : ust.IsChild parent id)
    (isSibling : ust.IsChild parent sibling) (other : sibling ≠ id) :
    ¬ ust.Reaches sibling node := by
  intro belowSibling
  have straight := rooted.not_above_self (rooted.reaches_of_above reached (.single isChild))
  have apart := rooted.apart_of_isChild straight isSibling isChild other
  rcases rooted.reaches_total below belowSibling with path | path
  · exact apart.2 path
  · exact apart.1 path

end Rooted

end Ust

namespace Pattern

section Search

variable {ust : Ust} {pattern : Pattern} {id : NodeId} {trail : Trail}

theorem matchAt_anywhere_eq_find? :
    (anywhere pattern).matchAt ust id trail =
      ((id :: ust.descendants id).find? fun node => (pattern.matchAt ust node trail).success).elim
        trail.fail (pattern.matchAt ust · trail) := by
  rw [matchAt, firstOf_eq_find?]

theorem success_matchAt_anywhere :
    ((anywhere pattern).matchAt ust id trail).success =
      (id :: ust.descendants id).any fun node => (pattern.matchAt ust node trail).success := by
  rw [matchAt, success_firstOf]

theorem matchAt_anywhere_anywhere (rooted : ust.Rooted) (reached : ust.Reaches ust.root id) :
    (anywhere (anywhere pattern)).matchAt ust id trail =
      (anywhere pattern).matchAt ust id trail := by
  cases found : ((anywhere pattern).matchAt ust id trail).success with
  | true =>
      -- The outer search ends where it begins.
      rw [matchAt_anywhere_eq_find?, List.find?_cons]
      simp only [found, Option.elim_some]
  | false =>
      rw [success_matchAt_anywhere, List.any_eq_false] at found
      have noneBelow : ∀ node ∈ id :: ust.descendants id,
          ¬ ((anywhere pattern).matchAt ust node trail).success = true := by
        intro node below
        rw [success_matchAt_anywhere, Bool.not_eq_true, List.any_eq_false]
        intro lower member
        exact found lower (rooted.descendants_subset reached below member)
      rw [matchAt_anywhere_eq_find?, List.find?_eq_none.mpr noneBelow,
        matchAt_anywhere_eq_find?, List.find?_eq_none.mpr found]
      rfl

end Search

/-- In an accepted document a pattern that may match anywhere below a node under the
root is decided by the walk of the node, the node itself first.  The first node there
that matches makes the search end as matching does at that node; if none does, the
trail fails and keeps what it has gathered.  No node of the walk lies above the node
where the search starts, or at a node beside it or below one.  A search for a search
is the search itself. -/
theorem matchAt_anywhere_eq_first {document : Document} {ust : Ust}
    (accepted : Ust.ofDocument document = .ok ust) {id : NodeId}
    (reached : ust.Reaches ust.root id) (pattern : Pattern) (trail : Trail) :
    ∃ order, (∀ other, ust.Preorder [id] other ↔ other = order) ∧
      (∀ first, order.find? (fun node => (pattern.matchAt ust node trail).success) = some first →
        (anywhere pattern).matchAt ust id trail = pattern.matchAt ust first trail) ∧
      ((∀ node ∈ order, (pattern.matchAt ust node trail).success = false) →
        (anywhere pattern).matchAt ust id trail = { trail with success := false }) ∧
      (∀ node ∈ order, ¬ ust.Above node id ∧
        ∀ parent sibling, ust.IsChild parent id → ust.IsChild parent sibling → sibling ≠ id →
          ¬ ust.Reaches sibling node) ∧
      (anywhere (anywhere pattern)).matchAt ust id trail =
        (anywhere pattern).matchAt ust id trail := by
  have rooted := Ust.rooted_of_ofDocument accepted
  have walk := rooted.preorder_descendants reached
  refine ⟨id :: ust.descendants id, ?_, ?_, ?_, ?_, ?_⟩
  · intro other
    constructor
    · intro otherWalk
      exact otherWalk.unique walk
    · rintro rfl
      exact walk
  · intro first found
    rw [matchAt_anywhere_eq_find?, found]
    rfl
  · intro noneFits
    rw [matchAt_anywhere_eq_find?, List.find?_eq_none.mpr (by simpa using noneFits)]
    rfl
  · intro node member
    have below := (rooted.mem_cons_descendants_iff reached).mp member
    constructor
    · exact rooted.not_above_of_reaches reached below
    · intro parent sibling isChild isSibling other
      exact rooted.not_reaches_beside reached below isChild isSibling other
  · exact matchAt_anywhere_anywhere rooted reached

/-- In the sample the name is found below the variable, and the type of the field, which
stands beside the variable, is not. -/
theorem matchAt_anywhere_sampleField :
    Ust.ofDocument Document.sampleField = .ok Ust.sampleField ∧
      Ust.sampleField.Reaches Ust.sampleField.root ⟨2⟩ ∧
        (anywhere (idToken "x")).matchAt Ust.sampleField ⟨2⟩ ⟨[⟨0, 3⟩], true, {}, false⟩ =
          (idToken "x").matchAt Ust.sampleField ⟨3⟩ ⟨[⟨0, 3⟩], true, {}, false⟩ ∧
          (anywhere (idToken "int")).matchAt Ust.sampleField ⟨2⟩ ⟨[⟨0, 3⟩], true, {}, false⟩ =
            ⟨[⟨0, 3⟩], false, {}, false⟩ := by
  have reached : Ust.sampleField.Reaches Ust.sampleField.root ⟨2⟩ :=
    .single (show (⟨2⟩ : NodeId) ∈ Ust.sampleField.children ⟨0⟩ by decide)
  have isWalk : Ust.sampleField.Preorder [⟨2⟩] [⟨2⟩, ⟨3⟩, ⟨4⟩] :=
    (Ust.rooted_of_ofDocument Ust.ofDocument_sampleField).preorder_descendants reached
  obtain ⟨_, walk, found, -⟩ := matchAt_anywhere_eq_first Ust.ofDocument_sampleField reached
    (idToken "x") ⟨[⟨0, 3⟩], true, {}, false⟩
  obtain ⟨_, sameWalk, -, notFound, -⟩ := matchAt_anywhere_eq_first Ust.ofDocument_sampleField
    reached (idToken "int") ⟨[⟨0, 3⟩], true, {}, false⟩
  obtain rfl := (walk _).mp isWalk
  obtain rfl := (sameWalk _).mp isWalk
  exact ⟨Ust.ofDocument_sampleField, reached, found ⟨3⟩ rfl, notFound (by decide)⟩

end Pattern

end TreeSieve
