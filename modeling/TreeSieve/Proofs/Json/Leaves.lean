import TreeSieve.Json.Reader

/-!
# Scalars of a value

What a value needs to be the same after it has been written and read is a matter
of its scalars alone: integers must fit 64 bits, and floats must be finite and
read back.
-/

namespace TreeSieve.Json

mutual

/-- The scalars of a value in the order in which they are written. -/
def leaves : Json → List Json
  | .array items => leavesOfItems items
  | .object members => leavesOfMembers members
  | leaf => [leaf]

/-- The scalars of all items. -/
def leavesOfItems : List Json → List Json
  | [] => []
  | item :: rest => leaves item ++ leavesOfItems rest

/-- The scalars of all members. -/
def leavesOfMembers : List (String × Json) → List Json
  | [] => []
  | (_, value) :: rest => leaves value ++ leavesOfMembers rest

end

/-! ## What holds of all scalars -/

/-- Whether something holds of every scalar of a value. -/
def AllLeaves (holds : Json → Prop) (value : Json) : Prop :=
  ∀ leaf ∈ value.leaves, holds leaf

section

variable {holds : Json → Prop}

theorem allLeaves_scalar {value : Json} (scalar : value.leaves = [value]) :
    value.AllLeaves holds ↔ holds value := by
  simp [AllLeaves, scalar]

theorem mem_leavesOfItems {leaf : Json} {items : List Json} :
    leaf ∈ leavesOfItems items ↔ ∃ item ∈ items, leaf ∈ item.leaves := by
  induction items with
  | nil => simp [leavesOfItems]
  | cons item items ih => simp [leavesOfItems, ih]

theorem mem_leavesOfMembers {leaf : Json} {members : List (String × Json)} :
    leaf ∈ leavesOfMembers members ↔ ∃ member ∈ members, leaf ∈ member.2.leaves := by
  induction members with
  | nil => simp [leavesOfMembers]
  | cons member members ih =>
      obtain ⟨key, value⟩ := member
      rw [leavesOfMembers, List.mem_append, ih]
      simp only [List.mem_cons, or_and_right, exists_or, exists_eq_left]

theorem allLeaves_array {items : List Json} :
    (Json.array items).AllLeaves holds ↔ ∀ item ∈ items, item.AllLeaves holds := by
  simp only [AllLeaves, leaves, mem_leavesOfItems]
  exact ⟨fun all item isItem leaf isLeaf => all leaf ⟨item, isItem, isLeaf⟩,
    fun all leaf ⟨item, isItem, isLeaf⟩ => all item isItem leaf isLeaf⟩

theorem allLeaves_object {members : List (String × Json)} :
    (Json.object members).AllLeaves holds ↔ ∀ member ∈ members, member.2.AllLeaves holds := by
  simp only [AllLeaves, leaves, mem_leavesOfMembers]
  exact ⟨fun all member isMember leaf isLeaf => all leaf ⟨member, isMember, isLeaf⟩,
    fun all leaf ⟨member, isMember, isLeaf⟩ => all member isMember leaf isLeaf⟩

end

/-! ## Scalars that can be read back -/

/-- Whether a float is the same after it has been written and read.  Decimals with
many digits are not always read as the nearest float, so this does not hold of
every finite float. -/
def ReadsBack (value : Float) : Prop :=
  parse (render (.float value)) = .ok (.float value)

/-- Whether a scalar fits 64 bits if it is an integer. -/
def FitsWord : Json → Prop
  | .int value => -((UInt64.size / 2 : Nat) : Int) ≤ value ∧ value < (UInt64.size : Nat)
  | _ => True

instance (leaf : Json) : Decidable leaf.FitsWord :=
  match leaf with
  | .int value => inferInstanceAs (Decidable (_ ≤ value ∧ value < _))
  | .null | .bool _ | .float _ | .string _ | .array _ | .object _ => isTrue trivial

/-- Whether a scalar is finite if it is a float. -/
def IsFinite : Json → Prop
  | .float value => value.isFinite = true
  | _ => True

/-- Whether a scalar is the same after it has been written and read. -/
def Legible : Json → Prop
  | .int value => (Json.int value).FitsWord
  | .float value => ReadsBack value
  | _ => True

/-- Whether every scalar of a value is the same after it has been written and
read. -/
def Readable (value : Json) : Prop :=
  value.AllLeaves Legible

/-- Whether every float of a value is finite. -/
def FiniteFloats (value : Json) : Prop :=
  value.AllLeaves IsFinite

/-- Whether every finite float of a value is the same after it has been written
and read. -/
def FloatsReadBack (value : Json) : Prop :=
  ∀ number, .float number ∈ value.leaves → number.isFinite = true → ReadsBack number

/-- Whether a value holds a float. -/
def hasFloat (value : Json) : Bool :=
  value.leaves.any fun
    | .float _ => true
    | _ => false

theorem float_not_mem_leaves {value : Json} (floatless : value.hasFloat = false) (number : Float) :
    .float number ∉ value.leaves := by
  intro member
  rw [hasFloat, List.any_eq_false] at floatless
  exact floatless _ member rfl

theorem finiteFloats_of_hasFloat_eq_false {value : Json} (floatless : value.hasFloat = false) :
    value.FiniteFloats := by
  intro leaf member
  cases leaf with
  | float number => exact absurd member (float_not_mem_leaves floatless number)
  | _ => trivial

theorem floatsReadBack_of_hasFloat_eq_false {value : Json} (floatless : value.hasFloat = false) :
    value.FloatsReadBack :=
  fun number member _ => absurd member (float_not_mem_leaves floatless number)

theorem readable_of_finiteFloats {value : Json} (fits : value.AllLeaves FitsWord)
    (finite : value.FiniteFloats) (readsBack : value.FloatsReadBack) : value.Readable := by
  intro leaf member
  cases leaf with
  | int number => exact fits _ member
  | float number => exact readsBack number member (finite _ member)
  | _ => trivial

end TreeSieve.Json
