import Mathlib.Data.List.Lex
import Mathlib.Data.Prod.Lex
import Mathlib.Data.String.Basic
import TreeSieve.Files.Path

/-!
# The order of paths

Every path has a place in the lexicographic order of lists: parts are compared
first by their rank and then by their name, and paths part by part.  One path
comes before another exactly if its place does, and two texts have one place
exactly if they spell one path.  So the order of paths is total up to spelling.
-/

namespace TreeSieve

namespace PathPart

/-- The place of a part among all parts. -/
def place (part : PathPart) : ℕ ×ₗ String :=
  toLex (part.rank, part.label)

theorem place_injective : Function.Injective place := by
  intro left right same
  obtain ⟨rank, label⟩ := Prod.mk.inj (toLex_inj.mp same)
  cases left <;> cases right <;> simp_all [PathPart.rank, PathPart.label]

theorem before_iff_place_lt {left right : PathPart} :
    left.before right = true ↔ left.place < right.place := by
  simp [before, place, Prod.Lex.toLex_lt_toLex]

end PathPart

/-- The place of a path among all paths. -/
def pathPlace (path : String) : List (ℕ ×ₗ String) :=
  (pathParts path).map PathPart.place

theorem partsLe_iff_place_le {left right : List PathPart} :
    partsLe left right = true ↔ left.map PathPart.place ≤ right.map PathPart.place := by
  induction left generalizing right with
  | nil => exact iff_of_true rfl (not_lt.mp (List.not_lt_nil _))
  | cons left lefts ih =>
      cases right with
      | nil => exact iff_of_false Bool.false_ne_true (not_le.mpr (List.nil_lt_cons _ _))
      | cons right rights =>
          rw [partsLe, Bool.or_eq_true, Bool.and_eq_true, decide_eq_true_eq, ih,
            PathPart.before_iff_place_lt, List.map_cons, List.map_cons, le_iff_lt_or_eq,
            le_iff_lt_or_eq, List.cons_lt_cons_iff, List.cons_eq_cons,
            PathPart.place_injective.eq_iff, or_assoc, and_or_left]

theorem pathLe_iff_place_le {left right : String} :
    pathLe left right = true ↔ pathPlace left ≤ pathPlace right :=
  partsLe_iff_place_le

/-- Two texts have one place exactly if they spell one path. -/
theorem pathPlace_eq_iff {left right : String} :
    pathPlace left = pathPlace right ↔ pathParts left = pathParts right :=
  PathPart.place_injective.list_map.eq_iff

theorem samePath_iff_place_eq {left right : String} :
    samePath left right = true ↔ pathPlace left = pathPlace right := by
  rw [samePath, decide_eq_true_eq, pathPlace_eq_iff]

end TreeSieve
