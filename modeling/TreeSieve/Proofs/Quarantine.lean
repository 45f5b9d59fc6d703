import Mathlib.Data.String.Basic
import TreeSieve.Quarantine

/-!
# Rules that are set aside

The keys of rules that are set aside are sorted, whatever the order in which the
rules were found to be faulty and however often, and they are the keys of just
these rules.
-/

namespace TreeSieve

namespace Quarantine

theorem mem_insertSorted_iff {key other : String} {keys : List String} :
    other ∈ insertSorted key keys ↔ other = key ∨ other ∈ keys := by
  induction keys with
  | nil => simp [insertSorted]
  | cons first rest ih =>
      rw [insertSorted]
      split
      · exact List.mem_cons
      · rw [List.mem_cons, ih, List.mem_cons, or_left_comm]

/-- A new key is put between the smaller and the larger ones. -/
theorem pairwise_insertSorted {key : String} {keys : List String}
    (sorted : keys.Pairwise (· < ·)) (fresh : key ∉ keys) :
    (insertSorted key keys).Pairwise (· < ·) := by
  induction keys with
  | nil => exact List.pairwise_singleton _ key
  | cons first rest ih =>
      obtain ⟨firstLt, restSorted⟩ := List.pairwise_cons.mp sorted
      rw [List.mem_cons, not_or] at fresh
      rw [insertSorted]
      split
      · rename_i before
        refine List.pairwise_cons.mpr ⟨?_, sorted⟩
        intro other member
        rcases List.mem_cons.mp member with rfl | later
        · exact before
        · exact before.trans (firstLt other later)
      · rename_i notBefore
        refine List.pairwise_cons.mpr ⟨?_, ih restSorted fresh.2⟩
        intro other member
        rcases mem_insertSorted_iff.mp member with rfl | later
        · exact lt_of_le_of_ne (not_lt.mp notBefore) (Ne.symm fresh.1)
        · exact firstLt other later

section Insert

variable {quarantine : Quarantine} {key : String}

theorem mem_keys_insert {other : String} :
    other ∈ (quarantine.insert key).keys ↔ other = key ∨ other ∈ quarantine.keys := by
  rw [insert]
  split
  · rename_i known
    have member : key ∈ quarantine.keys := List.contains_iff_mem.mp known
    exact ⟨Or.inr, fun either => either.elim (fun same => same ▸ member) id⟩
  · exact mem_insertSorted_iff

theorem pairwise_keys_insert (sorted : quarantine.keys.Pairwise (· < ·)) :
    (quarantine.insert key).keys.Pairwise (· < ·) := by
  rw [insert]
  split
  · exact sorted
  · rename_i unknown
    exact pairwise_insertSorted sorted fun member => unknown (List.contains_iff_mem.mpr member)

/-- Setting a rule aside sets no other aside. -/
theorem contains_insert (quarantine : Quarantine) (key other : String) :
    (quarantine.insert key).contains other = (other == key || quarantine.contains other) := by
  rw [Bool.eq_iff_iff, Bool.or_eq_true, beq_iff_eq]
  simp only [contains, List.contains_iff_mem]
  exact mem_keys_insert

end Insert

/-- The quarantine after rules have been reported as faulty, one after the other. -/
def ofFaults (faulty : List String) : Quarantine :=
  faulty.foldl insert {}

/-- Reporting rules one after the other keeps the keys sorted and adds just these. -/
theorem keys_foldl_insert {quarantine : Quarantine} (sorted : quarantine.keys.Pairwise (· < ·))
    (faulty : List String) :
    (faulty.foldl insert quarantine).keys.Pairwise (· < ·) ∧
      ∀ key, key ∈ (faulty.foldl insert quarantine).keys ↔
        key ∈ faulty ∨ key ∈ quarantine.keys := by
  induction faulty generalizing quarantine with
  | nil => exact ⟨sorted, fun key => by simp⟩
  | cons first rest ih =>
      have firstSorted : (quarantine.insert first).keys.Pairwise (· < ·) :=
        pairwise_keys_insert sorted
      obtain ⟨restSorted, members⟩ := ih firstSorted
      refine ⟨restSorted, fun key => ?_⟩
      rw [List.foldl_cons, members, mem_keys_insert, List.mem_cons, or_assoc, or_left_comm]

theorem pairwise_keys_ofFaults (faulty : List String) :
    (ofFaults faulty).keys.Pairwise (· < ·) :=
  (keys_foldl_insert List.Pairwise.nil faulty).1

theorem mem_keys_ofFaults {faulty : List String} {key : String} :
    key ∈ (ofFaults faulty).keys ↔ key ∈ faulty := by
  refine ((keys_foldl_insert List.Pairwise.nil faulty).2 key).trans ?_
  simp

end Quarantine

end TreeSieve
