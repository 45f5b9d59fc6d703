/-!
# Quarantine

The keys of rules that are set aside for the rest of a run, sorted, and how
often a rule has been reported as faulty.
-/

namespace TreeSieve

/-- Rules that are set aside. -/
structure Quarantine where
  keys : List String := []
  faults : Nat := 0
  deriving DecidableEq, Inhabited

namespace Quarantine

/-- Insert a key into a sorted list that does not hold it. -/
def insertSorted (key : String) : List String → List String
  | [] => [key]
  | other :: rest => if key < other then key :: other :: rest else other :: insertSorted key rest

/-- Whether a rule is set aside. -/
def contains (quarantine : Quarantine) (key : String) : Bool :=
  quarantine.keys.contains key

/-- Report a rule as faulty and set it aside. -/
def insert (quarantine : Quarantine) (key : String) : Quarantine where
  keys := if quarantine.contains key then quarantine.keys else insertSorted key quarantine.keys
  faults := quarantine.faults + 1

end Quarantine

end TreeSieve
