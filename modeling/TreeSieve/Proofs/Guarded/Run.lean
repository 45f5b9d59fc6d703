import TreeSieve.Trail
import TreeSieve.Ust.Tree

/-!
# Guarded runs

The functions of this library are total.  Where there is no node they find none, and a
walk that could go on for ever is cut off.  A guarded run does without these nets: a
list that is read, written or cut past its end stops it, and it has only so many steps
to take.

`Guarded.Yields` compares such a run with the total function that it stands for.  The
run comes to the same value if it has what it needs, and it is stopped for want of
steps and for nothing else.
-/

namespace TreeSieve

namespace Guarded

/-- What brings a run to a stop before its end. -/
inductive Stop where
  /-- A list is read, written or cut past its end. -/
  | outOfRange
  /-- The parents of a tree are linked a second time. -/
  | linkedTwice
  /-- There are no steps left. -/
  | outOfSteps
  deriving DecidableEq

/-- A run that comes to a value unless it is stopped. -/
abbrev Run := Except Stop

variable {α β : Type}

/-! ## Lists -/

/-- Read an entry. -/
def read (entries : Array α) (index : Nat) : Run α :=
  if inRange : index < entries.size then .ok entries[index] else .error .outOfRange

/-- Write an entry. -/
def write (entries : Array α) (index : Nat) (entry : α) : Run (Array α) :=
  if inRange : index < entries.size then .ok (entries.set index entry) else .error .outOfRange

/-- Cut off what stands before a place; the place may be the end. -/
def sliceFrom (entries : List α) (index : Nat) : Run (List α) :=
  if index ≤ entries.length then .ok (entries.drop index) else .error .outOfRange

theorem write_eq_ok {entries : Array α} {index : Nat} (inRange : index < entries.size) (entry : α) :
    write entries index entry = .ok (entries.setIfInBounds index entry) := by
  rw [write, dif_pos inRange, Array.setIfInBounds, dif_pos inRange]

theorem sliceFrom_eq_ok {entries : List α} {index : Nat} (inRange : index ≤ entries.length) :
    sliceFrom entries index = .ok (entries.drop index) :=
  if_pos inRange

/-! ## Trees -/

/-- Read a node. -/
def node (ust : Ust) (id : NodeId) : Run Node :=
  read ust.nodes id.index

/-- Look up the parent of a node; before the parents are linked there is none. -/
def parent (ust : Ust) (id : NodeId) : Run (Option NodeId) :=
  match ust.parents with
  | none => .ok none
  | some table => read table id.index

/-- Where there is a node, reading it gives what the total functions find there. -/
theorem node_eq_ok {ust : Ust} {id : NodeId} {kind : NodeKind}
    (kindEq : ust.kind? id = some kind) : node ust id = .ok ⟨kind, ust.span id⟩ := by
  obtain ⟨found, nodeEq, rfl⟩ := Option.map_eq_some_iff.mp kindEq
  obtain ⟨present, foundEq⟩ := Array.getElem?_eq_some_iff.mp nodeEq
  rw [node, read, dif_pos present, foundEq, Ust.span, nodeEq]
  rfl

/-! ## Runs that come to a value -/

/-- With `enough` of what it needs, a run comes to a value; in any case only want of
steps stops it. -/
def Yields (enough : Prop) (run : Run α) (value : α) : Prop :=
  (enough → run = .ok value) ∧ ∀ stop, run = .error stop → stop = .outOfSteps

namespace Yields

variable {enough : Prop} {run : Run α} {value : α}

theorem ok (value : α) : Yields enough (.ok value) value :=
  ⟨fun _ => rfl, fun _ stopped => nomatch stopped⟩

theorem outOfSteps (short : ¬ enough) : Yields enough (.error .outOfSteps : Run α) value :=
  ⟨fun holds => absurd holds short, fun _ stopped => (Except.error.inj stopped).symm⟩

/-- Where there is not enough, nothing is said of the value. -/
theorem congr (yields : Yields enough run value) {other : α} (same : enough → value = other) :
    Yields enough run other :=
  ⟨fun holds => same holds ▸ yields.1 holds, yields.2⟩

theorem mono (yields : Yields enough run value) {more : Prop} (weaker : more → enough) :
    Yields more run value :=
  ⟨fun holds => yields.1 (weaker holds), yields.2⟩

/-- With enough, what comes next starts from the value. -/
theorem bind_of_eq (first : Yields enough run value) {onward : α → Run β} (next : α → β)
    (later : ∀ other, (enough → other = value) → Yields enough (onward other) (next other)) :
    Yields enough (run >>= onward) (next value) := by
  cases run with
  | error stop =>
      constructor
      · intro holds
        cases first.1 holds
      · intro other stopped
        cases stopped
        exact first.2 stop rfl
  | ok other =>
      have same : enough → other = value := fun holds => Except.ok.inj (first.1 holds)
      exact (later other same).congr fun holds => congrArg next (same holds)

theorem bind (first : Yields enough run value) {onward : α → Run β} (next : α → β)
    (later : ∀ other, Yields enough (onward other) (next other)) :
    Yields enough (run >>= onward) (next value) :=
  first.bind_of_eq next fun other _ => later other

/-- A step that only looks something up does not change what is yielded. -/
theorem of_eq_ok {onward : α → Run β} {result : β} (found : run = .ok value)
    (later : Yields enough (onward value) result) : Yields enough (run >>= onward) result :=
  found ▸ later

theorem ite {test : Bool} {other : Run α} {otherwise : α} (passed : Yields enough run value)
    (failed : Yields enough other otherwise) :
    Yields enough (if test then run else other) (if test then value else otherwise) := by
  cases test with
  | true => exact passed
  | false => exact failed

theorem mapM {each : α → Run β} {plain : α → β} {items : List α}
    (yields : ∀ item ∈ items, Yields enough (each item) (plain item)) :
    Yields enough (items.mapM each) (items.map plain) := by
  induction items with
  | nil => exact ok []
  | cons item items ih =>
      have here := yields item List.mem_cons_self
      have others := ih fun other member => yields other (List.mem_cons_of_mem item member)
      rw [List.mapM_cons]
      exact here.bind (· :: items.map plain) fun first =>
        others.bind (first :: ·) fun rest => ok (first :: rest)

end Yields

end Guarded

end TreeSieve
