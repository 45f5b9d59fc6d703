import TreeSieve.Files.Disk
import TreeSieve.Proofs.Text.Splitting

/-!
# Disks at rest

A disk is at rest in a state if looking at it changes nothing.  Then every file
has one text and every path one shape, however often and in whatever order they
are asked for.
-/

namespace TreeSieve

section Still

variable {σ : Type}

/-- The text of a file in a state, or why it has none. -/
def Disk.textAt (disk : Disk (StateM σ)) (state : σ) (path : String) : Except DiskFault String :=
  ((disk.read path).run state).1

/-- What lies at a path in a state. -/
def Disk.shapeAt (disk : Disk (StateM σ)) (state : σ) (path : String) : Option Shape :=
  ((disk.shape? path).run state).1

/-- Looking at the disk leaves this state as it is. -/
structure Disk.Still (disk : Disk (StateM σ)) (state : σ) : Prop where
  read : ∀ path, ((disk.read path).run state).2 = state
  shape? : ∀ path, ((disk.shape? path).run state).2 = state

variable {disk : Disk (StateM σ)} {state : σ}

theorem Disk.Still.run_read (still : disk.Still state) (path : String) :
    (disk.read path).run state = (disk.textAt state path, state) :=
  Prod.ext rfl (still.read path)

theorem Disk.Still.run_shape? (still : disk.Still state) (path : String) :
    (disk.shape? path).run state = (disk.shapeAt state path, state) :=
  Prod.ext rfl (still.shape? path)

/-- A run that ends in a result and a state goes on from there. -/
theorem run_bind_of_run {α β : Type} {action : StateM σ α} {next : α → StateM σ β} {after : σ}
    {result : α} (ends : action.run state = (result, after)) :
    (action >>= next).run state = (next result).run after := by
  rw [StateT.run_bind, ends]
  rfl

/-- Actions that leave a state as it is do so one after the other. -/
theorem run_mapM_of_still {α β : Type} {action : α → StateM σ β} {answer : α → β}
    (still : ∀ item, (action item).run state = (answer item, state)) (items : List α) :
    (items.mapM action).run state = (items.map answer, state) := by
  induction items with
  | nil => rfl
  | cons item items ih =>
      rw [List.mapM_cons, run_bind_of_run (still item), run_bind_of_run ih]
      rfl

end Still

namespace FileTree

/-- A disk that keeps its files in a tree is at rest in every tree. -/
theorem still_disk (tree : FileTree) : disk.Still tree where
  read _ := rfl
  shape? _ := rfl

section Relative

variable {tree : FileTree} {path : String} (relative : path ≠ "" ∧ path.startsWith "/" = false)

include relative

/-- A path that does not begin at the root is followed from name to name. -/
theorem find_eq_follow :
    tree.find path = follow [] (.directory tree) ((path.toList.splitOn '/').map .ofList) := by
  rw [find, if_neg (by simp [relative]), splitOn_eq_map_splitOn '/' rfl]

theorem textAt_disk :
    disk.textAt tree path =
      (follow [] (.directory tree) ((path.toList.splitOn '/').map .ofList)).bind Entry.text := by
  rw [← find_eq_follow relative]
  rfl

theorem shapeAt_disk :
    disk.shapeAt tree path =
      (follow [] (.directory tree)
        ((path.toList.splitOn '/').map .ofList)).toOption.map Entry.shape := by
  rw [← find_eq_follow relative]
  rfl

end Relative

end FileTree

end TreeSieve
