import Mathlib.Data.List.Forall2
import Mathlib.Data.List.Sort
import TreeSieve.Files.Inputs
import TreeSieve.Proofs.Files.Disk
import TreeSieve.Proofs.Files.Path

/-!
# The files of inputs

Inputs stand for files: an input that is a file stands for itself, and a directory
for the files with the suffix of trees that lie under it.  What is collected is
told from these files alone: it has one spelling of each of them, in the order of
paths.  As a list in strict order is settled by its members, neither the order of
the inputs nor their repetition matters.
-/

namespace TreeSieve

/-! ## One spelling of each path -/

theorem dropRepeated_sublist (paths : List String) : (dropRepeated paths).Sublist paths := by
  fun_induction dropRepeated paths with
  | case1 => exact .slnil
  | case2 path => exact .refl _
  | case3 first second rest none ih => simp
  | case4 first second rest next others kept same ih =>
      rw [kept] at ih
      exact ((List.sublist_cons_self next others).trans ih).cons_cons first
  | case5 first second rest next others kept differ ih =>
      rw [kept] at ih
      exact ih.cons_cons first

/-- Of each path one spelling is kept. -/
theorem exists_mem_dropRepeated {paths : List String} {path : String} (member : path ∈ paths) :
    ∃ kept ∈ dropRepeated paths, pathPlace kept = pathPlace path := by
  fun_induction dropRepeated paths with
  | case1 => contradiction
  | case2 first => exact ⟨path, member, rfl⟩
  | case3 first second rest none ih =>
      rcases List.mem_cons.mp member with rfl | later
      · exact ⟨path, List.mem_cons_self, rfl⟩
      · obtain ⟨kept, isKept, -⟩ := ih later
        rw [none] at isKept
        contradiction
  | case4 first second rest next others kept same ih =>
      have sameFirst := samePath_iff_place_eq.mp same
      rcases List.mem_cons.mp member with rfl | later
      · exact ⟨path, List.mem_cons_self, rfl⟩
      · obtain ⟨found, isKept, place⟩ := ih later
        rw [kept] at isKept
        rcases List.mem_cons.mp isKept with rfl | isOther
        · exact ⟨first, List.mem_cons_self, sameFirst.trans place⟩
        · exact ⟨found, List.mem_cons_of_mem first isOther, place⟩
  | case5 first second rest next others kept differ ih =>
      rcases List.mem_cons.mp member with rfl | later
      · exact ⟨path, List.mem_cons_self, rfl⟩
      · obtain ⟨found, isKept, place⟩ := ih later
        rw [kept] at isKept
        exact ⟨found, List.mem_cons_of_mem first isKept, place⟩

/-- What is kept of paths in order is in strict order. -/
theorem pairwise_dropRepeated {paths : List String}
    (sorted : paths.Pairwise fun earlier later => pathPlace earlier ≤ pathPlace later) :
    (dropRepeated paths).Pairwise fun earlier later => pathPlace earlier < pathPlace later := by
  fun_induction dropRepeated paths with
  | case1 => exact .nil
  | case2 path => exact List.pairwise_singleton _ path
  | case3 first second rest none ih => exact List.pairwise_singleton _ first
  | case4 first second rest next others kept same ih =>
      obtain ⟨-, restSorted⟩ := List.pairwise_cons.mp sorted
      have keptSorted := ih restSorted
      rw [kept, List.pairwise_cons] at keptSorted
      rw [List.pairwise_cons, samePath_iff_place_eq.mp same]
      exact keptSorted
  | case5 first second rest next others kept differ ih =>
      obtain ⟨firstLe, restSorted⟩ := List.pairwise_cons.mp sorted
      have keptSorted := ih restSorted
      have nextMember : next ∈ second :: rest :=
        (dropRepeated_sublist _).mem (kept ▸ List.mem_cons_self)
      have firstLt : pathPlace first < pathPlace next :=
        lt_of_le_of_ne (firstLe next nextMember) (mt samePath_iff_place_eq.mpr differ)
      rw [kept] at keptSorted
      refine List.pairwise_cons.mpr ⟨?_, keptSorted⟩
      intro other isOther
      rcases List.mem_cons.mp isOther with rfl | later
      · exact firstLt
      · exact firstLt.trans ((List.pairwise_cons.mp keptSorted).1 other later)

theorem pairwise_sortedPaths (paths : List String) :
    (sortedPaths paths).Pairwise fun earlier later => pathPlace earlier < pathPlace later := by
  apply pairwise_dropRepeated
  refine (List.pairwise_mergeSort ?_ ?_ paths).imp pathLe_iff_place_le.mp
  · intro first second third firstLe secondLe
    rw [pathLe_iff_place_le] at firstLe secondLe ⊢
    exact firstLe.trans secondLe
  · intro left right
    rw [Bool.or_eq_true, pathLe_iff_place_le, pathLe_iff_place_le]
    exact le_total _ _

theorem mem_of_mem_sortedPaths {paths : List String} {path : String}
    (member : path ∈ sortedPaths paths) : path ∈ paths :=
  List.mem_mergeSort.mp ((dropRepeated_sublist _).mem member)

theorem exists_mem_sortedPaths {paths : List String} {path : String} (member : path ∈ paths) :
    ∃ kept ∈ sortedPaths paths, pathPlace kept = pathPlace path :=
  exists_mem_dropRepeated (List.mem_mergeSort.mpr member)

theorem mem_map_pathPlace_sortedPaths {paths : List String} {place : List (ℕ ×ₗ String)} :
    place ∈ (sortedPaths paths).map pathPlace ↔ place ∈ paths.map pathPlace := by
  simp only [List.mem_map]
  constructor
  · rintro ⟨path, member, rfl⟩
    exact ⟨path, mem_of_mem_sortedPaths member, rfl⟩
  · rintro ⟨path, member, rfl⟩
    exact exists_mem_sortedPaths member

/-- Lists that hold the same texts are sorted to the same paths. -/
theorem sortedPaths_congr {paths others : List String}
    (same : ∀ path, path ∈ paths ↔ path ∈ others) :
    List.Forall₂ (fun left right => pathParts left = pathParts right) (sortedPaths paths)
      (sortedPaths others) := by
  have samePlaces : (sortedPaths paths).map pathPlace = (sortedPaths others).map pathPlace := by
    apply List.Pairwise.eq_of_mem_iff (r := fun earlier later => earlier < later)
    · exact List.pairwise_map.mpr (pairwise_sortedPaths paths)
    · exact List.pairwise_map.mpr (pairwise_sortedPaths others)
    · intro place
      rw [mem_map_pathPlace_sortedPaths, mem_map_pathPlace_sortedPaths]
      simp only [List.mem_map, same]
  rw [← List.forall₂_eq_eq_eq, List.forall₂_map_left_iff, List.forall₂_map_right_iff] at samePlaces
  exact samePlaces.imp fun _ _ => pathPlace_eq_iff.mp

/-! ## Files under a directory -/

/-- A path leads from a directory, through directories in it, to a file with this
name. -/
inductive LeadsTo : (directory : String) → List (String × Shape) → (name path : String) → Prop
  | entry {directory : String} {entries : List (String × Shape)} {name : String} :
      (name, .file) ∈ entries → LeadsTo directory entries name (entryPath directory name)
  | inner {directory : String} {entries within : List (String × Shape)}
      {outer name path : String} :
      (outer, .directory within) ∈ entries →
        LeadsTo (entryPath directory outer) within name path →
          LeadsTo directory entries name path

theorem endsWith_iff_suffix {text suffix : String} :
    text.endsWith suffix = true ↔ suffix.toList <:+ text.toList := by
  rw [String.endsWith_eq_endsWith_toSlice, String.Slice.endsWith_string_iff, String.copy_toSlice]

/-- What ends a text behind a character that it does not hold ends what follows this
character. -/
theorem suffix_append_cons_iff {α : Type} {suffix front rest : List α} {mark : α}
    (without : mark ∉ suffix) : suffix <:+ front ++ mark :: rest ↔ suffix <:+ rest := by
  constructor
  · intro isSuffix
    have behind : rest <:+ front ++ mark :: rest := ⟨front ++ [mark], by simp⟩
    rcases List.suffix_or_suffix_of_suffix isSuffix behind with inside | ⟨more, rfl⟩
    · exact inside
    · rw [List.append_cons, List.suffix_append_self_iff] at isSuffix
      rcases List.suffix_concat_iff.mp isSuffix with rfl | ⟨start, rfl, -⟩
      · exact List.suffix_rfl
      · simp at without
  · rintro ⟨start, rfl⟩
    exact ⟨front ++ mark :: start, by simp⟩

theorem exists_toList_entryPath (directory name : String) :
    ∃ front, (entryPath directory name).toList = front ++ '/' :: name.toList := by
  rw [entryPath]
  split
  · rename_i closed
    obtain ⟨front, split⟩ := endsWith_iff_suffix.mp closed
    exact ⟨front, by rw [String.toList_append, ← split]; simp⟩
  · exact ⟨directory.toList, by simp⟩

/-- Whether a path in a directory has the suffix of trees is told by its name. -/
theorem endsWith_entryPath (directory name : String) :
    (entryPath directory name).endsWith treeSuffix = name.endsWith treeSuffix := by
  obtain ⟨front, spelled⟩ := exists_toList_entryPath directory name
  rw [Bool.eq_iff_iff, endsWith_iff_suffix, endsWith_iff_suffix, spelled]
  exact suffix_append_cons_iff (by decide)

section LeadsTo

variable {directory first name path : String} {rest within : List (String × Shape)}

theorem not_leadsTo_nil : ¬ LeadsTo directory [] name path := by
  rintro (isEntry | ⟨isEntry, -⟩) <;> contradiction

theorem LeadsTo.cons (leads : LeadsTo directory rest name path) (entry : String × Shape) :
    LeadsTo directory (entry :: rest) name path := by
  rcases leads with isEntry | ⟨isEntry, leads⟩
  · exact .entry (List.mem_cons_of_mem entry isEntry)
  · exact .inner (List.mem_cons_of_mem entry isEntry) leads

theorem leadsTo_file_cons_iff :
    LeadsTo directory ((first, .file) :: rest) name path ↔
      (name = first ∧ path = entryPath directory first) ∨ LeadsTo directory rest name path := by
  constructor
  · rintro (isEntry | ⟨isEntry, leads⟩)
    · rcases List.mem_cons.mp isEntry with isFirst | later
      · obtain rfl := congrArg Prod.fst isFirst
        exact .inl ⟨rfl, rfl⟩
      · exact .inr (.entry later)
    · rcases List.mem_cons.mp isEntry with isFirst | later
      · cases isFirst
      · exact .inr (.inner later leads)
  · rintro (⟨rfl, rfl⟩ | leads)
    · exact .entry List.mem_cons_self
    · exact leads.cons _

theorem leadsTo_directory_cons_iff :
    LeadsTo directory ((first, .directory within) :: rest) name path ↔
      LeadsTo (entryPath directory first) within name path ∨
        LeadsTo directory rest name path := by
  constructor
  · rintro (isEntry | ⟨isEntry, leads⟩)
    · rcases List.mem_cons.mp isEntry with isFirst | later
      · cases isFirst
      · exact .inr (.entry later)
    · rcases List.mem_cons.mp isEntry with isFirst | later
      · cases isFirst
        exact .inl leads
      · exact .inr (.inner later leads)
  · rintro (leads | leads)
    · exact .inner List.mem_cons_self leads
    · exact leads.cons _

end LeadsTo

/-- The files with trees among entries are those that paths lead to. -/
theorem mem_entryTreeFiles_iff {path : String} : (directory : String) →
    (entries : List (String × Shape)) → (path ∈ entryTreeFiles directory entries ↔
      ∃ name, LeadsTo directory entries name path ∧ name.endsWith treeSuffix = true)
  | directory, [] => by simp [entryTreeFiles, not_leadsTo_nil]
  | directory, (first, .file) :: rest => by
      rw [entryTreeFiles, List.mem_append, mem_entryTreeFiles_iff directory rest, Shape.treeFiles,
        endsWith_entryPath]
      simp only [leadsTo_file_cons_iff, or_and_right, exists_or, and_assoc, exists_eq_left]
      split <;> simp_all
  | directory, (first, .directory within) :: rest => by
      rw [entryTreeFiles, List.mem_append, mem_entryTreeFiles_iff directory rest, Shape.treeFiles,
        mem_entryTreeFiles_iff (entryPath directory first) within]
      simp only [leadsTo_directory_cons_iff, or_and_right, exists_or]

/-! ## Files of inputs -/

section Inputs

variable (shapeAt : String → Option Shape) (inputs : List String)

/-- A file with the suffix of trees lies at this path under an input that is a
directory. -/
def LiesUnder (path : String) : Prop :=
  ∃ directory ∈ inputs, ∃ entries name, shapeAt directory = some (.directory entries) ∧
    LeadsTo directory entries name path ∧ name.endsWith treeSuffix = true

/-- A file that inputs stand for: an input that is a file, whatever its name, or a
file with the suffix of trees under another input. -/
def StoodFor (path : String) : Prop :=
  (path ∈ inputs ∧ shapeAt path = some .file) ∨ LiesUnder shapeAt inputs path

/-- The spellings of all files that inputs stand for, as they are found. -/
def foundFiles : List String :=
  inputs.flatMap fun path => inputFiles path (shapeAt path)

variable {shapeAt inputs}

theorem mem_inputFiles_iff {input path : String} :
    path ∈ inputFiles input (shapeAt input) ↔
      (path = input ∧ shapeAt input = some .file) ∨
        ∃ entries name, shapeAt input = some (.directory entries) ∧
          LeadsTo input entries name path ∧ name.endsWith treeSuffix = true := by
  rcases found : shapeAt input with _ | _ | entries
  · simp [inputFiles]
  · simp [inputFiles]
  · simp [inputFiles, mem_entryTreeFiles_iff]

theorem mem_foundFiles_iff {path : String} :
    path ∈ foundFiles shapeAt inputs ↔ StoodFor shapeAt inputs path := by
  rw [foundFiles, List.mem_flatMap]
  simp only [mem_inputFiles_iff]
  constructor
  · rintro ⟨input, isInput, ⟨rfl, isFile⟩ | under⟩
    · exact .inl ⟨isInput, isFile⟩
    · exact .inr ⟨input, isInput, under⟩
  · rintro (⟨isInput, isFile⟩ | ⟨directory, isInput, under⟩)
    · exact ⟨path, isInput, .inl ⟨rfl, isFile⟩⟩
    · exact ⟨directory, isInput, .inr under⟩

theorem LiesUnder.mono {others : List String} (more : ∀ path ∈ inputs, path ∈ others)
    {path : String} (under : LiesUnder shapeAt inputs path) : LiesUnder shapeAt others path := by
  obtain ⟨directory, isInput, under⟩ := under
  exact ⟨directory, more directory isInput, under⟩

/-- Inputs that come on top stand for nothing new if they are files that lie under the
others. -/
theorem stoodFor_iff_of_more {others : List String} (more : ∀ path ∈ inputs, path ∈ others)
    (lie : ∀ path ∈ others, path ∈ inputs ∨
      (shapeAt path = some .file ∧ LiesUnder shapeAt inputs path)) {path : String} :
    StoodFor shapeAt inputs path ↔ StoodFor shapeAt others path := by
  constructor
  · rintro (⟨isInput, isFile⟩ | under)
    · exact .inl ⟨more path isInput, isFile⟩
    · exact .inr (under.mono more)
  · rintro (⟨isOther, isFile⟩ | ⟨directory, isOther, entries, name, isDirectory, leads⟩)
    · rcases lie path isOther with isInput | ⟨-, under⟩
      · exact .inl ⟨isInput, isFile⟩
      · exact .inr under
    · rcases lie directory isOther with isInput | ⟨isFile, -⟩
      · exact .inr ⟨directory, isInput, entries, name, isDirectory, leads⟩
      · rw [isDirectory] at isFile
        cases isFile

end Inputs

section Collect

variable {σ : Type} {disk : Disk (StateM σ)} {state : σ}

/-- Collecting inputs sorts what they stand for and leaves the disk as it is. -/
theorem run_collectInputs (still : disk.Still state) (inputs : List String) :
    (collectInputs disk inputs).run state =
      (sortedPaths (foundFiles (disk.shapeAt state) inputs), state) := by
  have looks : ∀ path, (do return (path, ← disk.shape? path) : StateM σ _).run state =
      ((path, disk.shapeAt state path), state) := fun path =>
    run_bind_of_run (still.run_shape? path)
  rw [collectInputs, run_bind_of_run (run_mapM_of_still looks inputs), filesOfInputs,
    List.flatMap_map]
  rfl

/-- On a disk at rest the files of inputs are collected in strict order of their
parts, so no path comes twice, in whatever spelling.  Every file collected is one that
the inputs stand for, as it was found, and of every file they stand for one spelling is
collected.  Inputs in another order, given repeatedly, or together with files that lie
under them stand for the same paths in the same order. -/
theorem collectInputs_sorted_and_exact (still : disk.Still state) (inputs : List String) :
    ∃ files, (collectInputs disk inputs).run state = (files, state) ∧
      (files.Pairwise fun earlier later => pathPlace earlier < pathPlace later) ∧
      (files.map pathParts).Nodup ∧
      (∀ path ∈ files, StoodFor (disk.shapeAt state) inputs path) ∧
      (∀ path, StoodFor (disk.shapeAt state) inputs path →
        ∃ kept ∈ files, pathParts kept = pathParts path) ∧
      ∀ others : List String, (∀ path ∈ inputs, path ∈ others) →
        (∀ path ∈ others, path ∈ inputs ∨
          (disk.shapeAt state path = some .file ∧ LiesUnder (disk.shapeAt state) inputs path)) →
        ∃ same, (collectInputs disk others).run state = (same, state) ∧
          List.Forall₂ (fun left right => pathParts left = pathParts right) files same := by
  refine ⟨_, run_collectInputs still inputs, pairwise_sortedPaths _, ?_, ?_, ?_, ?_⟩
  · refine List.pairwise_map.mpr ((pairwise_sortedPaths _).imp ?_)
    intro earlier later before same
    exact before.ne (pathPlace_eq_iff.mpr same)
  · intro path member
    exact mem_foundFiles_iff.mp (mem_of_mem_sortedPaths member)
  · intro path stoodFor
    obtain ⟨kept, isKept, place⟩ := exists_mem_sortedPaths (mem_foundFiles_iff.mpr stoodFor)
    exact ⟨kept, isKept, pathPlace_eq_iff.mp place⟩
  · intro others more lie
    refine ⟨_, run_collectInputs still others, sortedPaths_congr fun path => ?_⟩
    rw [mem_foundFiles_iff, mem_foundFiles_iff]
    exact stoodFor_iff_of_more more lie

/-- A tree with two directories; one of them holds a file that has no tree. -/
def sampleFiles : FileTree :=
  [ ("d.a", .directory [("z.ust.json", .file "")]),
    ("d", .directory [("notes", .file ""), ("x.ust.json", .file "")]) ]

/-- A directory that is given twice, once with a file in it, stands for the same files
as when it is given once. -/
theorem collectInputs_sampleFiles :
    ∃ files same, (collectInputs FileTree.disk ["d.a", "d"]).run sampleFiles =
        (files, sampleFiles) ∧
      (collectInputs FileTree.disk ["d", "d/x.ust.json", "d", "d.a"]).run sampleFiles =
          (same, sampleFiles) ∧
        List.Forall₂ (fun left right => pathParts left = pathParts right) files same ∧
          ∃ kept ∈ files, pathParts kept = pathParts "d/x.ust.json" := by
  have directory : FileTree.disk.shapeAt sampleFiles "d" =
      some (.directory [("notes", .file), ("x.ust.json", .file)]) := by
    rw [FileTree.shapeAt_disk (by decide +kernel)]
    rfl
  have file : FileTree.disk.shapeAt sampleFiles "d/x.ust.json" = some .file := by
    rw [FileTree.shapeAt_disk (by decide +kernel)]
    rfl
  have spelled : entryPath "d" "x.ust.json" = "d/x.ust.json" := by decide +kernel
  have leads : LeadsTo "d" [("notes", .file), ("x.ust.json", .file)] "x.ust.json"
      "d/x.ust.json" :=
    spelled ▸ .entry (by simp)
  have under : LiesUnder (FileTree.disk.shapeAt sampleFiles) ["d.a", "d"] "d/x.ust.json" :=
    ⟨"d", by decide, _, _, directory, leads, by decide +kernel⟩
  obtain ⟨files, collected, -, -, -, complete, stable⟩ :=
    collectInputs_sorted_and_exact (FileTree.still_disk sampleFiles) ["d.a", "d"]
  obtain ⟨same, again, alike⟩ := stable ["d", "d/x.ust.json", "d", "d.a"] (by decide) (by
    simp [file, under])
  exact ⟨files, same, collected, again, alike, complete "d/x.ust.json" (.inr under)⟩

end Collect

end TreeSieve
