import TreeSieve.Files.Disk
import TreeSieve.Files.Path

/-!
# Input files

The inputs of a run are files and directories.  A file is taken as it is; a
directory stands for the files with the suffix of trees that lie in it,
however deep.  The result is sorted and names no file twice.
-/

namespace TreeSieve

/-- The suffix of files that hold trees. -/
def treeSuffix : String := ".ust.json"

mutual
/-- The files with trees under a directory at a path. -/
def Shape.treeFiles (path : String) : Shape → List String
  | .file => if path.endsWith treeSuffix then [path] else []
  | .directory entries => entryTreeFiles path entries

/-- The files with trees among the entries of a directory. -/
def entryTreeFiles (directory : String) : List (String × Shape) → List String
  | [] => []
  | (name, shape) :: rest =>
      shape.treeFiles (entryPath directory name) ++ entryTreeFiles directory rest
end

/-- The files that one input stands for. -/
def inputFiles (path : String) : Option Shape → List String
  | none => []
  | some .file => [path]
  | some (.directory entries) => entryTreeFiles path entries

/-- Drop each path that is another spelling of the one before it. -/
def dropRepeated : List String → List String
  | [] => []
  | [path] => [path]
  | first :: second :: rest =>
      match dropRepeated (second :: rest) with
      | [] => [first]
      | next :: others => if samePath first next then first :: others else first :: next :: others

/-- Sort paths and keep one spelling of each, the one that came first. -/
def sortedPaths (paths : List String) : List String :=
  dropRepeated (paths.mergeSort pathLe)

/-- The files that inputs stand for, given what lies at each of them. -/
def filesOfInputs (inputs : List (String × Option Shape)) : List String :=
  sortedPaths (inputs.flatMap fun (path, shape) => inputFiles path shape)

/-- The files that inputs stand for. -/
def collectInputs {m : Type → Type} [Monad m] (disk : Disk m) (inputs : List String) :
    m (List String) := do
  let shapes ← inputs.mapM fun path => return (path, ← disk.shape? path)
  return filesOfInputs shapes

end TreeSieve
