/-!
# Files and directories

A `Disk` reads and writes texts and tells what lies at a path.  `FileTree` is a
disk that is a plain value.
-/

namespace TreeSieve

/-- What lies at a path: a file, or a directory with all that is in it. -/
inductive Shape where
  | file
  | directory (entries : List (String × Shape))
  deriving Inhabited

/-- Why a path cannot be read or written. -/
inductive DiskFault where
  | notFound
  | notDirectory
  | isDirectory
  | other (reason : String)
  deriving DecidableEq

/-- The wording of a fault. -/
def DiskFault.message : DiskFault → String
  | notFound => "No such file or directory (os error 2)"
  | notDirectory => "Not a directory (os error 20)"
  | isDirectory => "Is a directory (os error 21)"
  | other reason => reason

/-- Access to files. -/
structure Disk (m : Type → Type) where
  /-- The text of a file. -/
  read : String → m (Except DiskFault String)
  /-- Write a text to a file. -/
  write : String → String → m (Except DiskFault Unit)
  /-- What lies at a path, if anything does. -/
  shape? : String → m (Option Shape)

/-! ## Trees of files -/

/-- A file with its text or a directory with its entries. -/
inductive Entry where
  | file (text : String)
  | directory (entries : List (String × Entry))
  deriving Inhabited

namespace Entry

/-- The text of a file. -/
def text : Entry → Except DiskFault String
  | file text => .ok text
  | directory _ => .error .isDirectory

mutual
/-- An entry without the texts. -/
def shape : Entry → Shape
  | file _ => .file
  | directory entries => .directory (shapes entries)

/-- The entries of a directory without the texts. -/
def shapes : List (String × Entry) → List (String × Shape)
  | [] => []
  | (name, entry) :: rest => (name, entry.shape) :: shapes rest
end

end Entry

/-- The entries of the current directory. -/
abbrev FileTree := List (String × Entry)

namespace FileTree

/-- The entry with a name. -/
def entry? (entries : FileTree) (name : String) : Option Entry :=
  (entries.find? (·.1 == name)).map (·.2)

/-- Put an entry in the place of the one with its name, or behind all others. -/
def insert (name : String) (entry : Entry) : FileTree → FileTree
  | [] => [(name, entry)]
  | (other, kept) :: rest =>
      if other = name then (name, entry) :: rest else (other, kept) :: insert name entry rest

/-- Follow the parts of a path from an entry, `outer` being the directories
around it.  Every part, even an empty one, asks for a directory to stand in. -/
def follow : (outer : List Entry) → Entry → List String → Except DiskFault Entry
  | _, here, [] => .ok here
  | _, .file _, _ :: _ => .error .notDirectory
  | outer, .directory entries, part :: rest =>
      if part = "" ∨ part = "." then follow outer (.directory entries) rest
      else if part = ".." then
        match outer with
        | [] => .error .notFound
        | parent :: outer => follow outer parent rest
      else
        match entry? entries part with
        | none => .error .notFound
        | some found => follow (.directory entries :: outer) found rest

/-- What lies at a path of the tree.  Nothing outside of it can be found. -/
def find (tree : FileTree) (path : String) : Except DiskFault Entry :=
  if path = "" ∨ path.startsWith "/" then .error .notFound
  else follow [] (.directory tree) (path.splitOn "/")

/-- The names of the directories that lead to the end of a path, `before` being
those passed so far, the last one first.  Every part of the path has to lead to
a directory. -/
def resolve (tree : FileTree) : (before : List String) → List String →
    Except DiskFault (List String)
  | before, [] => .ok before.reverse
  | before, part :: rest =>
      if part = "" ∨ part = "." then resolve tree before rest
      else if part = ".." then
        match before with
        | [] => .error .notFound
        | _ :: before => resolve tree before rest
      else
        match follow [] (.directory tree) (part :: before).reverse with
        | .ok (.directory _) => resolve tree (part :: before) rest
        | .ok (.file _) => .error .notDirectory
        | .error fault => .error fault

/-- Put a file into the directory that names lead to. -/
def putFile (name text : String) : List String → FileTree → FileTree
  | [], entries => insert name (.file text) entries
  | directory :: rest, entries =>
      match entry? entries directory with
      | some (.directory inner) =>
          insert directory (.directory (putFile name text rest inner)) entries
      | _ => entries

/-- Write a text to a path of the tree.  Its directory has to exist, and the
path may neither lead to a directory nor end like one. -/
def write (tree : FileTree) (path text : String) : Except DiskFault FileTree := do
  if path = "" ∨ path.startsWith "/" then throw .notFound
  let parts := path.splitOn "/"
  let names := (parts.reverse.dropWhile (· = "")).reverse
  let directory ← tree.resolve [] names.dropLast
  let name := names.getLast?.getD ""
  if names.length < parts.length ∨ name = "." ∨ name = ".." then throw .isDirectory
  match tree.find path with
  | .ok (.directory _) => throw .isDirectory
  | _ => return putFile name text directory tree

/-- Make a directory and those around it. -/
def makeDirectory (entries : FileTree) : List String → FileTree
  | [] => entries
  | name :: rest =>
      if name = "" ∨ name = "." then makeDirectory entries rest
      else
        let inner := match entry? entries name with
          | some (.directory inner) => inner
          | _ => []
        insert name (.directory (makeDirectory inner rest)) entries

/-- Add a file and the directories around it. -/
def addFile (tree : FileTree) (path text : String) : FileTree :=
  let parts := path.splitOn "/"
  let tree := tree.makeDirectory parts.dropLast
  (tree.write path text).toOption.getD tree

/-- Add a directory and those around it. -/
def addDirectory (tree : FileTree) (path : String) : FileTree :=
  tree.makeDirectory (path.splitOn "/")

/-- The disk that keeps its files in a tree. -/
def disk : Disk (StateM FileTree) where
  read path := return ((← get).find path).bind Entry.text
  shape? path := return ((← get).find path).toOption.map Entry.shape
  write path text := do
    match (← get).write path text with
    | .ok tree => set tree; return .ok ()
    | .error fault => return .error fault

end FileTree

end TreeSieve
