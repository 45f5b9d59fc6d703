/-!
# Paths

A path is read part by part.  Empty parts, and single dots behind the first
part, say nothing and are left out, so one path has several spellings.  Paths
are ordered by their parts.
-/

namespace TreeSieve

/-- One part of a path. -/
inductive PathPart where
  /-- The root at the front of an absolute path. -/
  | root
  /-- A single dot at the front of a relative path. -/
  | here
  /-- Two dots. -/
  | parent
  | name (text : String)
  deriving DecidableEq

namespace PathPart

/-- The place of a part before its name is looked at. -/
def rank : PathPart → Nat
  | root => 0
  | here => 1
  | parent => 2
  | name _ => 3

/-- The name of a part, empty for those that have none. -/
def label : PathPart → String
  | name text => text
  | _ => ""

/-- Whether one part comes before another: names come last, in the order of
their characters. -/
def before (left right : PathPart) : Bool :=
  left.rank < right.rank || (left.rank = right.rank && left.label < right.label)

/-- A part of a path behind its front; nothing where the text says nothing. -/
def ofText? (text : String) : Option PathPart :=
  if text = "" ∨ text = "." then none
  else if text = ".." then some parent
  else some (name text)

end PathPart

/-- The parts of a path. -/
def pathParts (path : String) : List PathPart :=
  match path.splitOn "/" with
  | [] => []
  | first :: rest =>
      let front :=
        if first = "." then [.here]
        else if first = "" ∧ rest ≠ [] then [.root]
        else (PathPart.ofText? first).toList
      front ++ rest.filterMap PathPart.ofText?

/-- Whether one list of parts comes before another or is equal to it. -/
def partsLe : List PathPart → List PathPart → Bool
  | [], _ => true
  | _ :: _, [] => false
  | left :: lefts, right :: rights =>
      left.before right || (left = right && partsLe lefts rights)

/-- Whether one path comes before another or is another spelling of it. -/
def pathLe (left right : String) : Bool :=
  partsLe (pathParts left) (pathParts right)

/-- Whether two texts spell one path. -/
def samePath (left right : String) : Bool :=
  pathParts left = pathParts right

/-- The path of an entry of a directory. -/
def entryPath (directory name : String) : String :=
  if directory.endsWith "/" then directory ++ name else directory ++ "/" ++ name

end TreeSieve
