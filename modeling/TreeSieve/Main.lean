import Std.Time.DateTime.Timestamp
import TreeSieve.CommandLine.Run

/-!
# The program

Connects the commands with the files, the clock and the terminal.
-/

namespace TreeSieve.CommandLine

/-- The fault behind an error of the system. -/
def faultOf (error : IO.Error) : DiskFault :=
  match error with
  | .noFileOrDirectory .. => .notFound
  | .inappropriateType _ 20 _ => .notDirectory
  | .inappropriateType _ 21 _ => .isDirectory
  | error => .other (toString error)

/-- Run an action on files. -/
def attempt {α : Type} (action : IO α) : IO (Except DiskFault α) := do
  match ← action.toBaseIO with
  | .ok value => return .ok value
  | .error error => return .error (faultOf error)

/-- What lies at a path; links in directories are not followed. -/
partial def shapeAt (path : String) : IO (Option Shape) := do
  let place := System.mkFilePath [path]
  match ← attempt place.metadata with
  | .error _ => return none
  | .ok found =>
      match found.type with
      | .file => return some .file
      | .dir =>
          let entries ← (← place.readDir).toList.filterMapM fun entry => do
            let kind ← attempt entry.path.symlinkMetadata
            match kind with
            | .ok { type := .symlink, .. } => return none
            | _ => return (← shapeAt entry.path.toString).map (entry.fileName, ·)
          return some (.directory entries)
      | _ => return none

/-- The files of the machine. -/
def machineDisk : Disk IO where
  read path := attempt do
    if ← (System.mkFilePath [path]).isDir then
      throw (.inappropriateType (some path) 21 "")
    IO.FS.readFile (System.mkFilePath [path])
  write path text := attempt (IO.FS.writeFile (System.mkFilePath [path]) text)
  shape? := shapeAt

/-- The clock of the machine. -/
def machineNow : IO Moment := do
  let nanoseconds := (← Std.Time.Timestamp.now).toNanosecondsSinceUnixEpoch.val
  return ⟨nanoseconds.fdiv 1000000000, (nanoseconds.fmod 1000000000).toNat⟩

end TreeSieve.CommandLine

/-- Run the command line. -/
def main (words : List String) : IO UInt32 := do
  let surroundings : TreeSieve.CommandLine.Surroundings IO :=
    { disk := TreeSieve.CommandLine.machineDisk, now := TreeSieve.CommandLine.machineNow }
  let result ← TreeSieve.CommandLine.run surroundings words
  IO.print result.output
  if result.exit = 2 then IO.eprint TreeSieve.CommandLine.usageText
  match result.error with
  | some message => IO.eprintln ("Error: " ++ message)
  | none => pure ()
  return UInt32.ofNat result.exit
