/-!
# Arguments

A command line is read word by word.  A word that begins with a hyphen names
options, other words are values of the option before them or operands.  Two
hyphens alone say that only operands follow.
-/

namespace TreeSieve.CommandLine

/-- Why the reading of a command line ends before anything is done. -/
inductive Halt where
  /-- The words make no sense. -/
  | usage
  /-- The version is asked for. -/
  | version
  /-- Help is asked for. -/
  | help
  deriving DecidableEq

/-- How often an option may be given and what comes with it. -/
inductive Arity where
  /-- Given once, without a value. -/
  | flag
  /-- Given any number of times, without a value. -/
  | counted
  /-- Given once, with one value. -/
  | one
  /-- Given any number of times, with at least one value each time. -/
  | many
  /-- Ends the reading. -/
  | halts (halt : Halt)
  deriving DecidableEq

/-- Whether values come with an option. -/
def Arity.takesValues : Arity → Bool
  | one => true
  | many => true
  | _ => false

/-- An option that may be given. -/
structure OptionSpec where
  name : String
  letter : Option Char := none
  arity : Arity := .flag
  /-- Whether a text is a value of the option. -/
  accepts : String → Bool := fun _ => true

/-- What has been read so far. -/
structure Reading where
  /-- The options that were given, each with its values. -/
  given : List (String × List String) := []
  operands : List String := []
  /-- The option whose values may come next, with those that have come. -/
  pending : Option (OptionSpec × List String) := none
  /-- Only operands follow. -/
  operandsOnly : Bool := false

namespace Reading

/-- Whether an option was given. -/
def has (reading : Reading) (name : String) : Bool :=
  reading.given.any (·.1 == name)

/-- All values of an option, in the order in which they were given. -/
def values (reading : Reading) (name : String) : List String :=
  reading.given.flatMap fun (other, values) => if other = name then values else []

/-- The value of an option that is given once. -/
def value? (reading : Reading) (name : String) : Option String :=
  (reading.values name).head?

/-- Note an option with its values.  Only some options may be given twice. -/
def note (reading : Reading) (spec : OptionSpec) (values : List String) :
    Except Halt Reading :=
  match spec.arity with
  | .halts halt => .error halt
  | .counted => .ok { reading with given := reading.given ++ [(spec.name, values)] }
  | .many => .ok { reading with given := reading.given ++ [(spec.name, values)] }
  | _ =>
      if reading.has spec.name then .error .usage
      else .ok { reading with given := reading.given ++ [(spec.name, values)] }

/-- No more values come for the option before. -/
def close (reading : Reading) : Except Halt Reading :=
  match reading.pending with
  | none => .ok reading
  | some (_, []) => .error .usage
  | some (spec, values) => { reading with pending := none }.note spec values

/-- Note an option whose value is written in the same word. -/
def attach (reading : Reading) (spec : OptionSpec) (value : String) : Except Halt Reading :=
  if spec.arity.takesValues && spec.accepts value then reading.note spec [value]
  else .error .usage

/-- An option without a value in its word: its values may come next. -/
def await (reading : Reading) (spec : OptionSpec) : Except Halt Reading :=
  if spec.arity.takesValues then .ok { reading with pending := some (spec, []) }
  else reading.note spec []

/-- Read an option by its name, perhaps with a value behind an equals sign. -/
def readName (specs : List OptionSpec) (reading : Reading) (word : List Char) :
    Except Halt Reading :=
  let name := String.ofList (word.takeWhile (· != '='))
  match specs.find? (·.name == name), word.dropWhile (· != '=') with
  | none, _ => .error .usage
  | some spec, [] => reading.await spec
  | some spec, _ :: value => reading.attach spec (String.ofList value)

/-- Read options by their letters.  What follows the letter of an option with
values is its value, perhaps behind an equals sign. -/
def readLetters (specs : List OptionSpec) : Reading → List Char → Except Halt Reading
  | reading, [] => .ok reading
  | reading, letter :: rest =>
      match specs.find? (·.letter == some letter) with
      | none => .error .usage
      | some spec =>
          if spec.arity.takesValues then
            match rest with
            | [] => reading.await spec
            | '=' :: value => reading.attach spec (String.ofList value)
            | value => reading.attach spec (String.ofList value)
          else do readLetters specs (← reading.note spec []) rest

/-- Read a word that names no option. -/
def readPlain (reading : Reading) (word : String) : Except Halt Reading :=
  match reading.pending with
  | none => .ok { reading with operands := reading.operands ++ [word] }
  | some (spec, values) =>
      if !spec.accepts word then .error .usage
      else
        let reading := { reading with pending := some (spec, values ++ [word]) }
        if spec.arity = .one then reading.close else .ok reading

/-- Read one word. -/
def readWord (specs : List OptionSpec) (reading : Reading) (word : String) :
    Except Halt Reading :=
  if reading.operandsOnly then .ok { reading with operands := reading.operands ++ [word] }
  else
    match word.toList with
    | ['-', '-'] => do return { ← reading.close with operandsOnly := true }
    | '-' :: '-' :: name => do readName specs (← reading.close) name
    | '-' :: letter :: rest => do readLetters specs (← reading.close) (letter :: rest)
    | _ => reading.readPlain word

/-- Read words up to and with the first operand, and give the words behind it. -/
def readFront (specs : List OptionSpec) :
    Reading → List String → Except Halt (Reading × List String)
  | reading, [] => return (← reading.close, [])
  | reading, word :: rest => do
      let reading ← reading.readWord specs word
      if reading.operands.isEmpty then readFront specs reading rest else return (reading, rest)

/-- Read all words. -/
def readAll (specs : List OptionSpec) (words : List String) : Except Halt Reading := do
  (← words.foldlM (readWord specs) {}).close

end Reading

end TreeSieve.CommandLine
