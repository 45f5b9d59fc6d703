import TreeSieve.Failure
import TreeSieve.Pattern.Matching
import TreeSieve.Quarantine
import TreeSieve.Rule.Basic

/-!
# Searching a tree

A search visits the nodes of a tree, parents before children, and then its
comments, and tries the rules at each of them.  Before each visit it asks
whether to go on.
-/

namespace TreeSieve

/-- A match of a rule in a file. -/
structure Finding where
  key : String
  file : SourceFile
  spans : List Span

/-- The span that covers a finding. -/
def Finding.span (finding : Finding) : Span :=
  Span.cover finding.spans

/-- The answer to the question whether to go on. -/
inductive Poll where
  | proceed
  | shutdown
  | deadline
  deriving DecidableEq

namespace Search

/-- The spans of a rule that matches a node: those it has gathered, or the span
of the node when it has gathered none. -/
def spansAt? (options : Options) (ust : Ust) (rule : Rule) (id : NodeId) : Option (List Span) :=
  let trail := rule.pattern.matchAt ust id (.fresh options ust.language.caseInsensitive)
  if !trail.success then none
  else if trail.locations.isEmpty then some [ust.span id]
  else some trail.locations

/-- What a rule finds at a node. -/
def findingAt? (options : Options) (ust : Ust) (id : NodeId) (rule : Rule) : Option Finding :=
  (spansAt? options ust rule id).map fun spans => ⟨rule.key, ust.file, spans⟩

/-- A rule that is tried at node after node.  A node where it matches may
silence it until that node is left. -/
structure Trial where
  rule : Rule
  silencer : Option NodeId := none

namespace Trial

/-- Try the rule at a node: what it finds there, and how it goes on.  A silent
rule is not tried; a match silences it unless all matches are asked for. -/
def attempt (options : Options) (ust : Ust) (id : NodeId) (trial : Trial) :
    Option Finding × Trial :=
  if trial.silencer.isSome then (none, trial)
  else
    match findingAt? options ust id trial.rule with
    | none => (none, trial)
    | some finding =>
        (some finding, if options.findAll then trial else { trial with silencer := some id })

/-- Leave a node: a rule that it silenced may be tried again. -/
def release (id : NodeId) (trial : Trial) : Trial :=
  if trial.silencer = some id then { trial with silencer := none } else trial

end Trial

/-- What a walk still has to do: visit a node, or leave it once all that lies
under it has been visited. -/
inductive Task where
  | enter (id : NodeId)
  | leave (id : NodeId)
  deriving DecidableEq

/-- What is found at each visit, when a walk carries out at most `count` tasks.
A visit puts the children of the node before the tasks that are left, and the
leave of the node behind them. -/
def walk (options : Options) (ust : Ust) : (count : Nat) → List Task → List Trial →
    List (List Finding)
  | 0, _, _ => []
  | _, [], _ => []
  | count + 1, .leave id :: tasks, trials =>
      walk options ust count tasks (trials.map (·.release id))
  | count + 1, .enter id :: tasks, trials =>
      let tried := trials.map (·.attempt options ust id)
      tried.filterMap (·.1) ::
        walk options ust count ((ust.children id).map .enter ++ .leave id :: tasks)
          (tried.map (·.2))

/-- What is found at each visit of the nodes from the root on.  Each of them is
entered and left once. -/
def treeVisits (options : Options) (ust : Ust) (rules : List Rule) : List (List Finding) :=
  walk options ust (2 * ust.size) [.enter ust.root] (rules.map fun rule => { rule })

/-- What is found at each comment. -/
def commentVisits (options : Options) (ust : Ust) (rules : List Rule) : List (List Finding) :=
  ust.comments.map fun comment => rules.filterMap (findingAt? options ust comment)

/-- Whether a rule is meant for the file and not set aside. -/
def isActive (quarantine : Quarantine) (ust : Ust) (rule : Rule) : Bool :=
  rule.appliesTo ust.language && rule.appliesToFile ust.file.path &&
    !quarantine.contains rule.key

/-- The rules meant for the file that are not set aside. -/
def active (quarantine : Quarantine) (ust : Ust) (rules : List Rule) : List Rule :=
  rules.filter (isActive quarantine ust)

/-- What is found at each visit of a tree: its nodes and then its comments.
Without a rule to try nothing is visited. -/
def allVisits (options : Options) (quarantine : Quarantine) (ust : Ust) (rules : List Rule) :
    List (List Finding) :=
  match active quarantine ust rules with
  | [] => []
  | rules => treeVisits options ust rules ++ commentVisits options ust rules

/-- Gather what is found at the visits.  `polls` answers before each visit,
`count` of them having been made. -/
def gather (file : String) (polls : Nat → Poll) : (count : Nat) → List (List Finding) →
    Except Failure (List Finding)
  | _, [] => .ok []
  | count, found :: rest =>
      match polls count with
      | .proceed => (gather file polls (count + 1) rest).map (found ++ ·)
      | .shutdown => .error (.interrupted file)
      | .deadline => .error (.timedOut file)

/-- Search a tree for all rules. -/
def run (options : Options) (quarantine : Quarantine) (polls : Nat → Poll) (ust : Ust)
    (rules : List Rule) : Except Failure (List Finding) :=
  gather ust.file.path polls 0 (allVisits options quarantine ust rules)

end Search

end TreeSieve
