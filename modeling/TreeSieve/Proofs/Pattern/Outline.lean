import TreeSieve.Pattern.Matching

/-!
# Outlines of matching

What matching does at one node is put together from few kinds of steps: it tests the
node, looks at the kind of another node, matches parts of the pattern elsewhere, and goes
on or tries something else by what came of that.  `Pattern.outline` writes this down for
every pattern and every kind of node, and matching a pattern is running its outline.
-/

namespace TreeSieve

namespace Pattern

/-! ## Steps -/

/-- A test, which leaves nothing in a trail. -/
inductive Test where
  /-- A question that may depend on the treatment of case. -/
  | ask (question : Bool → Bool)
  /-- Whether a pattern matches at a node. -/
  | fits (pattern : Pattern) (id : NodeId)
  | both (first second : Test)
  | either (first second : Test)
  /-- A test chosen by the kind of a node. -/
  | look (id : NodeId) (next : Option NodeKind → Test)

/-- A step that does not gather the span of the node where it is taken. -/
inductive Step where
  | skip
  | fail
  /-- Match a pattern at a node. -/
  | call (pattern : Pattern) (id : NodeId)
  /-- Match the arguments that a node holds. -/
  | arguments (patterns : List Pattern) (id : NodeId)
  /-- Match a pattern somewhere below the node. -/
  | descend (pattern : Pattern)
  /-- Match a pattern that may be absent at the type of the variable that the node is. -/
  | typed (choice : Option Pattern)
  | andThen (first second : Step)
  /-- Take a step and go on behind it, or if it fails take another in its place. -/
  | branch (first onward otherwise : Step)
  /-- Fail if a test is passed. -/
  | refuse (test : Test)
  /-- A step chosen by the kind of a node. -/
  | look (id : NodeId) (next : Option NodeKind → Step)

/-- What is done at a node as a whole. -/
inductive Outline where
  /-- Gather the span of the node. -/
  | mark
  /-- Gather the span of the node if it passes a test. -/
  | check (test : Test)
  /-- Take a step, and gather the span of the node if such spans are asked for. -/
  | close (step : Step)
  /-- Take a step and gather nothing else. -/
  | bare (step : Step)
  /-- Match a variable, or the variables of a field. -/
  | declared (variableType : Option Pattern) (name : Pattern) (initializer : Option Pattern)

namespace Test

def always : Test :=
  .ask fun _ => true

def never : Test :=
  .ask fun _ => false

def anyOf (tests : List Test) : Test :=
  tests.foldr .either never

/-- Whether a node is a block without statements. -/
def emptyBlock (id : NodeId) : Test :=
  .look id fun kind? => .ask fun _ => (kind?.bind blockItems?).any List.isEmpty

/-- Whether a declared type matches one of the patterns; without patterns any will do. -/
def hasType (exceptionTypes : List Pattern) (declared : Option NodeId) : Test :=
  if exceptionTypes.isEmpty then always
  else declared.elim never fun id => anyOf (exceptionTypes.map (.fits · id))

/-- Whether a catch clause has one of the types and, if asked for, an empty body. -/
def clause (exceptionTypes : List Pattern) (bodyEmpty : Bool) (id : NodeId) : Test :=
  .look id fun
    | some (.catchClause exceptionType _ body) =>
        .both (hasType exceptionTypes exceptionType) (if bodyEmpty then emptyBlock body else always)
    | _ => never

end Test

namespace Step

def all (steps : List Step) : Step :=
  steps.foldr .andThen .skip

def orElse (first other : Step) : Step :=
  .branch first .skip other

def firstOf (steps : List Step) : Step :=
  steps.foldr orElse .fail

/-- Match a pattern that may be absent. -/
def optional : Option Pattern → Option NodeId → Step
  | none, _ => .skip
  | some pattern, some id => .call pattern id
  | some _, none => .fail

/-- Match patterns and as many nodes one by one. -/
def positional (patterns : List Pattern) (ids : List NodeId) : Step :=
  if patterns.length = ids.length then all (List.zipWith .call patterns ids) else .fail

/-- Match a pattern that may be absent at some member. -/
def someMember : Option Pattern → List NodeId → Step
  | none, _ => .skip
  | some pattern, ids => firstOf (ids.map (.call pattern))

/-- Match a pattern at a node, or else at the node that stands inside it. -/
def orInner (inner? : NodeKind → Option NodeId) (pattern : Pattern) (id : NodeId) : Step :=
  orElse (.call pattern id)
    (.look id fun kind? => (kind?.bind inner?).elim (.call pattern id) (.call pattern))

/-- Match patterns in order against some of the statements. -/
def inOrder (patterns : List Pattern) : List NodeId → Step
  | [] => if patterns.isEmpty then .skip else .fail
  | id :: ids =>
      match patterns with
      | [] => .skip
      | pattern :: later =>
          .branch (orInner innerExpression? pattern id) (inOrder later ids)
            (inOrder (pattern :: later) ids)

/-- Match a variable by its type, its name and its initial value. -/
def ofVariable (variableType : Option Pattern) (name : Pattern) (initializer : Option Pattern)
    (nameId : NodeId) (initializerId : Option NodeId) : Step :=
  .andThen (.andThen (.typed variableType) (.call name nameId))
    (optional initializer initializerId)

end Step

/-! ## Outlines of patterns -/

/-- What a pattern that has the shape of a node does at a node of a kind. -/
def shape : Pattern → NodeKind → Outline
  | idToken name, .identifier actual | idToken name, .typeToken actual =>
      .check (.ask (sameName · actual name))
  | idRegex regex, .identifier name | idRegex regex, .typeToken name =>
      .check (.ask (regex.occursIn · name))
  | stringLiteral text, .stringLiteral actual => .check (.ask fun _ => actual == text)
  | stringRegex regex, .stringLiteral text => .check (.ask (regex.occursIn · text))
  | commentRegex regex, .comment text => .check (.ask (regex.occursIn · text))
  | intLiteral value, .intLiteral actual => .check (.ask fun _ => actual == value)
  | intRange least greatest, .intLiteral actual =>
      .check (.ask fun _ => least ≤ actual && actual ≤ greatest)
  | floatLiteral value, .floatLiteral actual => .check (.ask fun _ => actual == value)
  | booleanLiteral value, .booleanLiteral actual => .check (.ask fun _ => admits value actual)
  | nullLiteral, .nullLiteral => .mark
  | baseReference, .baseReference => .mark
  | binaryOperator left operator right, .binaryOperator leftId actual rightId =>
      if admits operator actual then .close (.andThen (.call left leftId) (.call right rightId))
      else .bare .fail
  | unaryOperator operator operand, .unaryOperator actual operandId =>
      if admits operator actual then .close (.call operand operandId) else .bare .fail
  | assignment left right, .assignment leftId rightId =>
      .close (.andThen (.call left leftId) (.optional right rightId))
  | memberReference target name, .memberReference targetId nameId =>
      .close (.andThen (.orInner lastSegment? target targetId) (.call name nameId))
  | indexer target arguments, .indexer targetId argumentsId
  | invocation target arguments, .invocation targetId argumentsId
  | objectCreate target arguments, .objectCreate targetId argumentsId =>
      .close (.andThen (.call target targetId) (.arguments arguments argumentsId))
  | multipleExpressions patterns, .multipleExpressions actual
  | args patterns, .args actual => .close (.positional patterns actual)
  | statements items, .block actual | statements items, .statements actual =>
      .close (.inOrder items actual)
  | tryCatch exceptionTypes catchBodyEmpty, .tryCatch _ catchClauses _ =>
      .check (.anyOf (catchClauses.map (.clause exceptionTypes catchBodyEmpty)))
  | withStatement expression statement, .withStatement expressionId statementId =>
      .close (.andThen (.call expression expressionId) (.call statement statementId))
  | classDeclaration name baseTypes body, .classDeclaration nameId baseIds members =>
      .close
        (.andThen
          (.andThen (.optional name (some nameId))
            (.all (baseTypes.map fun baseType => .firstOf (baseIds.map (.call baseType)))))
          (.someMember body members))
  | methodDeclaration name body, .methodDeclaration nameId _ bodyId
  | methodDeclaration name body, .constructorDeclaration nameId _ bodyId =>
      .close (.andThen (.optional name (some nameId)) (.optional body bodyId))
  | parameterDeclaration parameterType name, .parameterDeclaration typeId nameId _ =>
      .close (.andThen (.optional parameterType typeId) (.call name nameId))
  | _, _ => .bare .fail

/-- What a pattern does at a node. -/
def outline (id : NodeId) (kind? : Option NodeKind) : Pattern → Outline
  | any => .mark
  | anyExpression => .check (.ask fun _ => kind?.any NodeKind.isExpression)
  | conjunction patterns => .bare (.all (patterns.map (.call · id)))
  | disjunction patterns => .bare (.firstOf (patterns.map (.call · id)))
  | negation pattern => .bare (.refuse (.fits pattern id))
  | anywhere pattern => .bare (.orElse (.call pattern id) (.descend pattern))
  | variableDeclaration variableType name initializer =>
      .declared variableType name initializer
  | pattern => kind?.elim (.bare .fail) pattern.shape

/-! ## Running an outline -/

section Run

variable (ust : Ust)

/-- Whether a test is passed. -/
def Test.run (trail : Trail) : Test → Bool
  | ask question => question trail.caseInsensitive
  | fits pattern id => (matchAt ust pattern id trail).success
  | both first second => first.run trail && second.run trail
  | either first second => first.run trail || second.run trail
  | look id next => (next (ust.kind? id)).run trail

/-- Take a step at a node. -/
def Step.run (id : NodeId) : Step → Trail → Trail
  | skip, trail => trail
  | fail, trail => trail.fail
  | call pattern node, trail => matchAt ust pattern node trail
  | arguments patterns node, trail => matchAt ust (args patterns) node trail
  | descend pattern, trail =>
      TreeSieve.firstOf (fun node trail => matchAt ust pattern node trail) (ust.descendants id)
        trail
  | typed choice, trail => matchOptional ust choice (declaredType? ust id) trail
  | andThen first second, trail => (first.run id trail).andThen (second.run id)
  | branch first onward otherwise, trail =>
      let tried := first.run id trail
      if tried.success then onward.run id tried else otherwise.run id trail
  | refuse test, trail => if test.run ust trail then trail.fail else trail
  | look node next, trail => (next (ust.kind? node)).run id trail

/-- Do what an outline says at a node. -/
def Outline.run (id : NodeId) : Outline → Trail → Trail
  | mark, trail => trail.add (ust.span id)
  | check test, trail => trail.check (test.run ust trail) (ust.span id)
  | close step, trail => (step.run ust id trail).close (ust.span id)
  | bare step, trail => step.run ust id trail
  | declared variableType name initializer, trail =>
      matchDeclared ust
        (fun variableId nameId initializerId =>
          (Step.ofVariable variableType name initializer nameId initializerId).run ust variableId)
        ust.size id trail

end Run

/-! ## Matching as running an outline -/

section Equations

variable {ust : Ust} {trail : Trail}

theorem Test.run_anyOf (tests : List Test) :
    (anyOf tests).run ust trail = tests.any (·.run ust trail) := by
  induction tests with
  | nil => rfl
  | cons test rest ih => exact congrArg (test.run ust trail || ·) ih

theorem Test.run_fits_anyOf (patterns : List Pattern) (node : NodeId) :
    (anyOf (patterns.map (.fits · node))).run ust trail =
      (matchSome ust patterns node trail).success := by
  induction patterns with
  | nil => rfl
  | cons pattern rest ih =>
      have here : (anyOf ((pattern :: rest).map (.fits · node))).run ust trail =
          ((matchAt ust pattern node trail).success ||
            (matchSome ust rest node trail).success) := congrArg (_ || ·) ih
      rw [here, matchSome]
      cases succeeds : (matchAt ust pattern node trail).success <;> simp [succeeds]

theorem Test.run_hasType (exceptionTypes : List Pattern) (declared : Option NodeId) :
    (hasType exceptionTypes declared).run ust trail =
      (exceptionTypes.isEmpty || declared.any fun node =>
        (matchSome ust exceptionTypes node trail).success) := by
  rw [hasType]
  cases exceptionTypes.isEmpty with
  | true => rfl
  | false =>
      cases declared with
      | none => rfl
      | some node => exact run_fits_anyOf exceptionTypes node

theorem Test.run_clause (exceptionTypes : List Pattern) (bodyEmpty : Bool) (node : NodeId) :
    (clause exceptionTypes bodyEmpty node).run ust trail =
      clauseMatches ust exceptionTypes.isEmpty bodyEmpty
        (fun declared => (matchSome ust exceptionTypes declared trail).success) node := by
  rw [clause, run, clauseMatches]
  cases ust.kind? node with
  | none => rfl
  | some kind =>
      cases kind with
      | catchClause exceptionType boundName body =>
          rw [run, run_hasType]
          cases bodyEmpty <;> rfl
      | _ => rfl

variable (id : NodeId)

theorem matchAll_eq_run (patterns : List Pattern) (node : NodeId) :
    matchAll ust patterns node = (Step.all (patterns.map (.call · node))).run ust id := by
  induction patterns with
  | nil => rfl
  | cons pattern rest ih =>
      funext trail
      rw [matchAll, ih]
      rfl

theorem firstOf_eq_run {α : Type} {attempt : Attempt α} {step : α → Step} {items : List α}
    (same : ∀ item ∈ items, attempt item = (step item).run ust id) :
    firstOf attempt items = (Step.firstOf (items.map step)).run ust id := by
  induction items with
  | nil => rfl
  | cons item rest ih =>
      funext trail
      rw [firstOf, same item List.mem_cons_self,
        ih fun other member => same other (List.mem_cons_of_mem item member)]
      rfl

theorem matchSome_eq_run (patterns : List Pattern) (node : NodeId) :
    matchSome ust patterns node = (Step.firstOf (patterns.map (.call · node))).run ust id := by
  induction patterns with
  | nil => rfl
  | cons pattern rest ih =>
      funext trail
      rw [matchSome, ih]
      rfl

theorem matchOptional_eq_run (choice : Option Pattern) (node? : Option NodeId) :
    matchOptional ust choice node? = (Step.optional choice node?).run ust id := by
  cases choice with
  | none => rfl
  | some pattern => cases node? <;> rfl

theorem matchPairs_eq_run (patterns : List Pattern) (ids : List NodeId) :
    matchPairs ust patterns ids = (Step.all (List.zipWith .call patterns ids)).run ust id := by
  induction patterns generalizing ids with
  | nil => rfl
  | cons pattern rest ih =>
      cases ids with
      | nil => rfl
      | cons node ids =>
          funext trail
          rw [matchPairs, ih]
          rfl

theorem exactly_eq_run (patterns : List Pattern) (ids : List NodeId) :
    exactly patterns.length (matchPairs ust patterns) ids =
      (Step.positional patterns ids).run ust id := by
  funext trail
  rw [exactly, Step.positional]
  split
  · rw [matchPairs_eq_run id]
  · rfl

theorem orInner_eq_run (inner? : NodeKind → Option NodeId) (pattern : Pattern) (node : NodeId) :
    orInner ust inner? (matchAt ust pattern) node =
      (Step.orInner inner? pattern node).run ust id := by
  funext trail
  change (if _ then _ else _) = if _ then _ else Step.run ust id (Option.elim _ _ _) trail
  cases (ust.kind? node).bind inner? <;> rfl

theorem matchInOrder_eq_run (patterns : List Pattern) (ids : List NodeId) :
    matchInOrder ust patterns ids = (Step.inOrder patterns ids).run ust id := by
  induction ids generalizing patterns with
  | nil => cases patterns <;> rfl
  | cons node ids ih =>
      cases patterns with
      | nil => rfl
      | cons pattern later =>
          funext trail
          have others := congrFun (ih (pattern :: later)) trail
          rw [matchInOrder] at others ⊢
          rw [behindFirst, others]
          change (if (orInner ust innerExpression? (matchAt ust pattern) node trail).success then
            matchInOrder ust later ids _ else _) = _
          rw [orInner_eq_run id, ih later]
          rfl

theorem matchBases_eq_run (patterns : List Pattern) (ids : List NodeId) :
    matchBases ust patterns ids =
      (Step.all (patterns.map fun pattern => .firstOf (ids.map (.call pattern)))).run ust id := by
  induction patterns with
  | nil => rfl
  | cons pattern rest ih =>
      funext trail
      have here : firstOf (matchAt ust pattern) ids =
          (Step.firstOf (ids.map (.call pattern))).run ust id := firstOf_eq_run id fun _ _ => rfl
      rw [matchBases, ih]
      exact congrArg (Trail.andThen · _) (congrFun here trail)

theorem matchMember_eq_run (choice : Option Pattern) (ids : List NodeId) :
    matchMember ust choice ids = (Step.someMember choice ids).run ust id := by
  cases choice with
  | none => rfl
  | some pattern => exact firstOf_eq_run id fun _ _ => rfl

variable {id}

/-- A shape does what it does at the kind of the node. -/
theorem atKind_eq_run {steps : NodeKind → Option (Trail → Trail)} {outline : NodeKind → Outline}
    (same : ∀ kind trail,
      ((steps kind).elim trail.fail fun step => step trail) = (outline kind).run ust id trail)
    (trail : Trail) :
    atKind ust steps id trail =
      ((ust.kind? id).elim (.bare .fail) outline).run ust id trail := by
  rw [atKind]
  cases ust.kind? id with
  | none => rfl
  | some kind =>
      rw [Option.bind_some, Option.elim_some, ← same kind trail]
      cases steps kind <;> rfl

/-- A variable is matched by itself, a field by its declarators, and nothing else is. -/
theorem matchDeclared_cases {declared : NodeId → NodeId → Option NodeId → Trail → Trail}
    {depth : Nat} {motive : (Trail → Trail) → Prop}
    (ofVariable : ∀ nameId initializerId,
      ust.kind? id = some (.variableDeclaration nameId initializerId) →
        motive fun trail => (declared id nameId initializerId trail).close (ust.span id))
    (ofField : ∀ fieldType declarators,
      ust.kind? id = some (.fieldDeclaration fieldType declarators) →
        motive fun trail =>
          (firstOf (matchDeclared ust declared depth) declarators trail).close (ust.span id))
    (ofOther : (∀ nameId initializerId,
      ust.kind? id ≠ some (.variableDeclaration nameId initializerId)) →
        (∀ fieldType declarators,
          ust.kind? id ≠ some (.fieldDeclaration fieldType declarators)) → motive Trail.fail) :
    motive (matchDeclared ust declared (depth + 1) id) := by
  change motive fun trail => matchDeclared ust declared (depth + 1) id trail
  simp only [matchDeclared, atKind]
  cases kindEq : ust.kind? id with
  | none => exact ofOther (by simp [kindEq]) (by simp [kindEq])
  | some kind =>
      cases kind with
      | variableDeclaration nameId initializerId => exact ofVariable nameId initializerId kindEq
      | fieldDeclaration fieldType declarators => exact ofField fieldType declarators kindEq
      | _ => exact ofOther (by simp [kindEq]) (by simp [kindEq])

theorem ofVariable_eq_run (variableType : Option Pattern) (name : Pattern)
    (initializer : Option Pattern) (nameId : NodeId) (initializerId : Option NodeId) :
    ((matchOptional ust variableType (declaredType? ust id) trail).andThen
        (matchAt ust name nameId)).andThen (matchOptional ust initializer initializerId) =
      (Step.ofVariable variableType name initializer nameId initializerId).run ust id trail := by
  rw [matchOptional_eq_run id initializer]
  rfl

/-- Matching a pattern is running its outline. -/
theorem matchAt_eq_run (ust : Ust) (pattern : Pattern) (id : NodeId) :
    matchAt ust pattern id = (pattern.outline id (ust.kind? id)).run ust id := by
  funext trail
  cases pattern with
  | any | anyExpression | negation _ | anywhere _ => rfl
  | conjunction patterns => exact congrFun (matchAll_eq_run id patterns id) trail
  | disjunction patterns => exact congrFun (matchSome_eq_run id patterns id) trail
  | variableDeclaration variableType name initializer =>
      refine congrArg (fun declared => matchDeclared ust declared ust.size id trail) ?_
      funext variableId nameId initializerId trail
      exact ofVariable_eq_run variableType name initializer nameId initializerId
  -- All others have the shape of a node, and do something at nodes of their kinds only.
  | binaryOperator _ _ _ | unaryOperator _ _ =>
      refine atKind_eq_run (fun kind trail => ?_) trail
      cases kind <;> first
        | rfl
        | (simp only [shape]; split <;> rfl)
  | assignment _ _ | methodDeclaration _ _ | parameterDeclaration _ _ =>
      refine atKind_eq_run (fun kind trail => ?_) trail
      cases kind <;> first
        | rfl
        | (simp only [matchOptional_eq_run id]; rfl)
  | memberReference _ _ =>
      refine atKind_eq_run (fun kind trail => ?_) trail
      cases kind <;> first
        | rfl
        | (simp only [orInner_eq_run id]; rfl)
  | multipleExpressions _ | args _ =>
      refine atKind_eq_run (fun kind trail => ?_) trail
      cases kind <;> first
        | rfl
        | (simp only [exactly_eq_run id]; rfl)
  | statements _ =>
      refine atKind_eq_run (fun kind trail => ?_) trail
      cases kind <;> first
        | rfl
        | (simp only [matchInOrder_eq_run id]; rfl)
  | tryCatch _ _ =>
      refine atKind_eq_run (fun kind trail => ?_) trail
      cases kind <;> first
        | rfl
        | (simp only [shape, Outline.run, Test.run_anyOf, List.any_map, Function.comp_def,
            Test.run_clause]; rfl)
  | classDeclaration _ _ _ =>
      refine atKind_eq_run (fun kind trail => ?_) trail
      cases kind <;> first
        | rfl
        | (simp only [matchOptional_eq_run id, matchBases_eq_run id, matchMember_eq_run id]; rfl)
  | _ =>
      refine atKind_eq_run (fun kind trail => ?_) trail
      cases kind <;> rfl

end Equations

end Pattern

end TreeSieve
