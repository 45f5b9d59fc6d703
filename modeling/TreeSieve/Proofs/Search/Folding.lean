import TreeSieve.Proofs.Pattern.Algebra
import TreeSieve.Proofs.Search.Renaming

/-!
# A search does not depend on the case of names

Where a language takes no account of case, names that are the same in lower case
can stand for each other, in the tree as well as in the patterns.  Only a regular
expression sees how a name is written.

Two searches are compared visit by visit.  At each node the patterns leave the
same trail, because that is so for tests of a name and every other pattern passes it
on from its parts.
-/

namespace TreeSieve

/-- Two names are the same in lower case. -/
def Case.SameLower (name other : String) : Prop :=
  Case.lower name = Case.lower other

instance (name other : String) : Decidable (Case.SameLower name other) :=
  inferInstanceAs (Decidable (Case.lower name = Case.lower other))

/-! ## Trees -/

/-- Documents that differ at most in the case of names.  The texts of the files are
not compared. -/
structure Document.UpToCase (first second : Document) : Prop where
  language_eq : second.language = first.language
  path_eq : second.file.path = first.file.path
  root_eq : second.root = first.root
  comments_eq : second.comments = first.comments
  nodes : List.Forall₂
    (fun node other => other.span = node.span ∧ node.kind.UpToNames Case.SameLower other.kind)
    first.nodes.toList second.nodes.toList

/-- Trees that differ at most in the case of names. -/
structure Ust.UpToCase (first second : Ust) : Prop
    extends first.UpToNames Case.SameLower second where
  language_eq : second.language = first.language
  path_eq : second.file.path = first.file.path
  root_eq : second.root = first.root
  comments_eq : second.comments = first.comments

theorem Ust.UpToCase.refl (ust : Ust) : ust.UpToCase ust :=
  ⟨.refl ust, rfl, rfl, rfl, rfl⟩

theorem rel_getElem?_of_forall₂ {α β : Type} {related : α → β → Prop} {xs : List α} {ys : List β}
    (each : List.Forall₂ related xs ys) (index : Nat) :
    Option.Rel related xs[index]? ys[index]? := by
  induction each generalizing index with
  | nil => exact .none
  | cons here _ ih =>
      cases index with
      | zero => exact .some here
      | succ index => exact ih index

namespace Document.UpToCase

variable {first second : Document}

theorem linksFrom_eq {nodes others : List Node}
    (each : List.Forall₂
      (fun node other => other.span = node.span ∧ node.kind.UpToNames Case.SameLower other.kind)
      nodes others) (index : Nat) :
    linksFrom index others = linksFrom index nodes := by
  induction each generalizing index with
  | nil => rfl
  | cons here _ ih =>
      have sameChildren := here.2.read_eq NodeKind.children (fun _ _ => rfl) fun _ _ => rfl
      have sameName := here.2.read_eq NodeKind.name (fun _ _ => rfl) fun _ _ => rfl
      rw [linksFrom, linksFrom, sameChildren, sameName, ih]

theorem size_eq (upToCase : first.UpToCase second) : second.nodes.size = first.nodes.size := by
  simpa using upToCase.nodes.length_eq.symm

theorem parentTable_eq (upToCase : first.UpToCase second) :
    Ust.parentTable second = Ust.parentTable first := by
  rw [Ust.parentTable, Ust.parentTable, links, links, linksFrom_eq upToCase.nodes,
    upToCase.size_eq]

theorem upToCase_of_ofDocument {firstUst secondUst : Ust} (upToCase : first.UpToCase second)
    (firstAccepted : Ust.ofDocument first = .ok firstUst)
    (secondAccepted : Ust.ofDocument second = .ok secondUst) : firstUst.UpToCase secondUst := by
  rcases Ust.eq_of_ofDocument firstAccepted with ⟨-, rfl⟩
  rcases Ust.eq_of_ofDocument secondAccepted with ⟨-, rfl⟩
  have sameNode : ∀ id : NodeId,
      ((second.nodes[id.index]?).map Node.span).getD Span.empty =
          ((first.nodes[id.index]?).map Node.span).getD Span.empty ∧
        Option.Rel (NodeKind.UpToNames Case.SameLower) ((first.nodes[id.index]?).map Node.kind)
          ((second.nodes[id.index]?).map Node.kind) := by
    intro id
    have related := rel_getElem?_of_forall₂ upToCase.nodes id.index
    simp only [Array.getElem?_toList] at related
    generalize first.nodes[id.index]? = node? at related ⊢
    generalize second.nodes[id.index]? = other? at related ⊢
    cases related with
    | none => exact ⟨rfl, .none⟩
    | some same => exact ⟨same.1, .some same.2⟩
  exact {
    size_eq := upToCase.size_eq
    span_eq := fun id => (sameNode id).1
    parent?_eq := fun id => by rw [Ust.parent?, Ust.parent?, upToCase.parentTable_eq]
    kind?_rel := fun id => (sameNode id).2
    language_eq := upToCase.language_eq
    path_eq := upToCase.path_eq
    root_eq := upToCase.root_eq
    comments_eq := upToCase.comments_eq }

end Document.UpToCase

/-! ## Trails -/

namespace Trail

/-- The same trail, which takes no account of case. -/
def SameFolding (first second : Trail) : Prop :=
  second = first ∧ first.caseInsensitive = true

theorem likeness_sameFolding : Likeness SameFolding where
  success_eq same := congrArg success same.1
  caseInsensitive_eq same := congrArg caseInsensitive same.1
  fail same := ⟨congrArg fail same.1, same.2⟩
  add span same := ⟨congrArg (add · span) same.1, by unfold add; split <;> exact same.2⟩
  addNonterminal span same := by
    refine ⟨congrArg (addNonterminal · span) same.1, ?_⟩
    unfold addNonterminal add
    repeat' split
    all_goals exact same.2

end Trail

/-! ## Patterns -/

namespace Pattern

/-- Patterns that differ at most in the names of tokens, and in these only by case. -/
inductive UpToCase : Pattern → Pattern → Prop
  | idToken {name other : String} (names : Case.SameLower name other) :
      UpToCase (idToken name) (idToken other)
  | parts {pattern : Pattern} {change : Nat → Pattern → Pattern}
      (each : ∀ index part, pattern.parts[index]? = some part →
        UpToCase part (change index part)) :
      UpToCase pattern (pattern.mapParts change)

theorem UpToCase.refl (pattern : Pattern) : pattern.UpToCase pattern := by
  induction pattern using parts_induction with
  | step pattern ih =>
      have same : pattern.UpToCase (pattern.mapParts fun _ part => part) :=
        .parts fun index part given => ih part (List.mem_of_getElem? given)
      rwa [mapParts_self] at same

section Agreement

variable {first second : Ust}

theorem agreeing_of_matchAt_eq {pattern other : Pattern}
    (same : ∀ id trail, trail.caseInsensitive = true →
      other.matchAt second id trail = pattern.matchAt first id trail) :
    Agreeing Trail.SameFolding (fun _ => True) first second pattern other := by
  rintro id - _ trail succeeding ⟨rfl, folding⟩
  refine ⟨same id trail folding, ?_⟩
  rw [caseInsensitive_matchAt succeeding, folding]

/-- A test of a name compares in lower case. -/
theorem agreeing_idToken (upToNames : first.UpToNames Case.SameLower second)
    {name other : String} (names : Case.SameLower name other) :
    Agreeing Trail.SameFolding (fun _ => True) first second (idToken name) (idToken other) := by
  have sameTest : ∀ {actual otherActual : String}, Case.SameLower actual otherActual →
      sameName true otherActual other = sameName true actual name := by
    intro actual otherActual actuals
    simp only [Case.SameLower] at actuals names
    simp only [sameName, if_true, actuals, names]
  refine agreeing_of_matchAt_eq fun id trail folding => ?_
  have related := upToNames.kind?_rel id
  rw [matchAt, matchAt, atKind, atKind, upToNames.span_eq]
  generalize first.kind? id = kind? at related ⊢
  generalize second.kind? id = other? at related ⊢
  cases related with
  | none => rfl
  | @some kind _ upToNames =>
      cases upToNames with
      | identifier actuals | typeToken actuals =>
          simp only [Option.bind_some, folding, sameTest actuals]
      | refl =>
          cases kind with
          | identifier actual | typeToken actual =>
              have actuals : Case.SameLower actual actual := rfl
              simp only [Option.bind_some, folding, sameTest actuals]
          | _ => rfl

/-- Patterns that differ in the case of names agree, if the regular expressions for
names in them do. -/
theorem agreeing_of_upToCase (upToNames : first.UpToNames Case.SameLower second)
    {pattern other : Pattern} (upToCase : pattern.UpToCase other)
    (onRegex : ∀ path regex, pattern.partAt? path = some (idRegex regex) →
      Agreeing Trail.SameFolding (fun _ => True) first second (idRegex regex) (idRegex regex)) :
    Agreeing Trail.SameFolding (fun _ => True) first second pattern other := by
  have comparison : Comparison Trail.SameFolding Case.SameLower (fun _ => True) first second :=
    ⟨Trail.likeness_sameFolding, upToNames, ⟨fun _ _ => trivial, fun _ _ => trivial⟩⟩
  induction upToCase with
  | idToken names => exact agreeing_idToken upToNames names
  | @parts pattern change each ih =>
      refine agreeing_mapParts comparison (fun isNameTest => ?_) fun index part given => ?_
      -- Tests of a name have no parts, so they come here only unchanged.
      · cases pattern with
        | idToken name => exact agreeing_idToken upToNames rfl
        | idRegex regex => exact onRegex [] regex rfl
        | _ => cases isNameTest
      · refine ih index part given fun path regex found => onRegex (index :: path) regex ?_
        rw [partAt?, given, Option.bind_some, found]

end Agreement

end Pattern

/-! ## Searches -/

/-- Rules for the same places whose patterns differ at most in the case of names. -/
structure Rule.UpToCase (rule other : Rule) : Prop where
  key_eq : other.key = rule.key
  languages_eq : other.languages = rule.languages
  wildcard_eq : other.wildcard = rule.wildcard
  pattern : rule.pattern.UpToCase other.pattern

namespace Search

/-- Two rules, each in its tree, are meant for the same places and leave the same
trail at every node. -/
structure SameTrails (options : Options) (first second : Ust) (rule other : Rule) : Prop where
  key_eq : other.key = rule.key
  languages_eq : other.languages = rule.languages
  wildcard_eq : other.wildcard = rule.wildcard
  matchAt_eq : ∀ id,
    other.pattern.matchAt second id (.fresh options second.language.caseInsensitive) =
      rule.pattern.matchAt first id (.fresh options first.language.caseInsensitive)

section Visits

variable {options : Options} {first second : Ust} {rule other : Rule} {id : NodeId}

theorem content_findingAt?_eq (upToCase : first.UpToCase second)
    (same : SameTrails options first second rule other) :
    (findingAt? options second id other).map Finding.content =
      (findingAt? options first id rule).map Finding.content := by
  rw [findingAt?, findingAt?, spansAt?, spansAt?, same.matchAt_eq, upToCase.span_eq,
    Option.map_map, Option.map_map, same.key_eq]
  rfl

theorem outermost_eq (upToCase : first.UpToCase second)
    (same : SameTrails options first second rule other) :
    outermost options second other id = outermost options first rule id := by
  simp only [outermost, matchesAt, upToCase.root_eq, upToCase.descendants_eq, same.matchAt_eq]

theorem content_reportAt?_eq (upToCase : first.UpToCase second)
    (same : SameTrails options first second rule other) :
    (reportAt? options second id other).map Finding.content =
      (reportAt? options first id rule).map Finding.content := by
  rw [reportAt?, reportAt?, outermost_eq upToCase same]
  split
  · exact content_findingAt?_eq upToCase same
  · rfl

theorem forall₂_active {rules others : List Rule} (upToCase : first.UpToCase second)
    (each : List.Forall₂ (SameTrails options first second) rules others)
    (quarantine : Quarantine) :
    List.Forall₂ (SameTrails options first second) (active quarantine first rules)
      (active quarantine second others) := by
  refine List.rel_filter (fun rule other same => ?_) each
  simp only [isActive, Rule.appliesTo, Rule.appliesToFile, same.key_eq, same.languages_eq,
    same.wildcard_eq, upToCase.language_eq, upToCase.path_eq]

theorem map_filterMap_eq_of_forall₂ {α : Type} {view : Finding → α} {rules others : List Rule}
    {related : Rule → Rule → Prop} {report otherReport : Rule → Option Finding}
    (each : List.Forall₂ related rules others)
    (same : ∀ {rule other}, related rule other →
      (otherReport other).map view = (report rule).map view) :
    (others.filterMap otherReport).map view = (rules.filterMap report).map view := by
  rw [List.map_filterMap, List.map_filterMap]
  induction each with
  | nil => rfl
  | cons here _ ih => rw [List.filterMap_cons, List.filterMap_cons, same here, ih]

/-- The visits of the two searches find the same, one by one. -/
theorem content_allVisits_eq (firstRooted : first.Rooted) (secondRooted : second.Rooted)
    (upToCase : first.UpToCase second) {rules others : List Rule}
    (each : List.Forall₂ (SameTrails options first second) rules others)
    (quarantine : Quarantine) :
    (allVisits options quarantine second others).map (List.map Finding.content) =
      (allVisits options quarantine first rules).map (List.map Finding.content) := by
  have sameActive := forall₂_active upToCase each quarantine
  by_cases tried : active quarantine first rules = []
  · rw [tried] at sameActive
    rw [allVisits, allVisits, tried, List.forall₂_nil_left_iff.mp sameActive]
  · have otherTried : active quarantine second others ≠ [] := by
      intro none
      rw [none] at sameActive
      exact tried (List.forall₂_nil_right_iff.mp sameActive)
    rw [allVisits_eq secondRooted otherTried, allVisits_eq firstRooted tried, upToCase.root_eq,
      upToCase.descendants_eq, upToCase.comments_eq]
    simp only [List.map_append, List.map_map, Function.comp_def]
    congr 1
    · refine List.map_congr_left fun id _ => ?_
      exact map_filterMap_eq_of_forall₂ sameActive (content_reportAt?_eq upToCase)
    · refine List.map_congr_left fun id _ => ?_
      exact map_filterMap_eq_of_forall₂ sameActive (content_findingAt?_eq upToCase)

theorem content_run_eq (firstRooted : first.Rooted) (secondRooted : second.Rooted)
    (upToCase : first.UpToCase second) {rules others : List Rule}
    (each : List.Forall₂ (SameTrails options first second) rules others)
    (quarantine : Quarantine) (polls : Nat → Poll) :
    (run options quarantine polls second others).map (List.map Finding.content) =
      (run options quarantine polls first rules).map (List.map Finding.content) := by
  rw [run, run, upToCase.path_eq]
  exact gather_congr first.file.path polls
    (content_allVisits_eq firstRooted secondRooted upToCase each quarantine) 0

end Visits

/-- Where case makes no difference, rules whose patterns differ in the case of names
leave the same trails, if the regular expressions for names do. -/
theorem sameTrails_of_upToCase {first second : Ust} (upToCase : first.UpToCase second)
    (folding : first.language.caseInsensitive = true) (options : Options) {rule other : Rule}
    (sameRule : rule.UpToCase other)
    (onRegex : ∀ path regex, rule.pattern.partAt? path = some (.idRegex regex) →
      Pattern.Agreeing Trail.SameFolding (fun _ => True) first second (.idRegex regex)
        (.idRegex regex)) :
    SameTrails options first second rule other where
  key_eq := sameRule.key_eq
  languages_eq := sameRule.languages_eq
  wildcard_eq := sameRule.wildcard_eq
  matchAt_eq id := by
    rw [upToCase.language_eq]
    have agreeing := Pattern.agreeing_of_upToCase upToCase.toUpToNames sameRule.pattern onRegex
    exact (agreeing trivial rfl ⟨rfl, folding⟩).1

/-- A search in a language that takes no account of case.  If no pattern holds a
regular expression for names, then changing the case of names in the tree changes
none of the keys and spans that are reported, nor whether the search is stopped;
nor does changing the case of names in the patterns, whatever they hold. -/
theorem run_eq_of_upToCase {document : Document} {ust : Ust}
    (accepted : Ust.ofDocument document = .ok ust)
    (folding : document.language.caseInsensitive = true) (options : Options)
    (quarantine : Quarantine) (polls : Nat → Poll) (rules : List Rule) :
    (∀ (otherDocument : Document) (other : Ust), Ust.ofDocument otherDocument = .ok other →
      document.UpToCase otherDocument →
      (∀ rule ∈ rules, ∀ path regex, rule.pattern.partAt? path ≠ some (.idRegex regex)) →
        (run options quarantine polls other rules).map (List.map Finding.content) =
          (run options quarantine polls ust rules).map (List.map Finding.content)) ∧
      ∀ others : List Rule, List.Forall₂ Rule.UpToCase rules others →
        (run options quarantine polls ust others).map (List.map Finding.content) =
          (run options quarantine polls ust rules).map (List.map Finding.content) := by
  have rooted := Ust.rooted_of_ofDocument accepted
  have ustFolding : ust.language.caseInsensitive = true := by
    rw [(Ust.eq_of_ofDocument accepted).2]
    exact folding
  constructor
  · intro otherDocument other otherAccepted sameDocument noRegex
    have upToCase := sameDocument.upToCase_of_ofDocument accepted otherAccepted
    refine content_run_eq rooted (Ust.rooted_of_ofDocument otherAccepted) upToCase ?_ quarantine
      polls
    refine List.forall₂_same.mpr fun rule member => ?_
    exact sameTrails_of_upToCase upToCase ustFolding options ⟨rfl, rfl, rfl, .refl rule.pattern⟩
      fun path regex found => (noRegex rule member path regex found).elim
  · intro others sameRules
    refine content_run_eq rooted rooted (.refl ust) (sameRules.imp fun rule other sameRule => ?_)
      quarantine polls
    exact sameTrails_of_upToCase (.refl ust) ustFolding options sameRule
      fun _ _ _ => Pattern.agreeing_of_matchAt_eq fun _ _ _ => rfl

end Search

/-- A declaration of a number, with a type and a name, in a language that takes no
account of case. -/
def Document.sampleNamed (typeName name : String) : Document :=
  { sampleField with
    language := .php
    nodes := #[
      ⟨.fieldDeclaration (some ⟨1⟩) [⟨2⟩], ⟨0, 10⟩⟩,
      ⟨.typeToken typeName, ⟨0, 3⟩⟩,
      ⟨.variableDeclaration ⟨3⟩ (some ⟨4⟩), ⟨4, 5⟩⟩,
      ⟨.identifier name, ⟨4, 1⟩⟩,
      ⟨.intLiteral 1, ⟨8, 1⟩⟩] }

/-- The tree of such a declaration. -/
def Ust.sampleNamed (typeName name : String) : Ust where
  toDocument :=
    { Document.sampleNamed typeName name with file := Document.sampleField.file.indexed }
  parents := some #[none, some ⟨0⟩, some ⟨0⟩, some ⟨2⟩, some ⟨2⟩]

namespace Search

/-- The rule for declarations of integers, written in capitals. -/
def sampleCapitalRule : Rule :=
  { sampleTypedRule with
    pattern := .variableDeclaration (some (.idToken "INT")) (.idToken "X") none }

/-- `INT X` and `Int x` are found by the same rule, and by the one in capitals. -/
theorem run_sampleNamed :
    Document.UpToCase (.sampleNamed "INT" "X") (.sampleNamed "Int" "x") ∧
      sampleTypedRule.UpToCase sampleCapitalRule ∧
      (run {} {} (fun _ => .proceed) (.sampleNamed "Int" "x") [sampleTypedRule]).map
          (List.map Finding.content) =
        .ok [("typed", [⟨0, 3⟩, ⟨4, 1⟩])] ∧
      (run {} {} (fun _ => .proceed) (.sampleNamed "INT" "X") [sampleCapitalRule]).map
          (List.map Finding.content) =
        .ok [("typed", [⟨0, 3⟩, ⟨4, 1⟩])] := by
  have accepted : Ust.ofDocument (.sampleNamed "INT" "X") = .ok (.sampleNamed "INT" "X") := rfl
  have otherAccepted : Ust.ofDocument (.sampleNamed "Int" "x") = .ok (.sampleNamed "Int" "x") := rfl
  have upToCase : Document.UpToCase (.sampleNamed "INT" "X") (.sampleNamed "Int" "x") := by
    refine ⟨rfl, rfl, rfl, rfl, ?_⟩
    refine .cons ⟨rfl, .refl _⟩ (.cons ⟨rfl, .typeToken ?_⟩ (.cons ⟨rfl, .refl _⟩
      (.cons ⟨rfl, .identifier ?_⟩ (.cons ⟨rfl, .refl _⟩ .nil)))) <;> decide +kernel
  have sameRule : sampleTypedRule.UpToCase sampleCapitalRule := by
    refine ⟨rfl, rfl, rfl, @Pattern.UpToCase.parts sampleTypedRule.pattern
      (fun index _ => if index = 0 then .idToken "INT" else .idToken "X") ?_⟩
    rintro (_ | _ | index) part given
    · cases given
      exact .idToken (by decide +kernel)
    · cases given
      exact .idToken (by decide +kernel)
    · cases given
  have noRegex : ∀ path regex,
      sampleTypedRule.pattern.partAt? path ≠ some (.idRegex regex) := by
    rintro (_ | ⟨_ | _ | index, _ | ⟨below, path⟩⟩) regex found <;> cases found
  rcases run_eq_of_upToCase accepted rfl {} {} (fun _ => .proceed) [sampleTypedRule] with
    ⟨inTree, inRules⟩
  refine ⟨upToCase, sameRule, ?_, ?_⟩
  · rw [inTree _ _ otherAccepted upToCase (by simpa using noRegex)]
    rfl
  · rw [inRules _ (.cons sameRule .nil)]
    rfl

end Search

end TreeSieve
