import TreeSieve.Proofs.Catalogue.Order
import TreeSieve.Proofs.CommandLine.Search
import TreeSieve.Proofs.Rule.RoundTrip
import TreeSieve.Proofs.Search.Walk
import TreeSieve.Proofs.Ust.RoundTrip

/-!
# Languages on the command line

The option for languages takes a list of names.  Names that are unknown are left
out, and a list of languages that is empty stands for all of them.  So the option
confines a search to the languages that it names if it names any, and if all its
names are unknown, it lets every language pass.
-/

namespace TreeSieve

/-! ## Changes of the languages -/

namespace Settings

/-- The languages that a change sets. -/
def Change.languages? : Change → Option (List Language)
  | .languages named => some named
  | _ => none

theorem languages_change (settings : Settings) (change : Change) :
    (settings.change change).matching.languages =
      change.languages?.getD settings.matching.languages := by
  cases change <;> rfl

/-- The languages are those that were set last. -/
theorem languages_changeAll (settings : Settings) (changes : List Change) :
    (settings.changeAll changes).matching.languages =
      (changes.filterMap Change.languages?).getLastD settings.matching.languages := by
  induction changes generalizing settings with
  | nil => rfl
  | cons change changes ih =>
      rw [changeAll, List.foldl_cons, ← changeAll, ih, languages_change, List.filterMap_cons]
      cases change.languages? with
      | none => rfl
      | some named => exact (List.getLastD_cons ..).symm

end Settings

namespace CommandLine

open Json (bind_eq_ok_iff)
open Settings (Change)

theorem filterMap_flagChange {reading : Reading} {name : String} {change : Change}
    (other : change.languages? = none) :
    (flagChange reading name change).filterMap Change.languages? = [] := by
  rw [flagChange]
  split <;> simp [other]

theorem filterMap_valueChange {reading : Reading} {name : String}
    {change? : String → Option Change}
    (other : ∀ value, (change? value).bind Change.languages? = none) :
    (valueChange reading name change?).filterMap Change.languages? = [] := by
  rw [valueChange]
  cases reading.value? name with
  | none => rfl
  | some value =>
      have ignored := other value
      rw [Option.bind_some]
      cases read : change? value with
      | none => rfl
      | some change =>
          rw [read, Option.bind_some] at ignored
          simp [ignored]

/-- Of all changes for a search only its option for languages sets them. -/
theorem filterMap_searchChanges (reading : Reading) :
    (searchChanges reading).filterMap Change.languages? =
      ((reading.value? "languages").map readLanguages).toList := by
  have paths : ((reading.values "patterns").map Change.rulePath).filterMap Change.languages? =
      [] := by
    simp [Change.languages?]
  have languages : (valueChange reading "languages" fun list =>
      some (.languages (readLanguages list))).filterMap Change.languages? =
        ((reading.value? "languages").map readLanguages).toList := by
    rw [valueChange]
    cases reading.value? "languages" <;> rfl
  rw [searchChanges, ruleChanges]
  simp only [List.filterMap_append, paths, languages]
  rw [filterMap_flagChange rfl, filterMap_flagChange rfl, filterMap_flagChange rfl,
    filterMap_flagChange rfl, filterMap_valueChange fun _ => rfl,
    filterMap_valueChange fun text => by cases readCount? text <;> rfl,
    filterMap_valueChange fun text => by cases readCount? text <;> rfl,
    filterMap_valueChange fun text => by cases OutputFormat.ofName? text <;> rfl,
    filterMap_valueChange fun _ => rfl]
  simp

/-- The changes of a search are those of what was read, and no operand is left over. -/
theorem exists_reading_of_readSearch {words inputs : List String} {changes : List Change}
    (asked : readSearch words = .ok (.search inputs changes)) :
    ∃ reading, Reading.readAll searchOptions words = .ok reading ∧ reading.operands = [] ∧
      changes = searchChanges reading := by
  obtain ⟨reading, read, asked⟩ := bind_eq_ok_iff.mp asked
  dsimp only at asked
  split at asked
  · obtain ⟨_, refused, -⟩ := bind_eq_ok_iff.mp asked
    cases refused
  · rename_i fine
    simp only [Bool.or_eq_true, not_or, Bool.not_eq_true, Bool.not_eq_false',
      List.isEmpty_iff] at fine
    cases asked
    exact ⟨reading, read, fine.1, rfl⟩

/-- The option for languages. -/
def languagesOption : OptionSpec :=
  { name := "languages", arity := .one }

theorem languagesOption_mem : languagesOption ∈ searchOptions :=
  List.mem_of_getElem? (i := 6) rfl

theorem nodup_searchOptions : (searchOptions.map OptionSpec.name).Nodup := by
  decide

/-- Whatever the settings were before, the option for languages sets those that it
names. -/
theorem SearchRun.languages_settings {σ : Type} {disk : Disk (StateM σ)} {state : σ}
    {words : List String} (run : SearchRun disk state words) {list : String}
    (gives : Gives words "languages" list) :
    run.settings.matching.languages = readLanguages list := by
  obtain ⟨reading, read, complete, changes⟩ := exists_reading_of_readSearch run.asked
  have value : reading.value? "languages" = some list :=
    Reading.value?_of_gives nodup_searchOptions languagesOption_mem rfl (by decide) (by decide)
      gives read complete
  rw [settings, Settings.languages_changeAll, changes, filterMap_searchChanges, value]
  rfl

/-! ## Languages that are named -/

/-- A list of names has one of this language. -/
def Names (list : String) (language : Language) : Prop :=
  ∃ name ∈ commaList list, Language.ofName? name = some language

instance (list : String) : DecidablePred (Names list) := fun language =>
  inferInstanceAs (Decidable (∃ name ∈ commaList list, Language.ofName? name = some language))

/-- A list of names has one of a language that is known. -/
def NamesAny (list : String) : Prop :=
  ∃ name ∈ commaList list, (Language.ofName? name).isSome = true

instance (list : String) : Decidable (NamesAny list) :=
  inferInstanceAs (Decidable (∃ name ∈ commaList list, (Language.ofName? name).isSome = true))

theorem mem_readLanguages_iff {list : String} {language : Language} :
    language ∈ readLanguages list ↔ Names list language :=
  List.mem_filterMap

theorem readLanguages_ne_nil_iff {list : String} : readLanguages list ≠ [] ↔ NamesAny list := by
  rw [Ne, readLanguages, List.filterMap_eq_nil_iff, NamesAny]
  simp [Option.isSome_iff_ne_none]

/-- Without a name of a known language all languages are accepted. -/
theorem accepts_iff {settings : MatchSettings} {list : String}
    (languages : settings.languages = readLanguages list) (language : Language) :
    settings.accepts language = true ↔ (NamesAny list → Names list language) := by
  rw [MatchSettings.accepts, languages, Bool.or_eq_true, List.isEmpty_iff, List.contains_iff_mem,
    mem_readLanguages_iff, ← readLanguages_ne_nil_iff, or_iff_not_imp_left]

section Confined

variable (list : String)

/-- Whatever the disk, the settings and the other words are, a search with this list of
languages finds what is in the trees of admitted languages, and nothing else. -/
def Confines (admits : Language → Prop) [DecidablePred admits] : Prop :=
  ∀ {σ : Type} {disk : Disk (StateM σ)} {state : σ} {words : List String}
    (run : SearchRun disk state words), Gives words "languages" list →
      run.summary.findings =
        (run.trees.filter fun ust => admits ust.language).flatMap run.scanner.foundIn

/-- Whatever a search with this list of languages finds is found in a tree of a language
that the list names. -/
def Restricts : Prop :=
  ∀ {σ : Type} {disk : Disk (StateM σ)} {state : σ} {words : List String}
    (run : SearchRun disk state words), Gives words "languages" list →
      ∀ finding ∈ run.summary.findings,
        ∃ ust ∈ run.trees, Names list ust.language ∧ finding ∈ run.scanner.foundIn ust

theorem confines_of_names : Confines list fun language => NamesAny list → Names list language := by
  intro σ disk state words run gives
  rw [run.findings_summary]
  refine congrArg (List.flatMap run.scanner.foundIn) (List.filter_congr fun ust _ => ?_)
  rw [Bool.eq_iff_iff, accepts_iff (run.languages_settings gives), decide_eq_true_iff]

variable {list}

theorem restricts_of_namesAny (named : NamesAny list) : Restricts list := by
  intro σ disk state words run gives finding isFound
  rw [confines_of_names list run gives, List.mem_flatMap] at isFound
  obtain ⟨ust, isAdmitted, isFound⟩ := isFound
  obtain ⟨isTree, admitted⟩ := List.mem_filter.mp isAdmitted
  exact ⟨ust, isTree, of_decide_eq_true admitted named, isFound⟩

end Confined

end CommandLine

/-! ## A tree that is found under every name -/

/-- An exception that is caught and forgotten, as a document. -/
def Document.sampleHandler : Document where
  language := .java
  file := .unindexed "A.java" "try \x7b\x7d catch (E e) \x7b\x7d"
  nodes := #[
    ⟨.tryCatch ⟨1⟩ [⟨2⟩] none, ⟨0, 21⟩⟩,
    ⟨.block [], ⟨4, 2⟩⟩,
    ⟨.catchClause (some ⟨3⟩) (some ⟨4⟩) ⟨5⟩, ⟨7, 14⟩⟩,
    ⟨.typeToken "E", ⟨14, 1⟩⟩,
    ⟨.identifier "e", ⟨16, 1⟩⟩,
    ⟨.block [], ⟨19, 2⟩⟩]
  root := ⟨0⟩
  comments := []

namespace Ust

/-- The tree of the forgotten exception. -/
def sampleHandler : Ust where
  toDocument := { Document.sampleHandler with file := Document.sampleHandler.file.indexed }
  parents := some (parentTable Document.sampleHandler)

theorem ofDocument_sampleHandler : ofDocument Document.sampleHandler = .ok sampleHandler :=
  rfl

theorem ofText_sampleHandler : ofText Document.sampleHandler.render = .ok sampleHandler := by
  have floatless : Document.sampleHandler.toJson.hasFloat = false := rfl
  have reads := Document.ofText_render (Json.finiteFloats_of_hasFloat_eq_false floatless)
    (Json.floatsReadBack_of_hasFloat_eq_false floatless)
  rw [ofText_of_document reads, ofDocument_unindexed ofDocument_sampleHandler]
  rfl

end Ust

namespace Catalogue

theorem key_of_build {draft : RuleDraft} {rule : Rule}
    (built : draft.build.toOption = some rule) : rule.key = draft.key := by
  rw [RuleDraft.build_eq_map] at built
  cases read : draft.readWildcard with
  | error fault =>
      rw [read] at built
      cases built
  | ok wildcard =>
      rw [read] at built
      cases built
      rfl

/-- The built-in rule about exceptions that are caught and forgotten. -/
def emptyCatchRule : Rule :=
  (emptyCatch.get rfl).complete none

/-- No rule that is built in later takes the place of this one. -/
theorem get?_emptyCatchRule : builtin.get? emptyCatchRule.key = some emptyCatchRule := by
  have split : builtinRules =
      ([eventHandler, databaseHash, databaseRandom].filterMap id).filterMap
          (·.build.toOption) ++
        emptyCatchRule ::
          ([weakHash, hardcodedPassword].filterMap id).filterMap (·.build.toOption) := by
    have drafts : builtinDrafts = [eventHandler, databaseHash, databaseRandom].filterMap id ++
        emptyCatch.get rfl :: [weakHash, hardcodedPassword].filterMap id :=
      List.filterMap_append (l := [eventHandler, databaseHash, databaseRandom])
    rw [builtinRules, drafts, List.filterMap_append]
    rfl
  refine Built.builtin.follows.get?_eq_some_iff.mpr ⟨_, _, split, rfl, ?_⟩
  intro later isLater
  obtain ⟨draft, isDraft, built⟩ := List.mem_filterMap.mp isLater
  rw [key_of_build built]
  simp only [List.mem_filterMap, List.mem_cons, List.not_mem_nil, or_false, id,
    exists_eq_or_imp, exists_eq_left, weakHash, hardcodedPassword, Option.bind_eq_bind,
    Option.bind_eq_some_iff] at isDraft
  rcases isDraft with ⟨_, -, ⟨⟩⟩ | ⟨_, -, _, -, ⟨⟩⟩
  · exact (by decide : "weak-hash-invocation" ≠ "empty-catch-block")
  · exact (by decide : "hardcoded-password" ≠ "empty-catch-block")

end Catalogue

/-- What an active rule reports at a node of a tree is found in the tree. -/
theorem Scanner.mem_foundIn_of_reportAt? {scanner : Scanner} {ust : Ust} (rooted : ust.Rooted)
    (awake : scanner.shutdown = false) {id : NodeId}
    (isNode : id ∈ ust.root :: ust.descendants ust.root) {rule : Rule}
    (isActive : rule ∈ Search.active scanner.quarantine ust
      (scanner.catalogue.select ust.language scanner.settings.matching.ruleKeys))
    {finding : Finding}
    (isReport : Search.reportAt? scanner.settings.matching.options ust id rule = some finding) :
    finding ∈ scanner.foundIn ust := by
  have quiet : scanner.poll = .proceed := by
    rw [poll, awake]
    rfl
  rw [foundIn, Search.run_eq rooted fun _ => quiet]
  refine List.mem_append_left _ (List.mem_flatMap.mpr ⟨id, isNode, ?_⟩)
  exact List.mem_filterMap.mpr ⟨rule, isActive, isReport⟩

/-- The built-in rules find the exception from the root of its tree. -/
theorem Scanner.foundIn_sampleHandler_ne_nil {scanner : Scanner}
    (awake : scanner.shutdown = false) (unhurt : scanner.quarantine = {})
    (catalogue : scanner.catalogue = .builtin)
    (ruleKeys : scanner.settings.matching.ruleKeys = none)
    (options : scanner.settings.matching.options = {}) :
    scanner.foundIn .sampleHandler ≠ [] := by
  have isActive : Catalogue.emptyCatchRule ∈ Search.active scanner.quarantine .sampleHandler
      (scanner.catalogue.select .java scanner.settings.matching.ruleKeys) := by
    rw [unhurt, catalogue, ruleKeys]
    refine List.mem_filter.mpr ⟨?_, by decide⟩
    exact Catalogue.Built.builtin.follows.mem_select_iff.mpr
      ⟨Catalogue.get?_emptyCatchRule, by decide, nofun⟩
  have reported : (Search.reportAt? scanner.settings.matching.options .sampleHandler ⟨0⟩
      Catalogue.emptyCatchRule).isSome = true := by
    rw [options]
    decide
  obtain ⟨finding, isReport⟩ := Option.isSome_iff_exists.mp reported
  have rooted := Ust.rooted_of_ofDocument Ust.ofDocument_sampleHandler
  exact List.ne_nil_of_mem
    (mem_foundIn_of_reportAt? rooted awake List.mem_cons_self isActive isReport)

namespace CommandLine

/-- A disk with one file, the forgotten exception. -/
def sampleDisk : FileTree :=
  [("A.ust.json", .file Document.sampleHandler.render)]

/-- Words that ask to search the file with a list of languages. -/
def sampleWords (list : String) : List String :=
  ["--ust", "A.ust.json", "--" ++ "languages" ++ "=" ++ list]

theorem gives_sampleWords (list : String) : Gives (sampleWords list) "languages" list :=
  .inl (by simp [sampleWords])

theorem readSearch_sampleWords (list : String) :
    readSearch (sampleWords list) =
      .ok (.search ["A.ust.json"] [.languages (readLanguages list)]) := by
  -- The first two words leave an option open, and the third closes it.
  have front : ["--ust", "A.ust.json"].foldlM (Reading.readWord searchOptions) {} =
      .ok {
        pending := some ({ name := "ust", arity := .many, accepts := isPath }, ["A.ust.json"]) } :=
    rfl
  have characters : ("--" ++ "languages" ++ "=" ++ list).toList =
      '-' :: '-' :: ("languages".toList ++ '=' :: list.toList) := by
    simp
  have back : Reading.readWord searchOptions
      { pending := some ({ name := "ust", arity := .many, accepts := isPath }, ["A.ust.json"]) }
      ("--" ++ "languages" ++ "=" ++ list) =
        .ok { given := [("ust", ["A.ust.json"]), ("languages", [list])] } := by
    rw [Reading.readWord_of_hyphens rfl characters (by simp)]
    exact Reading.readName_assigned nodup_searchOptions languagesOption_mem (by decide)
      { given := [("ust", ["A.ust.json"])] } list
  have read : Reading.readAll searchOptions (sampleWords list) =
      .ok { given := [("ust", ["A.ust.json"]), ("languages", [list])] } := by
    rw [Reading.readAll, show sampleWords list = ["--ust", "A.ust.json"] ++ [_] from rfl,
      List.foldlM_append, front]
    change (Reading.readWord _ _ _ >>= pure) >>= Reading.close = _
    rw [bind_pure, back]
    rfl
  rw [readSearch, read]
  rfl

/-- The run that searches the file with the built-in rules and a list of languages. -/
def sampleRun (list : String) : SearchRun FileTree.disk sampleDisk (sampleWords list) where
  still := FileTree.still_disk sampleDisk
  base := {}
  inputs := ["A.ust.json"]
  changes := [.languages (readLanguages list)]
  asked := readSearch_sampleWords list
  valid := rfl
  scanner := {
    settings := { matching.languages := readLanguages list }
    catalogue := .builtin
    loadReport := { loaded := Catalogue.builtin.size } }
  loaded := rfl

theorem trees_sampleRun (list : String) : (sampleRun list).trees = [Ust.sampleHandler] := by
  have shape : FileTree.disk.shapeAt sampleDisk "A.ust.json" = some .file := by
    rw [FileTree.shapeAt_disk (by decide +kernel)]
    rfl
  have text : FileTree.disk.textAt sampleDisk "A.ust.json" =
      .ok Document.sampleHandler.render := by
    rw [FileTree.textAt_disk (by decide +kernel)]
    rfl
  have paths : (sampleRun list).paths = ["A.ust.json"] := by
    have inputs : (sampleRun list).inputs = ["A.ust.json"] := rfl
    rw [SearchRun.paths, inputs, foundFiles, List.flatMap_singleton, shape]
    simp [inputFiles, sortedPaths, dropRepeated]
  have tree : treeOf? (.ok Document.sampleHandler.render) = some Ust.sampleHandler := by
    rw [treeOf?, Except.toOption, Option.bind_some, Ust.ofText_sampleHandler]
    rfl
  rw [SearchRun.trees, paths, List.filterMap_cons, text, tree]
  rfl

/-- A list without a name of a known language lets the exception be found. -/
theorem findings_sampleRun_ne_nil {list : String} (unknown : ¬ NamesAny list) :
    (sampleRun list).summary.findings ≠ [] := by
  have found := confines_of_names list (sampleRun list) (gives_sampleWords list)
  simp only [unknown, false_implies, decide_true, List.filter_true, trees_sampleRun,
    List.flatMap_singleton] at found
  rw [found]
  exact Scanner.foundIn_sampleHandler_ne_nil rfl rfl (by rw [sampleRun]) rfl rfl

theorem namesAny_of_restricts {list : String} (restricts : Restricts list) : NamesAny list := by
  by_contra unknown
  obtain ⟨finding, isFound⟩ := List.exists_mem_of_ne_nil _ (findings_sampleRun_ne_nil unknown)
  obtain ⟨ust, -, ⟨name, isName, known⟩, -⟩ :=
    restricts (sampleRun list) (gives_sampleWords list) finding isFound
  exact unknown ⟨name, isName, known ▸ rfl⟩

/-- The option for languages restricts a search to the languages of its list exactly if
the list names a language that is known.  Unknown names, blanks and commas beside it
make no difference, nor do the languages of the settings.  If no name is known, the
option lets every language pass. -/
theorem languages_option_restricts_iff (list : String) :
    (Restricts list ↔ NamesAny list) ∧
      Confines list fun language => NamesAny list → Names list language :=
  ⟨⟨namesAny_of_restricts, restricts_of_namesAny⟩, confines_of_names list⟩

/-- Asked for a language that is not known, a search reports a tree of another one. -/
theorem not_restricts_cobol :
    ¬ NamesAny "cobol" ∧ (sampleRun "cobol").summary.findings ≠ [] ∧ ¬ Restricts "cobol" := by
  have parts : commaList "cobol" = ["cobol"] := by
    rw [commaList, splitOn_eq_map_splitOn ',' rfl]
    decide
  have unknown : ¬ NamesAny "cobol" := by
    rw [NamesAny, parts]
    decide
  exact ⟨unknown, findings_sampleRun_ne_nil unknown, mt namesAny_of_restricts unknown⟩

end CommandLine

end TreeSieve
