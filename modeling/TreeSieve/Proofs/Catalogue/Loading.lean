import TreeSieve.Proofs.Catalogue.Reload

/-!
# Bad records are left out

Loading takes a list of values in two passes: values that are no objects are set
aside, and of the records that remain those that describe no rule.  What comes of
it is as if only the good values had been there, in their order; each of the others
is counted and has its own message.
-/

namespace TreeSieve

open Json (Draft)

/-! ## Reports -/

namespace LoadReport

/-- A report of `total` records, of which `built` became rules.  Every other one
has a message. -/
structure Accounts (report : LoadReport) (built total : Nat) : Prop where
  loaded_eq : report.loaded = built
  total_eq : report.loaded + report.skipped = total
  errors_eq : report.errors.length = report.skipped

theorem Accounts.append {first second : LoadReport} {built otherBuilt total otherTotal : Nat}
    (accounts : first.Accounts built total) (others : second.Accounts otherBuilt otherTotal) :
    (first.append second).Accounts (otherBuilt + built) (otherTotal + total) := by
  rcases accounts with ⟨rfl, rfl, errorsEq⟩
  rcases others with ⟨rfl, rfl, otherErrorsEq⟩
  refine ⟨Nat.add_comm _ _, ?_, ?_⟩
  · rw [LoadReport.append, Nat.add_add_add_comm, Nat.add_comm]
  · rw [LoadReport.append, List.length_append, errorsEq, otherErrorsEq]

theorem accounts_loaded : Accounts { loaded := 1 } 1 1 :=
  ⟨rfl, rfl, rfl⟩

theorem accounts_skipped (message : String) :
    Accounts { skipped := 1, errors := [message] } 0 1 :=
  ⟨rfl, rfl, rfl⟩

end LoadReport

namespace Catalogue

variable {snippets : Option SnippetReader}

/-- The rule that a value describes: the value is an object, and its record can be
made into a rule. -/
def ruleOf? (snippets : Option SnippetReader) : Json → Option Rule
  | .object members => ((Record.ofFields (Json.lookup? members)).toRule snippets).toOption
  | _ => none

theorem ruleOf?_eq (value : Json) :
    ruleOf? snippets value =
      (Record.ofJson value).toOption.bind fun record => (record.toRule snippets).toOption := by
  cases value <;> rfl

/-! ## The two passes -/

theorem readRecords_fst (index : Nat) (values : List Json) :
    (readRecords index values).1 =
      values.filterMap fun value => (Record.ofJson value).toOption := by
  induction values generalizing index with
  | nil => rfl
  | cons value rest ih =>
      rw [readRecords, List.filterMap_cons, ← ih (index + 1)]
      cases Record.ofJson value <;> rfl

theorem accounts_readRecords (index : Nat) (values : List Json) :
    ∃ unread, (readRecords index values).2.Accounts 0 unread ∧
      (readRecords index values).1.length + unread = values.length := by
  induction values generalizing index with
  | nil => exact ⟨0, ⟨rfl, rfl, rfl⟩, rfl⟩
  | cons value rest ih =>
      rcases ih (index + 1) with ⟨unread, accounts, total⟩
      rw [readRecords, List.length_cons, ← total]
      cases Record.ofJson value with
      | ok record => exact ⟨unread, accounts, Nat.succ_add _ _⟩
      | error reason =>
          exact ⟨unread + 1, (LoadReport.accounts_skipped _).append accounts, rfl⟩

theorem addRecords_fst (catalogue : Catalogue) (records : List Record) :
    (catalogue.addRecords snippets records).1 =
      catalogue.addAll (records.filterMap fun record => (record.toRule snippets).toOption) := by
  induction records generalizing catalogue with
  | nil => rfl
  | cons record rest ih =>
      rw [addRecords, List.filterMap_cons]
      cases record.toRule snippets with
      | ok rule => exact ih (catalogue.add rule)
      | error failure => exact ih catalogue

theorem accounts_addRecords (catalogue : Catalogue) (records : List Record) :
    (catalogue.addRecords snippets records).2.Accounts
      (records.filterMap fun record => (record.toRule snippets).toOption).length
      records.length := by
  induction records generalizing catalogue with
  | nil => exact ⟨rfl, rfl, rfl⟩
  | cons record rest ih =>
      rw [addRecords, List.filterMap_cons]
      cases record.toRule snippets with
      | ok rule => exact LoadReport.accounts_loaded.append (ih (catalogue.add rule))
      | error failure => exact (LoadReport.accounts_skipped _).append (ih catalogue)

/-! ## Values -/

theorem filterMap_ruleOf? (values : List Json) :
    values.filterMap (ruleOf? snippets) =
      (values.filterMap fun value => (Record.ofJson value).toOption).filterMap
        fun record => (record.toRule snippets).toOption := by
  rw [List.filterMap_filterMap]
  exact congrArg (values.filterMap ·) (funext ruleOf?_eq)

theorem addValues_fst (catalogue : Catalogue) (values : List Json) :
    (catalogue.addValues snippets values).1 =
      catalogue.addAll (values.filterMap (ruleOf? snippets)) := by
  rw [filterMap_ruleOf?, ← readRecords_fst 0]
  exact addRecords_fst catalogue _

theorem accounts_addValues (catalogue : Catalogue) (values : List Json) :
    (catalogue.addValues snippets values).2.Accounts
      (values.filterMap (ruleOf? snippets)).length values.length := by
  rcases accounts_readRecords 0 values with ⟨unread, accounts, total⟩
  rw [filterMap_ruleOf?, ← readRecords_fst 0, ← total]
  exact accounts.append (accounts_addRecords catalogue _)

theorem exists_record_iff {value : Json} :
    (∃ record, Record.ofJson value = .ok record) ↔ ∃ members, value = .object members := by
  cases value <;> simp [Record.ofJson]

/-! ## Texts -/

theorem mapM_readJson_eq_ok_iff {levels : Nat} {items : List Draft} {values : List Json} :
    items.mapM (Draft.readJson levels) = .ok values ↔
      Draft.itemsToJson? levels items = some values := by
  induction items generalizing values with
  | nil => simp [Draft.itemsToJson?, pure, Except.pure]
  | cons item items ih =>
      simp only [List.mapM_cons, Json.bind_eq_ok_iff, Json.readJson_eq_ok_iff, ih,
        Draft.itemsToJson?, Option.bind_eq_bind, Option.bind_eq_some_iff]
      simp [pure, Except.pure]

/-- The values of a text are the items of the array that the text is. -/
theorem readValues_eq_ok_iff {text : String} {values : List Json} :
    readValues text = .ok values ↔ Json.parse text = .ok (.array values) := by
  rw [readValues, Json.readText_eq_ok_iff, Json.parse_eq_ok_iff]
  apply and_congr_left
  intro _
  cases (Json.draftOf text).draft with
  | array items =>
      have completed : (Draft.array items).toJson? Draft.maxDepth =
          (Draft.itemsToJson? (Draft.maxDepth - 1) items).map .array := by
        rw [Draft.maxDepth, Draft.toJson?]
      rw [Draft.readList, mapM_readJson_eq_ok_iff, completed]
      simp
  | _ => simp [Draft.readList, Draft.toJson?, Draft.maxDepth]

/-- A text without an array cannot be read. -/
theorem exists_fault_of_no_array {text : String}
    (noArray : ∀ values, Json.parse text ≠ .ok (.array values)) :
    ∃ fault, readValues text = .error fault := by
  cases reads : readValues text with
  | ok values => exact (noArray values (readValues_eq_ok_iff.mp reads)).elim
  | error fault => exact ⟨fault, rfl⟩

/-- Bad records are left out and do no harm to the others, whatever the catalogue,
the reader of snippets and the values.  The catalogue ends with the rules of those
values that describe one added in their order.  Their number is reported as loaded
and that of all others as skipped, each of these with a message.  A value is read as
a record exactly if it is an object, whatever is in it.  A value that is skipped may be
taken out or put in anywhere without a change to the catalogue or to the number of
rules loaded.  And a text is loaded exactly if it is a JSON array; any other is an
error and leaves the catalogue at hand as it was. -/
theorem addValues_isolates_bad_records (snippets : Option SnippetReader)
    (catalogue : Catalogue) :
    (∀ values : List Json,
      (catalogue.addValues snippets values).1 =
          catalogue.addAll (values.filterMap (ruleOf? snippets)) ∧
        (catalogue.addValues snippets values).2.loaded =
          (values.filterMap (ruleOf? snippets)).length ∧
        (catalogue.addValues snippets values).2.loaded +
            (catalogue.addValues snippets values).2.skipped = values.length ∧
        (catalogue.addValues snippets values).2.errors.length =
          (catalogue.addValues snippets values).2.skipped) ∧
    (∀ value : Json,
      (∃ record, Record.ofJson value = .ok record) ↔ ∃ members, value = .object members) ∧
    (∀ (before after : List Json) (value : Json), ruleOf? snippets value = none →
      (catalogue.addValues snippets (before ++ value :: after)).1 =
          (catalogue.addValues snippets (before ++ after)).1 ∧
        (catalogue.addValues snippets (before ++ value :: after)).2.loaded =
          (catalogue.addValues snippets (before ++ after)).2.loaded) ∧
    (∀ (text : String) (values : List Json), Json.parse text = .ok (.array values) →
      catalogue.load snippets text = .ok (catalogue.addValues snippets values)) ∧
    ∀ text : String, (∀ values, Json.parse text ≠ .ok (.array values)) →
      ∃ failure, catalogue.load snippets text = .error failure ∧
        ((loadText snippets text).run.run catalogue).run = (.error failure, catalogue) := by
  refine ⟨?_, ?_, ?_, ?_, ?_⟩
  · intro values
    have accounts : (catalogue.addValues snippets values).2.Accounts _ _ :=
      accounts_addValues catalogue values
    exact ⟨addValues_fst catalogue values, accounts.loaded_eq, accounts.total_eq,
      accounts.errors_eq⟩
  · intro value
    exact exists_record_iff
  · intro before after value skipped
    have sameRules : (before ++ value :: after).filterMap (ruleOf? snippets) =
        (before ++ after).filterMap (ruleOf? snippets) := by
      rw [List.filterMap_append, List.filterMap_append, List.filterMap_cons_none skipped]
    rw [addValues_fst, addValues_fst, (accounts_addValues _ _).loaded_eq,
      (accounts_addValues _ _).loaded_eq, sameRules]
    exact ⟨rfl, rfl⟩
  · intro text values isArray
    exact load_of_readValues (readValues_eq_ok_iff.mpr isArray) catalogue
  · intro text noArray
    obtain ⟨fault, fails⟩ := exists_fault_of_no_array noArray
    exact ⟨_, load_of_fault fails catalogue, run_loadText_of_fault fails catalogue⟩

/-- An object without a key before a snippet does not keep it from being loaded, and
a text without an array is an error. -/
theorem addValues_isolates_sampleSnippet :
    ruleOf? (some quoteSnippet) (.object []) = none ∧
      (addValues (some quoteSnippet) {} [.object [], sampleSnippet]).1.keys = ["quote"] ∧
      (addValues (some quoteSnippet) {} [.object [], sampleSnippet]).2.loaded = 1 ∧
      ∃ failure, load (some quoteSnippet) {} "null" = .error failure ∧
        ((loadText (some quoteSnippet) "null").run.run {}).run = (.error failure, {}) := by
  rcases addValues_isolates_bad_records (some quoteSnippet) {} with ⟨-, -, without, -, fails⟩
  have skipped : ruleOf? (some quoteSnippet) (.object []) = none := rfl
  rcases without [] [sampleSnippet] (.object []) skipped with ⟨sameCatalogue, sameLoaded⟩
  refine ⟨skipped, ?_, ?_, fails "null" ?_⟩
  · rw [List.nil_append] at sameCatalogue
    rw [sameCatalogue]
    rfl
  · rw [List.nil_append] at sameLoaded
    rw [sameLoaded]
    rfl
  · intro values isArray
    have isNull : Json.parse "null" = .ok .null := rfl
    rw [isNull] at isArray
    cases isArray

end Catalogue

end TreeSieve
