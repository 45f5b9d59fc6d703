import TreeSieve.Proofs.Catalogue.Reload

/-!
# Reading written records

Every object can be read as a record, and every record can be written.  What is
written says of a record all but one thing: a list of languages that is empty
because every language in it was unknown is written like one that was left out,
and that stands for all languages with patterns.

So a record is read again as itself unless its object named languages and knew
none of them.  Such a record is no rule; once written, it may be read as one.

A record that is a rule is also the record of that rule, but for a snippet without
text: its rule gets the text of the pattern that the snippet was read as, and with it
another format.
-/

namespace TreeSieve

open Json (Draft Read)

/-- A list has no language in the set that is made of it only if it is empty. -/
theorem LanguageSet.isEmpty_ofList_iff {languages : List Language} :
    (ofList languages).isEmpty = true ↔ languages = [] := by
  rw [isEmpty, ofList, List.isEmpty_iff, List.filter_eq_nil_iff]
  constructor
  · intro absent
    refine List.eq_nil_iff_forall_not_mem.mpr fun language member => ?_
    exact absent language language.mem_all (List.contains_iff_mem.mpr member)
  · rintro rfl language -
    simp

namespace Record

/-! ## Languages -/

/-- Whether an object names languages and none of them is known. -/
def NamesUnknown (members : List (String × Json)) : Prop :=
  languageNames (Json.lookup? members "Languages") ≠ [] ∧
    ∀ name ∈ languageNames (Json.lookup? members "Languages"),
      name.bind Language.ofName? = none

theorem isEmpty_readLanguages_iff {value : Option Json} :
    (readLanguages value).isEmpty = true ↔
      languageNames value ≠ [] ∧
        ∀ name ∈ languageNames value, name.bind Language.ofName? = none := by
  unfold readLanguages
  split
  · rename_i unnamed
    rw [unnamed]
    exact iff_of_false (by decide) fun named => named.1 rfl
  · rename_i named
    rw [LanguageSet.isEmpty_ofList_iff, List.filterMap_eq_nil_iff]
    exact ⟨fun unknown => ⟨named, unknown⟩, fun both => both.2⟩

/-! ## Reading again -/

/-- Read one member of a record in running text. -/
def readMember (levels : Nat) (found : List (String × Json)) (key : String) (value : Draft) :
    Read (List (String × Json)) := do
  if !fieldNames.contains key then
    value.skip
    return found
  else if found.any (·.1 == key) then throw (.duplicateField key)
  else
    let value ← value.readJson levels
    return found ++ [(key, value)]

/-- Members that a record has, none of them twice, are read one behind the other. -/
theorem foldMembers_readMember {levels : Nat} {before members : List (String × Json)}
    (named : ∀ member ∈ members, member.1 ∈ fieldNames)
    (distinct : ((before ++ members).map Prod.fst).Nodup)
    (shallow : ∀ member ∈ members, member.2.depth ≤ levels) :
    Draft.foldMembers (readMember levels) before (Draft.ofMembers members) =
      .ok (before ++ members) := by
  induction members generalizing before with
  | nil => rw [Draft.ofMembers, Draft.foldMembers, List.append_nil]
  | cons member members ih =>
      obtain ⟨key, value⟩ := member
      rw [List.forall_mem_cons] at named shallow
      have known : fieldNames.contains key = true := List.contains_iff_mem.mpr named.1
      have fresh : before.any (·.1 == key) = false := by
        rw [List.map_append, List.nodup_append] at distinct
        rw [List.any_eq_false]
        intro other member same
        exact distinct.2.2 _ (List.mem_map_of_mem member) key List.mem_cons_self
          (eq_of_beq same)
      have step : readMember levels before key (.ofJson value) =
          .ok (before ++ [(key, value)]) := by
        rw [readMember, known, fresh, Json.readJson_ofJson shallow.1]
        rfl
      have later := @ih (before ++ [(key, value)]) named.2 (by simpa using distinct) shallow.2
      rw [List.append_assoc, List.singleton_append] at later
      rw [Draft.ofMembers, Draft.foldMembers, step]
      exact later

/-- Members that are all those of a record are read in running text as they are read
from a value. -/
theorem ofDraft_ofJson_object {members : List (String × Json)}
    (keys : members.map Prod.fst = fieldNames)
    (shallow : (Json.object members).depth ≤ Draft.maxDepth) :
    ofDraft (.ofJson (.object members)) = .ok (ofFields (Json.lookup? members)) := by
  have named : ∀ member ∈ members, member.1 ∈ fieldNames := fun member isMember =>
    keys ▸ List.mem_map_of_mem isMember
  have distinct : (([] ++ members).map Prod.fst).Nodup := by
    rw [List.nil_append, keys]
    decide
  have found : readMembers (Draft.maxDepth - 1) (Draft.ofMembers members) = .ok members :=
    foldMembers_readMember named distinct (Json.depth_object_le_iff.mp shallow)
  rw [Draft.ofJson, ofDraft, found]
  rfl

/-- Whether it is read from its text or from its value, a written record comes back
but for its languages. -/
theorem ofText_render (record : Record) : ofText record.toJson.render = .ok record.reread := by
  have shallow : record.toJson.depth ≤ Draft.maxDepth :=
    Nat.le_trans record.depth_toJson_le (by decide)
  have fields := Except.ok.inj record.ofJson_toJson_eq_reread
  rw [ofText, Json.readText_render _ record.readable_toJson]
  exact (ofDraft_ofJson_object rfl shallow).trans (congrArg Except.ok fields)

theorem parse_render (record : Record) :
    Json.parse record.toJson.render = .ok record.toJson :=
  Json.parse_write record.readable_toJson (Nat.le_trans record.depth_toJson_le (by decide))

/-- A record without languages is no rule. -/
theorem exists_fault_of_isEmpty {record : Record} (unnamed : record.languages.isEmpty = true)
    (snippets : Option SnippetReader) : ∃ fault, record.build snippets = .error fault := by
  cases built : record.build snippets with
  | error fault => exact ⟨fault, rfl⟩
  | ok rule =>
      have named := (build_eq_ok_iff.mp built).2.1
      rw [unnamed] at named
      contradiction

/-- Every object is read as a record.  If it names no language, or one that is known,
the record is read again as itself, from its text and from its value.  If it names
languages and none of them is known, the record is no rule, and it is read again as
another one, which is meant for all languages with patterns. -/
theorem ofText_render_eq_iff_known (members : List (String × Json)) :
    ∃ record, ofJson (.object members) = .ok record ∧
      Json.parse record.toJson.render = .ok record.toJson ∧
        (¬ NamesUnknown members →
          ofText record.toJson.render = .ok record ∧ ofJson record.toJson = .ok record) ∧
          (NamesUnknown members →
            (∀ snippets, ∃ fault, record.build snippets = .error fault) ∧
              ∃ again, again = { record with languages := .patternLanguages } ∧
                again ≠ record ∧ ofText record.toJson.render = .ok again ∧
                  ofJson record.toJson = .ok again) := by
  refine ⟨ofFields (Json.lookup? members), rfl, parse_render _, ?_, ?_⟩
  · intro known
    have named : (ofFields (Json.lookup? members)).languages.isEmpty = false :=
      Bool.eq_false_iff.mpr fun empty => known (isEmpty_readLanguages_iff.mp empty)
    have same := reread_eq_self_iff.mpr named
    constructor
    · rw [ofText_render, same]
    · rw [ofJson_toJson_eq_reread, same]
  · intro unknown
    have empty : (ofFields (Json.lookup? members)).languages.isEmpty = true :=
      isEmpty_readLanguages_iff.mpr unknown
    have again : (ofFields (Json.lookup? members)).reread =
        { ofFields (Json.lookup? members) with languages := .patternLanguages } := by
      rw [reread, if_pos empty]
    have other : (ofFields (Json.lookup? members)).reread ≠ ofFields (Json.lookup? members) := by
      intro same
      rw [reread_eq_self_iff.mp same] at empty
      contradiction
    exact ⟨exists_fault_of_isEmpty empty, _, again, other, ofText_render _,
      ofJson_toJson_eq_reread _⟩

/-- The members of an object that names a language nobody knows. -/
def sampleMembers : List (String × Json) :=
  [ ("Key", .string "k"),
    ("Languages", .array [.string "klingon"]),
    ("Value", .string Pattern.any.render) ]

/-- The record that is read from them. -/
def sampleUnknown : Record where
  key := "k"
  name := ""
  languages := .empty
  wildcard := ""
  value := Pattern.any.render
  cwe := ""
  description := ""
  format := .json

theorem ofJson_sampleMembers : ofJson (.object sampleMembers) = .ok sampleUnknown :=
  rfl

/-- Once it is meant for all languages, the sample is a rule. -/
theorem exists_toRule_reread_sampleUnknown :
    ∃ rule, sampleUnknown.reread.toRule none = .ok rule := by
  have floatless : Pattern.any.toJson.hasFloat = false := rfl
  have reads : Pattern.ofText Pattern.any.render = .ok .any :=
    Pattern.ofText_render (Json.finiteFloats_of_hasFloat_eq_false floatless)
      (Json.floatsReadBack_of_hasFloat_eq_false floatless) (by decide)
  have pattern : sampleUnknown.reread.readPattern none = .ok .any :=
    congrArg (Except.mapError RuleFault.unreadablePattern) reads
  have built := build_eq_ok_iff.mpr
    ⟨by decide, rfl, .any, pattern, RuleDraft.build_eq_ok_iff.mpr ⟨none, rfl, rfl⟩⟩
  exact ⟨_, Catalogue.toRule_eq_ok_iff.mpr built⟩

/-- A trip in two steps.  What is read from the object with the unknown language is no rule;
what is read from the text that is written for it is another record, and is a rule. -/
theorem not_reread_sampleUnknown :
    ofJson (.object sampleMembers) = .ok sampleUnknown ∧
      sampleUnknown.toRule none = .error (.ruleLoad "k" .noKnownLanguage) ∧
        ∃ again, ofText sampleUnknown.toJson.render = .ok again ∧ again ≠ sampleUnknown ∧
          ∃ rule, again.toRule none = .ok rule := by
  have other : sampleUnknown.reread ≠ sampleUnknown := by
    rw [ne_eq, reread_eq_self_iff]
    decide
  exact ⟨ofJson_sampleMembers, rfl, _, ofText_render _, other, exists_toRule_reread_sampleUnknown⟩

/-! ## Records of rules -/

section Rules

variable {snippets : Option SnippetReader} {record : Record} {rule : Rule}

/-- A wildcard and a weakness that a record does not name are not named by its rule
either. -/
theorem ofRule_complete {pattern : Pattern} {wildcard : Option Wildcard}
    (named : record.languages.isEmpty = false)
    (admitted : (record.draft pattern).readWildcard = .ok wildcard) :
    ofRule ((record.draft pattern).complete wildcard) =
      { record with
        value := if record.value = "" then pattern.render else record.value
        format := if record.value = "" then .json else record.format } := by
  have wildcardEq : (wildcard.map Wildcard.text).getD "" = record.wildcard := by
    rw [RuleDraft.readWildcard_eq_ok_iff.mp admitted]
    by_cases blank : record.wildcard = ""
    · simp [draft, Option.filter_some, blank]
    · simp [draft, Option.filter_some, blank]
  have cweEq : (record.draft pattern).cwe.getD "" = record.cwe := by
    by_cases blank : record.cwe = ""
    · simp [draft, blank]
    · simp [draft, blank]
  have languagesEq : ((record.draft pattern).complete wildcard).languages = record.languages := by
    simp [draft, RuleDraft.complete, named]
  rw [ofRule, mk.injEq]
  exact ⟨rfl, rfl, languagesEq, wildcardEq, rfl, cweEq, rfl, rfl⟩

/-- What a rule keeps of the record that describes it. -/
theorem ofRule_of_build (built : record.build snippets = .ok rule) :
    record.readPattern snippets = .ok rule.pattern ∧
      ofRule rule =
        { record with
          value := if record.value = "" then rule.pattern.render else record.value
          format := if record.value = "" then .json else record.format } := by
  obtain ⟨-, named, pattern, reads, drafted⟩ := build_eq_ok_iff.mp built
  obtain ⟨wildcard, admitted, rfl⟩ := RuleDraft.build_eq_ok_iff.mp drafted
  exact ⟨reads, ofRule_complete named admitted⟩

theorem ofRule_of_unwritten (unwritten : record.value = "")
    (built : record.build snippets = .ok rule) :
    ofRule rule = { record with value := rule.pattern.render, format := .json } := by
  have kept := (ofRule_of_build built).2
  rwa [if_pos unwritten, if_pos unwritten] at kept

theorem ofRule_eq_self_iff (built : record.build snippets = .ok rule) :
    ofRule rule = record ↔ record.value ≠ "" := by
  constructor
  · intro same unwritten
    have text := congrArg Record.value (ofRule_of_unwritten unwritten built)
    rw [same, unwritten] at text
    exact rule.pattern.render_ne_empty text.symm
  · intro written
    have kept := (ofRule_of_build built).2
    rwa [if_neg written, if_neg written] at kept

/-- The record of the rule that a record describes is that record, in every field,
exactly if the record has a text.  One without text is a snippet that the reader of
snippets takes; its rule is written down as the JSON of the pattern, and all but the
text and the format are the same. -/
theorem ofRule_toRule_eq_iff_written (built : record.toRule snippets = .ok rule) :
    (ofRule rule = record ↔ record.value ≠ "") ∧
      (record.value = "" →
        record.format = .code ∧
          (∃ read, snippets = some read ∧ read "" record.languages = .ok rule.pattern) ∧
            ofRule rule = { record with value := rule.pattern.render, format := .json }) := by
  have built := Catalogue.toRule_eq_ok_iff.mp built
  constructor
  · exact ofRule_eq_self_iff built
  · intro unwritten
    obtain ⟨isCode, isRead⟩ := snippet_of_unwritten unwritten (ofRule_of_build built).1
    exact ⟨isCode, isRead, ofRule_of_unwritten unwritten built⟩

end Rules

/-- A reader that takes every snippet for a name. -/
def nameSnippet : SnippetReader := fun text _ => .ok (.idToken (trimmed text))

/-- A snippet for one language. -/
def sampleCode (text : String) : Record where
  key := "k"
  name := ""
  languages := .ofList [.java]
  wildcard := "*.java"
  value := text
  cwe := ""
  description := ""
  format := .code

theorem exists_toRule_sampleCode (text : String) :
    ∃ rule, (sampleCode text).toRule (some nameSnippet) = .ok rule := by
  have admitted : ((sampleCode text).draft (.idToken (trimmed text))).readWildcard =
      .ok (some ⟨"*.java", _, rfl⟩) :=
    RuleDraft.readWildcard_eq_ok_iff.mpr rfl
  have keyed : trimmed (sampleCode text).key ≠ "" := show trimmed "k" ≠ "" by decide
  have reads : (sampleCode text).readPattern (some nameSnippet) = .ok (.idToken (trimmed text)) :=
    rfl
  have built := build_eq_ok_iff.mpr
    ⟨keyed, rfl, _, reads, RuleDraft.build_eq_ok_iff.mpr ⟨_, admitted, rfl⟩⟩
  exact ⟨_, Catalogue.toRule_eq_ok_iff.mpr built⟩

theorem ofRule_toRule_sampleCode :
    ∃ rule, (sampleCode "eval").toRule (some nameSnippet) = .ok rule ∧
      ofRule rule = sampleCode "eval" := by
  obtain ⟨rule, built⟩ := exists_toRule_sampleCode "eval"
  exact ⟨rule, built, (ofRule_toRule_eq_iff_written built).1.mpr (by decide)⟩

/-- The rule of a snippet without text is written down as another record. -/
theorem ofRule_ne_sampleCode :
    ∃ rule, (sampleCode "").toRule (some nameSnippet) = .ok rule ∧
      ofRule rule ≠ sampleCode "" ∧ (ofRule rule).format = .json := by
  obtain ⟨rule, made⟩ := exists_toRule_sampleCode ""
  have built := Catalogue.toRule_eq_ok_iff.mp made
  refine ⟨rule, made, ?_, ?_⟩
  · intro same
    exact (ofRule_eq_self_iff built).mp same rfl
  · rw [ofRule_of_unwritten rfl built]

end Record

end TreeSieve
