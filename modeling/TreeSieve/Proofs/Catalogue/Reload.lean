import TreeSieve.Catalogue.Builtin
import TreeSieve.Proofs.Rule.RoundTrip

/-!
# Reloading a catalogue

A catalogue that came from the empty or the built-in one by loading texts can be
written and loaded again.  Each of its rules is what its own record describes, and
no two have the same key; both are kept by every rule that is added.
-/

namespace TreeSieve

open Json (Draft)

/-! ## Records as JSON -/

theorem Language.ofName?_tag (language : Language) : ofName? language.tag = some language := by
  cases language <;> rfl

theorem ValueFormat.ofName_name (format : ValueFormat) : ofName format.name = format := by
  cases format <;> rfl

theorem LanguageSet.ofList_members (set : LanguageSet) : ofList set.members = set := by
  obtain ⟨members, ordered⟩ := set
  rw [ofList, mk.injEq]
  exact ordered.symm

namespace Record

/-- Languages that are listed by their tags are read as themselves, but without any
all that have patterns are meant. -/
theorem readLanguages_tags (set : LanguageSet) :
    readLanguages (some (Json.strings set.tags)) =
      if set.isEmpty then .patternLanguages else set := by
  have names : languageNames (some (Json.strings set.tags)) =
      set.members.map fun language => some language.tag := by
    simp [languageNames, Json.strings, LanguageSet.tags]
  have known : (set.members.map fun language => some language.tag).filterMap
      (·.bind Language.ofName?) = set.members := by
    simp [List.filterMap_map, Language.ofName?_tag]
  rw [readLanguages, names, LanguageSet.isEmpty]
  cases members : set.members with
  | nil => rfl
  | cons language languages =>
      rw [members] at known
      change LanguageSet.ofList _ = set
      rw [known, ← members, LanguageSet.ofList_members]

/-- The record as it is read again once it has been written: without a language it
is meant for all that have patterns. -/
def reread (record : Record) : Record :=
  { record with
    languages := if record.languages.isEmpty then .patternLanguages else record.languages }

theorem reread_eq_self_iff {record : Record} :
    record.reread = record ↔ record.languages.isEmpty = false := by
  constructor
  · intro same
    have languages := congrArg (fun read => read.languages.isEmpty) same
    cases empty : record.languages.isEmpty with
    | false => rfl
    | true =>
        simp only [reread, empty, if_true] at languages
        contradiction
  · intro named
    simp [reread, named]

theorem ofJson_toJson_eq_reread (record : Record) : ofJson record.toJson = .ok record.reread := by
  have languages := readLanguages_tags record.languages
  have format := ValueFormat.ofName_name record.format
  change Except.ok (Record.mk record.key record.name
    (readLanguages (some (Json.strings record.languages.tags))) record.wildcard record.value
    record.cwe record.description (ValueFormat.ofName record.format.name)) = _
  rw [languages, format]
  rfl

/-- A written record with languages is read as itself. -/
theorem ofJson_toJson {record : Record} (named : record.languages.isEmpty = false) :
    ofJson record.toJson = .ok record := by
  rw [ofJson_toJson_eq_reread, reread_eq_self_iff.mpr named]

/-- The scalars of a record are texts. -/
theorem readable_toJson (record : Record) : record.toJson.Readable := by
  have isText : ∀ text : String, (Json.string text).AllLeaves Json.Legible := fun _ =>
    (Json.allLeaves_scalar rfl).mpr trivial
  have areTexts : (Json.strings record.languages.tags).AllLeaves Json.Legible := by
    rw [Json.strings, Json.allLeaves_array, List.forall_mem_map]
    exact fun text _ => isText text
  rw [Json.Readable, toJson, Json.allLeaves_object]
  simp only [List.forall_mem_cons]
  exact ⟨isText _, isText _, areTexts, isText _, isText _, isText _, isText _, isText _,
    List.forall_mem_nil _⟩

/-- A record is an object with one list in it. -/
theorem depth_toJson_le (record : Record) : record.toJson.depth ≤ 2 := by
  have scalar : ∀ text : String, (Json.string text).depth ≤ 1 := fun _ => Nat.zero_le 1
  have list : (Json.strings record.languages.tags).depth ≤ 1 :=
    Json.depth_array_le (List.forall_mem_map.mpr fun _ _ => Nat.le_refl 0)
  rw [toJson]
  apply Json.depth_object_le
  simp only [List.forall_mem_cons]
  exact ⟨scalar _, scalar _, list, scalar _, scalar _, scalar _, scalar _, scalar _,
    List.forall_mem_nil _⟩

end Record

/-! ## Wildcards -/

theorem Wildcard.ofText_eq_ok_iff {text : String} {wildcard : Wildcard} :
    ofText text = .ok wildcard ↔ wildcard.text = text := by
  constructor
  · intro reads
    unfold ofText at reads
    split at reads
    · cases reads
      rfl
    · contradiction
  · rintro rfl
    unfold ofText
    split
    · exact congrArg Except.ok (eq_of_text_eq rfl)
    · rename_i fault fails
      cases fails.symm.trans wildcard.parsed

/-- The wildcard that is read from a text is written as that text, and never as an
empty one. -/
theorem RuleDraft.readWildcard_eq_ok_iff {draft : RuleDraft} {wildcard : Option Wildcard} :
    draft.readWildcard = .ok wildcard ↔
      wildcard.map Wildcard.text = draft.wildcard.filter (· != "") := by
  unfold readWildcard
  cases draft.wildcard.filter (· != "") with
  | none => cases wildcard <;> simp
  | some text =>
      change (Wildcard.ofText text).map some = _ ↔ _
      rw [Json.map_eq_ok_iff, Option.map_eq_some_iff]
      simp only [Wildcard.ofText_eq_ok_iff]
      exact exists_congr fun read => and_comm.trans (and_congr_left fun _ => eq_comm)

/-! ## Rules and their records -/

variable {snippets : Option SnippetReader}

namespace Record

variable {record : Record} {rule : Rule}

theorem build_eq_ok_iff :
    record.build snippets = .ok rule ↔
      trimmed record.key ≠ "" ∧ record.languages.isEmpty = false ∧
        ∃ pattern, record.readPattern snippets = .ok pattern ∧
          (record.draft pattern).build = .ok rule := by
  rw [build]
  by_cases keyless : trimmed record.key = ""
  · simp [keyless, bind, Except.bind, throw, throwThe, MonadExceptOf.throw]
  by_cases unnamed : record.languages.isEmpty = true
  · simp [keyless, unnamed, bind, Except.bind, throw, throwThe, MonadExceptOf.throw]
  cases record.readPattern snippets with
  | error fault => simp [keyless, unnamed, bind, Except.bind]
  | ok pattern =>
      cases built : (record.draft pattern).build <;>
        simp [keyless, unnamed, built, bind, Except.bind, Except.mapError]

end Record

/-- A rule that its own record describes: nothing of it comes from a default that
the record would fill in otherwise. -/
structure Rule.Settled (snippets : Option SnippetReader) (rule : Rule) : Prop where
  keyed : trimmed rule.key ≠ ""
  named : rule.languages.isEmpty = false
  label : rule.label = if rule.name != "" then rule.name else rule.pattern.display
  written : rule.value ≠ ""
  wildcard : ∀ wildcard, rule.wildcard = some wildcard → wildcard.text ≠ ""
  cwe : rule.cwe ≠ some ""
  reads : (Record.ofRule rule).readPattern snippets = .ok rule.pattern

namespace Rule

theorem Settled.build_ofRule {rule : Rule} (settled : rule.Settled snippets) :
    (Record.ofRule rule).build snippets = .ok rule := by
  refine Record.build_eq_ok_iff.mpr ⟨settled.keyed, settled.named, rule.pattern, settled.reads,
    RuleDraft.build_eq_ok_iff.mpr ⟨rule.wildcard, RuleDraft.readWildcard_eq_ok_iff.mpr ?_, ?_⟩⟩
  · cases given : rule.wildcard with
    | none => simp [Record.draft, Record.ofRule, given, Option.filter_some]
    | some wildcard =>
        simp [Record.draft, Record.ofRule, given, Option.filter_some,
          settled.wildcard wildcard given]
  · obtain ⟨-, named, label, written, -, cwe, -⟩ := settled
    have cweEq : (if rule.cwe.getD "" = "" then none else some (rule.cwe.getD "")) = rule.cwe := by
      cases given : rule.cwe with
      | none => rfl
      | some text =>
          have present : text ≠ "" := fun blank => cwe (given.trans (congrArg some blank))
          exact if_neg present
    have languagesEq : (if rule.languages.isEmpty then .patternLanguages else rule.languages) =
        rule.languages := by
      simp [named]
    obtain ⟨key, name, _, languages, wildcard, pattern, value, format, cwe, description⟩ := rule
    exact (Rule.mk.injEq ..).mpr ⟨rfl, rfl, label.symm, languagesEq, rfl, rfl, if_neg written,
      if_neg written, cweEq, rfl⟩

/-- What is built from a draft without a label is settled if its pattern can be read
again. -/
theorem settled_complete {draft : RuleDraft} {wildcard : Option Wildcard}
    (keyed : trimmed draft.key ≠ "") (unlabelled : draft.label = "")
    (admitted : draft.readWildcard = .ok wildcard) (cwe : draft.cwe ≠ some "")
    (reads : (Record.ofRule (draft.complete wildcard)).readPattern snippets = .ok draft.pattern) :
    (draft.complete wildcard).Settled snippets where
  keyed := keyed
  named := by
    simp only [RuleDraft.complete]
    split
    · rfl
    · rename_i notEmpty
      exact Bool.eq_false_iff.mpr notEmpty
  label := if_neg (by simp [unlabelled])
  written := by
    simp only [RuleDraft.complete]
    split
    · exact draft.pattern.render_ne_empty
    · assumption
  wildcard := by
    rintro read rfl blank
    have given := RuleDraft.readWildcard_eq_ok_iff.mp admitted
    rw [Option.map_some, eq_comm, Option.filter_eq_some_iff, blank] at given
    simp at given
  cwe := cwe
  reads := reads

end Rule

theorem Record.readPattern_of_json {record : Record} (json : record.format = .json) :
    record.readPattern snippets = (Pattern.ofText record.value).mapError .unreadablePattern := by
  simp only [readPattern, json]

/-- What is built without a text is read from the text of its pattern. -/
theorem Record.readPattern_of_unwritten {draft : RuleDraft} {wildcard : Option Wildcard}
    (unwritten : draft.value = "")
    (own : Pattern.ofText draft.pattern.render = .ok draft.pattern) :
    (ofRule (draft.complete wildcard)).readPattern snippets = .ok draft.pattern := by
  have json : (draft.complete wildcard).format = .json := if_pos unwritten
  have text : (draft.complete wildcard).value = draft.pattern.render := if_pos unwritten
  rw [readPattern_of_json json, ofRule, text, own]
  rfl

/-- No text is no JSON, so a record without text is a snippet. -/
theorem Record.snippet_of_unwritten {record : Record} {pattern : Pattern}
    (unwritten : record.value = "") (reads : record.readPattern snippets = .ok pattern) :
    record.format = .code ∧
      ∃ read, snippets = some read ∧ read "" record.languages = .ok pattern := by
  cases format : record.format with
  | json =>
      rw [readPattern_of_json format, unwritten] at reads
      cases reads
  | code =>
      cases snippets with
      | none => simp [readPattern, format] at reads
      | some read => exact ⟨rfl, read, rfl, by simpa [readPattern, format, unwritten] using reads⟩

/-- Whether the patterns that a reader of snippets gives can be kept as text. -/
def PortableSnippets (snippets : Option SnippetReader) : Prop :=
  ∀ read, snippets = some read → ∀ text languages pattern, read text languages = .ok pattern →
    pattern.Portable ∧ pattern.toJson.FloatsReadBack

/-- The rule that a record describes is settled.  A snippet without text is kept as
the text of its pattern, which is why such patterns have to read back. -/
theorem Record.settled_of_build (portable : PortableSnippets snippets) {record : Record}
    {rule : Rule} (built : record.build snippets = .ok rule) : rule.Settled snippets := by
  obtain ⟨keyed, named, pattern, reads, built⟩ := build_eq_ok_iff.mp built
  obtain ⟨wildcard, admitted, rfl⟩ := RuleDraft.build_eq_ok_iff.mp built
  refine Rule.settled_complete keyed rfl admitted ?_ ?_
  · change (if record.cwe = "" then none else some record.cwe) ≠ some ""
    split
    · simp
    · simpa using ‹record.cwe ≠ ""›
  · by_cases unwritten : record.value = ""
    · apply readPattern_of_unwritten unwritten
      obtain ⟨-, read, isReader, gives⟩ := snippet_of_unwritten unwritten reads
      obtain ⟨⟨finite, shallow⟩, readsBack⟩ := portable read isReader _ _ _ gives
      exact Pattern.ofText_render finite readsBack shallow
    · simpa [ofRule, RuleDraft.complete, draft, readPattern, unwritten, named] using reads

/-! ## Rules of a catalogue -/

namespace Catalogue

theorem mem_insert {rule other : Rule} {rules : List Rule} (member : other ∈ insert rule rules) :
    other = rule ∨ other ∈ rules := by
  induction rules with
  | nil => exact .inl (List.mem_singleton.mp member)
  | cons first rules ih =>
      rw [insert] at member
      split at member
      · exact (List.mem_cons.mp member).imp_right (List.mem_cons_of_mem first)
      · rcases List.mem_cons.mp member with rfl | later
        · exact .inr List.mem_cons_self
        · exact (ih later).imp_right (List.mem_cons_of_mem first)

/-- A rule with a new key comes behind all others. -/
theorem insert_of_not_mem {rule : Rule} {rules : List Rule}
    (fresh : rule.key ∉ rules.map Rule.key) : insert rule rules = rules ++ [rule] := by
  induction rules with
  | nil => rfl
  | cons first rules ih =>
      rw [List.map_cons, List.mem_cons, not_or] at fresh
      rw [insert, if_neg (Ne.symm fresh.1), ih fresh.2, List.cons_append]

theorem nodup_insert {rules : List Rule} (distinct : (rules.map Rule.key).Nodup) (rule : Rule) :
    ((insert rule rules).map Rule.key).Nodup := by
  induction rules with
  | nil => simp [insert]
  | cons first rules ih =>
      rw [List.map_cons, List.nodup_cons] at distinct
      rw [insert]
      split
      · rename_i same
        rw [List.map_cons, List.nodup_cons, ← same]
        exact distinct
      · rename_i other
        rw [List.map_cons, List.nodup_cons]
        refine ⟨?_, ih distinct.2⟩
        intro member
        obtain ⟨later, isLater, keyEq⟩ := List.mem_map.mp member
        rcases mem_insert isLater with rfl | old
        · exact other keyEq.symm
        · exact distinct.1 (List.mem_map.mpr ⟨later, old, keyEq⟩)

/-- A catalogue whose rules are settled and have keys of their own. -/
structure Sound (snippets : Option SnippetReader) (catalogue : Catalogue) : Prop where
  distinct : catalogue.keys.Nodup
  settled : ∀ rule ∈ catalogue.rules, rule.Settled snippets

theorem sound_empty : Sound snippets {} :=
  ⟨List.nodup_nil, List.forall_mem_nil _⟩

theorem Sound.add {catalogue : Catalogue} (sound : catalogue.Sound snippets) {rule : Rule}
    (settled : rule.Settled snippets) : (catalogue.add rule).Sound snippets where
  distinct := nodup_insert sound.distinct rule
  settled other member := by
    rcases mem_insert member with rfl | old
    · exact settled
    · exact sound.settled other old

theorem Sound.addAll {catalogue : Catalogue} (sound : catalogue.Sound snippets)
    {rules : List Rule} (settled : ∀ rule ∈ rules, rule.Settled snippets) :
    (catalogue.addAll rules).Sound snippets := by
  induction rules generalizing catalogue with
  | nil => exact sound
  | cons rule rules ih =>
      rw [List.forall_mem_cons] at settled
      exact ih (sound.add settled.1) settled.2

theorem toRule_eq_ok_iff {record : Record} {rule : Rule} :
    record.toRule snippets = .ok rule ↔ record.build snippets = .ok rule := by
  rw [Record.toRule]
  cases record.build snippets <;> simp [Except.mapError]

theorem Sound.addRecords (portable : PortableSnippets snippets) {catalogue : Catalogue}
    (sound : catalogue.Sound snippets) (records : List Record) :
    (catalogue.addRecords snippets records).1.Sound snippets := by
  induction records generalizing catalogue with
  | nil => exact sound
  | cons record records ih =>
      rw [Catalogue.addRecords]
      cases found : record.toRule snippets with
      | error failure => exact ih sound
      | ok rule =>
          exact ih (sound.add (Record.settled_of_build portable (toRule_eq_ok_iff.mp found)))

theorem run_loadText_of_readValues {text : String} {values : List Json}
    (reads : readValues text = .ok values) (catalogue : Catalogue) :
    ((loadText snippets text).run.run catalogue).run =
      (.ok (catalogue.addValues snippets values).2, (catalogue.addValues snippets values).1) := by
  rw [loadText, reads]
  rfl

/-- A text that is no array changes nothing. -/
theorem run_loadText_of_fault {text : String} {fault : Json.ReadError}
    (fails : readValues text = .error fault) (catalogue : Catalogue) :
    ((loadText snippets text).run.run catalogue).run =
      (.error (.serialization fault), catalogue) := by
  rw [loadText, fails]
  rfl

theorem load_of_readValues {text : String} {values : List Json}
    (reads : readValues text = .ok values) (catalogue : Catalogue) :
    catalogue.load snippets text = .ok (catalogue.addValues snippets values) := by
  rw [load, run_loadText_of_readValues reads]
  rfl

theorem load_of_fault {text : String} {fault : Json.ReadError}
    (fails : readValues text = .error fault) (catalogue : Catalogue) :
    catalogue.load snippets text = .error (.serialization fault) := by
  rw [load, run_loadText_of_fault fails]
  rfl

/-- Loading a text keeps a catalogue sound. -/
theorem Sound.load (portable : PortableSnippets snippets) {catalogue next : Catalogue}
    (sound : catalogue.Sound snippets) {text : String} {report : LoadReport}
    (loads : catalogue.load snippets text = .ok (next, report)) : next.Sound snippets := by
  cases reads : readValues text with
  | error fault =>
      rw [load_of_fault reads] at loads
      cases loads
  | ok values =>
      rw [load_of_readValues reads] at loads
      cases loads
      exact sound.addRecords portable _

/-! ## Built-in rules -/

/-- Whether a draft has neither label nor text and its pattern can be kept as text
and holds no float. -/
def isPlain (draft : RuleDraft) : Bool :=
  trimmed draft.key != "" && draft.label == "" && draft.value == "" && draft.cwe != some "" &&
    !draft.pattern.toJson.hasFloat && draft.pattern.toJson.depth ≤ Draft.maxDepth

theorem settled_of_isPlain {draft : RuleDraft} (plain : isPlain draft = true) {rule : Rule}
    (built : draft.build = .ok rule) : rule.Settled snippets := by
  simp only [isPlain, Bool.and_eq_true, bne_iff_ne, beq_iff_eq, Bool.not_eq_true',
    decide_eq_true_eq] at plain
  obtain ⟨⟨⟨⟨⟨keyed, unlabelled⟩, unwritten⟩, cwe⟩, floatless⟩, shallow⟩ := plain
  obtain ⟨wildcard, admitted, rfl⟩ := RuleDraft.build_eq_ok_iff.mp built
  have own := Pattern.ofText_render (Json.finiteFloats_of_hasFloat_eq_false floatless)
    (Json.floatsReadBack_of_hasFloat_eq_false floatless) shallow
  exact Rule.settled_complete keyed unlabelled admitted cwe
    (Record.readPattern_of_unwritten unwritten own)

theorem nameLike_eq_some_iff {source : String} {pattern : Pattern} :
    nameLike source = some pattern ↔
      ∃ regex, TextRegex.ofSource? source = some regex ∧ .idRegex regex = pattern :=
  Option.map_eq_some_iff

/-- The built-in rules are plain, whatever their regular expressions are. -/
theorem isPlain_builtinDrafts {draft : RuleDraft} (member : draft ∈ builtinDrafts) :
    isPlain draft = true := by
  simp only [builtinDrafts, List.mem_filterMap, List.mem_cons, List.not_mem_nil, or_false, id,
    exists_eq_or_imp, exists_eq_left, eventHandler, pageData, databaseHash, databaseRandom,
    emptyCatch, weakHash, hardcodedPassword, Option.bind_eq_bind, Option.bind_eq_some_iff,
    nameLike_eq_some_iff] at member
  rcases member with built | built | built | built | built | built
  · obtain ⟨_, ⟨handler, -, rfl⟩, _, ⟨_, ⟨word, -, rfl⟩, _, ⟨address, -, rfl⟩, _,
      ⟨location, -, rfl⟩, _, ⟨frame, -, rfl⟩, ⟨⟩⟩, ⟨⟩⟩ := built
    cbv
  · obtain ⟨_, ⟨name, -, rfl⟩, ⟨⟩⟩ := built
    cbv
  · obtain ⟨_, ⟨name, -, rfl⟩, ⟨⟩⟩ := built
    cbv
  · cases built
    cbv
  · obtain ⟨_, ⟨name, -, rfl⟩, ⟨⟩⟩ := built
    cbv
  · obtain ⟨_, ⟨name, -, rfl⟩, text, -, ⟨⟩⟩ := built
    cbv

theorem sound_builtin : builtin.Sound snippets := by
  apply sound_empty.addAll
  intro rule member
  obtain ⟨draft, isDraft, built⟩ := List.mem_filterMap.mp member
  cases result : draft.build with
  | error fault =>
      rw [result] at built
      cases built
  | ok found =>
      rw [result] at built
      cases built
      exact settled_of_isPlain (isPlain_builtinDrafts isDraft) result

/-! ## Loading what was written -/

/-- The catalogues that come of loading texts, one after the other, into the empty
or the built-in catalogue. -/
inductive Reached (snippets : Option SnippetReader) : Catalogue → Prop
  | empty : Reached snippets {}
  | builtin : Reached snippets builtin
  | load {catalogue next : Catalogue} {text : String} {report : LoadReport} :
      Reached snippets catalogue → catalogue.load snippets text = .ok (next, report) →
      Reached snippets next

theorem Reached.sound (portable : PortableSnippets snippets) {catalogue : Catalogue}
    (reached : Reached snippets catalogue) : catalogue.Sound snippets := by
  induction reached with
  | empty => exact sound_empty
  | builtin => exact sound_builtin
  | load _ loads ih => exact ih.load portable loads

/-- The values in a written array are those that were written. -/
theorem readValues_array {values : List Json} (readable : (Json.array values).Readable)
    (shallow : ∀ value ∈ values, value.depth ≤ Draft.maxDepth - 1) :
    readValues (Json.render (.array values)) = .ok values := by
  rw [readValues, Json.readText_render _ readable, Draft.ofJson, Json.ofItems_eq_map]
  exact Json.mapM_map_of_reads fun value member => Json.readJson_ofJson (shallow value member)

/-- The values in the text of a catalogue are its records. -/
theorem readValues_render (catalogue : Catalogue) :
    readValues catalogue.render = .ok (catalogue.records.map Record.toJson) := by
  apply readValues_array
  · rw [Json.Readable, Json.allLeaves_array, List.forall_mem_map]
    exact fun record _ => record.readable_toJson
  · rw [List.forall_mem_map]
    exact fun record _ => Nat.le_trans record.depth_toJson_le (by decide)

theorem readRecords_toJson {records : List Record}
    (named : ∀ record ∈ records, record.languages.isEmpty = false) (index : Nat) :
    readRecords index (records.map Record.toJson) = (records, {}) := by
  induction records generalizing index with
  | nil => rfl
  | cons record records ih =>
      rw [List.forall_mem_cons] at named
      rw [List.map_cons, readRecords, ih named.2, Record.ofJson_toJson named.1]

/-- Records of settled rules with new keys add these rules behind all others. -/
theorem addRecords_ofRule {rules before : List Rule}
    (settled : ∀ rule ∈ rules, rule.Settled snippets)
    (distinct : ((before ++ rules).map Rule.key).Nodup) :
    addRecords snippets ⟨before⟩ (rules.map Record.ofRule) =
      (⟨before ++ rules⟩, { loaded := rules.length }) := by
  induction rules generalizing before with
  | nil => simp [addRecords]
  | cons rule rules ih =>
      rw [List.forall_mem_cons] at settled
      have fresh : rule.key ∉ before.map Rule.key := by
        rw [List.map_append, List.nodup_append] at distinct
        exact fun member => distinct.2.2 _ member _ List.mem_cons_self rfl
      have built := toRule_eq_ok_iff.mpr settled.1.build_ofRule
      have added : add ⟨before⟩ rule = ⟨before ++ [rule]⟩ :=
        congrArg Catalogue.mk (insert_of_not_mem fresh)
      have later := @ih (before ++ [rule]) settled.2 (by simpa using distinct)
      simp only [List.map_cons, addRecords, built, added, later]
      simp [LoadReport.append, Nat.add_comm]

/-- A catalogue that came of loading texts can be written and loaded again: every
record gives its rule, and the rules are the same, in the same order. -/
theorem load_render_of_reached (portable : PortableSnippets snippets) {catalogue : Catalogue}
    (reached : Reached snippets catalogue) :
    load snippets {} catalogue.render = .ok (catalogue, { loaded := catalogue.size }) := by
  obtain ⟨distinct, settled⟩ := reached.sound portable
  have named : ∀ record ∈ catalogue.records, record.languages.isEmpty = false :=
    List.forall_mem_map.mpr fun rule member => (settled rule member).named
  have added : addRecords snippets {} catalogue.records =
      (catalogue, { loaded := catalogue.size }) :=
    @addRecords_ofRule snippets catalogue.rules [] settled distinct
  have values : addValues snippets {} (catalogue.records.map Record.toJson) =
      (catalogue, { loaded := catalogue.size }) := by
    simp [addValues, readRecords_toJson named, added, LoadReport.append]
  rw [load_of_readValues catalogue.readValues_render, values]

/-- A reader that takes every snippet for the text of a string. -/
def quoteSnippet : SnippetReader := fun text _ => .ok (.stringLiteral text)

/-- A snippet without text, whose rule is kept as the text of its pattern. -/
def sampleSnippet : Json :=
  .object [("Key", .string "quote"), ("DataFormat", .string "Code")]

theorem load_render_sampleSnippet :
    ∃ next report,
      builtin.load (some quoteSnippet) (Json.render (.array [sampleSnippet])) =
          .ok (next, report) ∧
        load (some quoteSnippet) {} next.render = .ok (next, { loaded := next.size }) := by
  have portable : PortableSnippets (some quoteSnippet) := by
    rintro _ ⟨⟩ text languages _ ⟨⟩
    have floatless : (Pattern.stringLiteral text).toJson.hasFloat = false := rfl
    exact ⟨⟨Json.finiteFloats_of_hasFloat_eq_false floatless, Nat.le_of_ble_eq_true rfl⟩,
      Json.floatsReadBack_of_hasFloat_eq_false floatless⟩
  have reads : readValues (Json.render (.array [sampleSnippet])) = .ok [sampleSnippet] := by
    apply readValues_array
    · intro leaf member
      simp only [sampleSnippet, Json.leaves, Json.leavesOfItems, Json.leavesOfMembers,
        List.append_nil, List.cons_append, List.nil_append, List.mem_cons, List.not_mem_nil,
        or_false] at member
      rcases member with rfl | rfl <;> trivial
    · simp [sampleSnippet, Json.depth, Json.depthOfMembers, Draft.maxDepth]
  have loads : builtin.load (some quoteSnippet) (Json.render (.array [sampleSnippet])) =
      .ok (builtin.addValues (some quoteSnippet) [sampleSnippet]) :=
    load_of_readValues reads builtin
  exact ⟨_, _, loads, load_render_of_reached portable (.load .builtin loads)⟩

end Catalogue

end TreeSieve
