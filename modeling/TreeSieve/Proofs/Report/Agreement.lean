import Mathlib.Data.List.Nodup
import TreeSieve.Proofs.Json.Tagged
import TreeSieve.Report.Basic

/-!
# What reports have in common

A report in SARIF and one in plain JSON name the members of their objects
differently and nest them differently.  `sarifRows` and `plainRows` read the same
off both: each finding with its key and all its places, in the order of the
findings.  The rules that a report in SARIF describes are told by their ids: the
keys of the findings, each of them once, in the order of first findings.
-/

namespace TreeSieve.Report

open Json (FitsWord)

/-! ## Keys in the order of first findings -/

theorem mem_firstKeys_iff {seen : List String} {findings : List Finding} {key : String} :
    key ∈ firstKeys seen findings ↔ key ∈ findings.map Finding.key ∧ key ∉ seen := by
  induction findings generalizing seen with
  | nil => simp [firstKeys]
  | cons finding rest ih =>
      rw [firstKeys]
      split
      · rename_i known
        rw [List.contains_iff_mem] at known
        rw [ih, List.map_cons, List.mem_cons]
        constructor
        · exact fun ⟨later, unseen⟩ => ⟨.inr later, unseen⟩
        · rintro ⟨rfl | later, unseen⟩
          · exact absurd known unseen
          · exact ⟨later, unseen⟩
      · rename_i fresh
        rw [List.contains_iff_mem] at fresh
        rw [List.mem_cons, ih, List.map_cons, List.mem_cons, List.mem_cons, not_or]
        constructor
        · rintro (rfl | ⟨later, -, unseen⟩)
          · exact ⟨.inl rfl, fresh⟩
          · exact ⟨.inr later, unseen⟩
        · rintro ⟨rfl | later, unseen⟩
          · exact .inl rfl
          · by_cases same : key = finding.key
            · exact .inl same
            · exact .inr ⟨later, same, unseen⟩

/-- One more key in front keeps the order of the places at which others first come. -/
theorem pairwise_idxOf_cons {first : String} {keys chosen : List String}
    (sorted : chosen.Pairwise fun earlier later => keys.idxOf earlier < keys.idxOf later)
    (others : ∀ key ∈ chosen, key ≠ first) :
    chosen.Pairwise fun earlier later =>
      (first :: keys).idxOf earlier < (first :: keys).idxOf later := by
  apply sorted.imp_of_mem
  intro earlier later isEarlier isLater before
  rw [List.idxOf_cons_ne _ (others earlier isEarlier).symm,
    List.idxOf_cons_ne _ (others later isLater).symm]
  exact Nat.succ_lt_succ before

theorem pairwise_firstKeys (seen : List String) (findings : List Finding) :
    (firstKeys seen findings).Pairwise fun earlier later =>
      (findings.map Finding.key).idxOf earlier < (findings.map Finding.key).idxOf later := by
  induction findings generalizing seen with
  | nil => exact .nil
  | cons finding rest ih =>
      rw [firstKeys, List.map_cons]
      split
      · rename_i known
        apply pairwise_idxOf_cons (ih seen)
        rintro key member rfl
        exact (mem_firstKeys_iff.mp member).2 (List.contains_iff_mem.mp known)
      · have others : ∀ key ∈ firstKeys (finding.key :: seen) rest, key ≠ finding.key := by
          rintro key member rfl
          exact (mem_firstKeys_iff.mp member).2 List.mem_cons_self
        refine List.pairwise_cons.mpr ⟨?_, pairwise_idxOf_cons (ih _) others⟩
        intro key member
        rw [List.idxOf_cons_self, List.idxOf_cons_ne _ (others key member).symm]
        exact Nat.succ_pos _

theorem nodup_firstKeys (seen : List String) (findings : List Finding) :
    (firstKeys seen findings).Nodup := by
  apply (pairwise_firstKeys seen findings).imp
  rintro key _ before rfl
  exact Nat.lt_irrefl _ before

/-! ## Reading reports -/

/-- The items of an array. -/
def items? : Json → Option (List Json)
  | .array items => some items
  | _ => none

/-- A text. -/
def text? : Json → Option String
  | .string text => some text
  | _ => none

/-- A natural number. -/
def number? : Json → Option Nat
  | .int value => if 0 ≤ value then some value.toNat else none
  | _ => none

/-- The value that names lead to, from object to object. -/
def follow? (names : List String) (value : Json) : Option Json :=
  names.foldlM Json.field? value

/-- Where a finding is: a span with its lines and columns. -/
structure Place where
  start : Nat
  length : Nat
  lines : LineColumns
  deriving DecidableEq

/-- The names under which a report keeps the numbers of a place. -/
structure PlaceNames where
  start : String
  length : String
  firstLine : String
  firstColumn : String
  lastLine : String
  lastColumn : String

/-- Read a place off an object. -/
def PlaceNames.read? (names : PlaceNames) (value : Json) : Option Place := do
  let number := fun name => (value.field? name).bind number?
  return {
    start := ← number names.start
    length := ← number names.length
    lines := {
      first := ⟨← number names.firstLine, ← number names.firstColumn⟩
      last := ⟨← number names.lastLine, ← number names.lastColumn⟩ } }

/-- The names in a report in plain JSON. -/
def plainNames : PlaceNames where
  start := "start"
  length := "length"
  firstLine := "begin_line"
  firstColumn := "begin_column"
  lastLine := "end_line"
  lastColumn := "end_column"

/-- The names in a report in SARIF. -/
def sarifNames : PlaceNames where
  start := "charOffset"
  length := "charLength"
  firstLine := "startLine"
  firstColumn := "startColumn"
  lastLine := "endLine"
  lastColumn := "endColumn"

/-- Read a finding: its key and its places. -/
def readRow? (keyName : String) (place? : Json → Option Place) (value : Json) :
    Option (String × List Place) := do
  let key ← (value.field? keyName).bind text?
  let locations ← (value.field? "locations").bind items?
  return (key, ← locations.mapM place?)

/-- The findings of a report in plain JSON. -/
def plainRows? (report : Json) : Option (List (String × List Place)) := do
  let results ← (report.field? "results").bind items?
  results.mapM (readRow? "pattern_key" plainNames.read?)

/-- The only run of a report in SARIF. -/
def sarifRun? (report : Json) : Option Json := do
  let runs ← (report.field? "runs").bind items?
  if runs.length = 1 then runs.head? else none

/-- Read a place off a location in SARIF. -/
def sarifPlace? (value : Json) : Option Place :=
  (follow? ["physicalLocation", "region"] value).bind sarifNames.read?

/-- The findings of a report in SARIF. -/
def sarifRows? (report : Json) : Option (List (String × List Place)) := do
  let results ← ((← sarifRun? report).field? "results").bind items?
  results.mapM (readRow? "ruleId" sarifPlace?)

/-- The id of a rule. -/
def ruleId? (rule : Json) : Option String :=
  (rule.field? "id").bind text?

/-- The ids of the rules that a report in SARIF describes. -/
def sarifRuleIds? (report : Json) : Option (List String) := do
  let rules ← (follow? ["tool", "driver", "rules"] (← sarifRun? report)).bind items?
  rules.mapM ruleId?

/-! ## What is read off reports -/

/-- What reports tell of a finding. -/
def row (finding : Finding) : String × List Place :=
  (finding.key, finding.spans.map fun span =>
    ⟨span.start.toNat, span.length.toNat, finding.file.lineColumns span⟩)

/-- Written items are read as what each of them is read as. -/
theorem mapM_map_eq_some {α β γ : Type} {read : β → Option γ} {write : α → β} {result : α → γ}
    (reads : ∀ item, read (write item) = some (result item)) (items : List α) :
    (items.map write).mapM read = some (items.map result) := by
  induction items with
  | nil => rfl
  | cons item items ih =>
      rw [List.map_cons, List.mapM_cons, reads, ih]
      rfl

theorem read?_locationToJson (file : SourceFile) (span : Span) :
    plainNames.read? (locationToJson file span) =
      some ⟨span.start.toNat, span.length.toNat, file.lineColumns span⟩ :=
  rfl

theorem sarifPlace?_sarifLocation (file : SourceFile) (span : Span) :
    sarifPlace? (sarifLocation file span) =
      some ⟨span.start.toNat, span.length.toNat, file.lineColumns span⟩ :=
  rfl

theorem readRow?_findingToJson (finding : Finding) :
    readRow? "pattern_key" plainNames.read? (findingToJson finding) = some (row finding) := by
  have places := mapM_map_eq_some (read?_locationToJson finding.file) finding.spans
  exact congrArg (Option.bind · fun places => some (finding.key, places)) places

theorem readRow?_sarifResult (rules : List Rule) (finding : Finding) :
    readRow? "ruleId" sarifPlace? (sarifResult rules finding) = some (row finding) := by
  have places := mapM_map_eq_some (sarifPlace?_sarifLocation finding.file) finding.spans
  exact congrArg (Option.bind · fun places => some (finding.key, places)) places

theorem ruleId?_sarifRule (rules : List Rule) (key : String) :
    ruleId? (sarifRule rules key) = some key := by
  rw [sarifRule]
  split
  · rfl
  · rename_i rule _
    by_cases undescribed : rule.description = "" <;> cases rule.cwe <;>
      simp [undescribed, ruleId?, Json.field?, Json.lookup?, text?]

section Rows

variable (rules : List Rule) (times : RunTimes) (summary : Summary)

theorem plainRows?_plainJson :
    plainRows? (plainJson times summary) = some (summary.findings.map row) :=
  mapM_map_eq_some readRow?_findingToJson summary.findings

theorem sarifRows?_sarifJson :
    sarifRows? (sarifJson rules times summary) = some (summary.findings.map row) :=
  mapM_map_eq_some (readRow?_sarifResult rules) summary.findings

theorem sarifRuleIds?_sarifJson :
    sarifRuleIds? (sarifJson rules times summary) = some (firstKeys [] summary.findings) := by
  have ids := mapM_map_eq_some (ruleId?_sarifRule rules) (firstKeys [] summary.findings)
  rw [List.map_id'] at ids
  exact ids

end Rows

/-! ## Reading the texts of reports -/

section Scalars

variable {holds : Json → Prop}

theorem allLeaves_string {text : String} :
    (Json.string text).AllLeaves holds ↔ holds (.string text) :=
  Json.allLeaves_scalar rfl

theorem allLeaves_bool {value : Bool} : (Json.bool value).AllLeaves holds ↔ holds (.bool value) :=
  Json.allLeaves_scalar rfl

theorem legible_nat_iff {number : Nat} :
    (Json.nat number).AllLeaves Json.Legible ↔ (Json.nat number).AllLeaves FitsWord := by
  rw [Json.allLeaves_scalar rfl, Json.allLeaves_scalar rfl]
  rfl

theorem legible_nat {number : Nat} (small : number < UInt64.size) :
    (Json.nat number).AllLeaves Json.Legible :=
  legible_nat_iff.mpr ((Json.allLeaves_scalar rfl).mpr (Json.fitsWord_natCast small))

theorem readable_strings (texts : List String) : (Json.strings texts).Readable := by
  simp [Json.Readable, Json.strings, Json.allLeaves_array, allLeaves_string, Json.Legible]

theorem readable_message (text : String) : (message text).Readable := by
  simp [Json.Readable, message, Json.allLeaves_object, allLeaves_string, Json.Legible]

end Scalars

section Readable

/-- The numbers of a place fit 64 bits. -/
theorem readable_location (file : SourceFile) (span : Span) :
    (locationToJson file span).Readable ∧ (sarifLocation file span).Readable := by
  have start := legible_nat span.start.toNat_lt_size
  have length := legible_nat span.length.toNat_lt_size
  have wrapped : ∀ number, (Json.nat (number % UInt64.size)).AllLeaves Json.Legible :=
    fun number => legible_nat (Nat.mod_lt number (by decide))
  constructor <;>
    simp_all [Json.Readable, locationToJson, sarifLocation, SourceFile.lineColumns,
      LineColumn.wrapped, Json.allLeaves_object, allLeaves_string, Json.Legible]

theorem readable_stats {stats : RunStats} (fits : (statsToJson stats).AllLeaves FitsWord) :
    (statsToJson stats).Readable ∧ (sarifStats stats).Readable := by
  constructor <;>
    simp_all [Json.Readable, statsToJson, sarifStats, Json.allLeaves_object, legible_nat_iff]

theorem readable_finding (rules : List Rule) (finding : Finding) :
    (findingToJson finding).Readable ∧ (sarifResult rules finding).Readable := by
  have places := readable_location finding.file
  have said := readable_message (findingText rules finding.key)
  constructor <;>
    simp_all [Json.Readable, findingToJson, sarifResult, Json.allLeaves_object,
      Json.allLeaves_array, allLeaves_string, Json.Legible]

theorem readable_sarifRule (rules : List Rule) (key : String) : (sarifRule rules key).Readable := by
  have messages := readable_message
  have texts := readable_strings
  rw [sarifRule]
  split
  · simp [Json.Readable, Json.allLeaves_object, allLeaves_string, Json.Legible]
  · rename_i rule _
    by_cases undescribed : rule.description = "" <;> cases rule.cwe <;>
      simp_all [Json.Readable, Json.allLeaves_object, allLeaves_string, Json.Legible]

end Readable

section Depth

theorem depth_array_map_le {α : Type} {write : α → Json} {levels : Nat}
    (shallow : ∀ item, (write item).depth ≤ levels) (items : List α) :
    (Json.array (items.map write)).depth ≤ levels + 1 :=
  Json.depth_array_le (List.forall_mem_map.mpr fun item _ => shallow item)

theorem depth_strings_le (texts : List String) : (Json.strings texts).depth ≤ 1 :=
  depth_array_map_le (fun _ => Nat.le_refl 0) texts

theorem depth_findingToJson_le (finding : Finding) : (findingToJson finding).depth ≤ 3 := by
  have places : (Json.array (finding.spans.map (locationToJson finding.file))).depth ≤ 2 :=
    depth_array_map_le (fun _ => Nat.le_refl 1) finding.spans
  simp only [findingToJson, Json.depth, Json.depthOfMembers] at places ⊢
  omega

theorem depth_sarifResult_le (rules : List Rule) (finding : Finding) :
    (sarifResult rules finding).depth ≤ 5 := by
  have places : (Json.array (finding.spans.map (sarifLocation finding.file))).depth ≤ 4 :=
    depth_array_map_le (fun _ => Nat.le_refl 3) finding.spans
  simp only [sarifResult, message, Json.depth, Json.depthOfMembers] at places ⊢
  omega

theorem depth_sarifRule_le (rules : List Rule) (key : String) :
    (sarifRule rules key).depth ≤ 3 := by
  rw [sarifRule]
  split
  · exact Nat.le_add_left 1 2
  · rename_i rule _
    by_cases undescribed : rule.description = "" <;> cases rule.cwe <;>
      simp [undescribed, message, Json.strings, Json.depth, Json.depthOfMembers,
        Json.depthOfItems]

variable (rules : List Rule) (times : RunTimes) (summary : Summary)

theorem depth_plainJson_le : (plainJson times summary).depth ≤ Json.Draft.maxDepth := by
  have results := depth_array_map_le depth_findingToJson_le summary.findings
  have errors := depth_strings_le summary.errors
  simp only [plainJson, statsToJson, Json.strings, Json.nat, Json.depth, Json.depthOfMembers,
    Json.Draft.maxDepth] at results errors ⊢
  omega

theorem depth_sarifJson_le : (sarifJson rules times summary).depth ≤ Json.Draft.maxDepth := by
  have results := depth_array_map_le (depth_sarifResult_le rules) summary.findings
  have described := depth_array_map_le (depth_sarifRule_le rules) (firstKeys [] summary.findings)
  have notifications : (Json.array (summary.errors.map sarifNotification)).depth ≤ 3 :=
    depth_array_map_le (fun _ => Nat.le_refl 2) summary.errors
  simp only [sarifJson, sarifRun, sarifStats, Json.nat, Json.depth, Json.depthOfMembers,
    Json.depthOfItems, Json.Draft.maxDepth] at results described notifications ⊢
  omega

end Depth

section Texts

variable (rules : List Rule) {times : RunTimes} {summary : Summary}

/-- Reports can be read back if the counts of the run fit 64 bits. -/
theorem readable_reports (fits : (statsToJson summary.stats).AllLeaves FitsWord) :
    (plainJson times summary).Readable ∧ (sarifJson rules times summary).Readable := by
  have findings := readable_finding rules
  have stats := readable_stats fits
  have described := readable_sarifRule rules
  have messages := readable_message
  have texts := readable_strings
  constructor
  · simp_all [Json.Readable, plainJson, Json.allLeaves_object, Json.allLeaves_array,
      allLeaves_string, Json.Legible]
  · simp_all [Json.Readable, sarifJson, sarifRun, sarifNotification, Json.allLeaves_object,
      Json.allLeaves_array, allLeaves_string, allLeaves_bool, Json.Legible]

/-- A report in SARIF and one in plain JSON of the same run tell the same, whatever rules
the first describes.  It describes one rule for each key that a finding has, in the order
of first findings, and no other rule; each of its findings refers to exactly one of them.
Off both reports the same is read: the findings of the run in their order, each with its
key and, for each of its spans, the start, the length and the lines and columns of both
ends.  What is read off are the texts of the reports wherever the counts of the run fit
64 bits; all other numbers of a report do. -/
theorem sarif_and_plain_agree (times : RunTimes) (summary : Summary) :
    let sarif := sarifJson rules times summary
    let plain := plainJson times summary
    let keys := summary.findings.map Finding.key
    (∃ ids, sarifRuleIds? sarif = some ids ∧ (∀ key, key ∈ ids ↔ key ∈ keys) ∧
        ids.Pairwise (fun earlier later => keys.idxOf earlier < keys.idxOf later) ∧
          ∀ key ∈ keys, ids.count key = 1) ∧
      sarifRows? sarif = some (summary.findings.map row) ∧
        plainRows? plain = sarifRows? sarif ∧
          ((statsToJson summary.stats).AllLeaves FitsWord →
            Json.parse ((Report.sarif rules).render times summary) = .ok sarif ∧
              Json.parse (Report.plain.render times summary) = .ok plain) := by
  intro sarif plain keys
  refine ⟨⟨_, sarifRuleIds?_sarifJson rules times summary, ?_, pairwise_firstKeys _ _, ?_⟩,
    sarifRows?_sarifJson rules times summary, ?_, ?_⟩
  · intro key
    rw [mem_firstKeys_iff]
    exact and_iff_left List.not_mem_nil
  · intro key member
    rw [List.count_eq_one_of_mem (nodup_firstKeys _ _)]
    exact mem_firstKeys_iff.mpr ⟨member, List.not_mem_nil⟩
  · exact (plainRows?_plainJson times summary).trans
      (sarifRows?_sarifJson rules times summary).symm
  · intro fits
    obtain ⟨plainReadable, sarifReadable⟩ := readable_reports rules fits
    exact ⟨Json.parse_write sarifReadable (depth_sarifJson_le rules times summary),
      Json.parse_write plainReadable (depth_plainJson_le times summary)⟩

end Texts

/-- A run with findings of two rules in turn, one of them in two places. -/
def sampleSummary : Summary where
  findings :=
    let file := SourceFile.ofCode "q.sql" "SELECT\n  RAND();"
    [⟨"x", file, [⟨9, 4⟩]⟩, ⟨"y", file, [⟨0, 6⟩, ⟨7, 0⟩]⟩, ⟨"x", file, []⟩]
  stats := { filesTotal := 1, filesMatched := 1, findings := 3 }

/-- Reports of the run are read from their texts as two rules and three findings. -/
theorem agree_sampleSummary :
    let times := RunTimes.between ⟨0, 0⟩ ⟨1, 0⟩
    ∃ sarif plain, Json.parse ((Report.sarif []).render times sampleSummary) = .ok sarif ∧
      Json.parse (Report.plain.render times sampleSummary) = .ok plain ∧
        sarifRuleIds? sarif = some ["x", "y"] ∧ plainRows? plain = sarifRows? sarif ∧
          (sarifRows? sarif).map (·.map Prod.fst) = some ["x", "y", "x"] := by
  intro times
  have fits : (statsToJson sampleSummary.stats).AllLeaves FitsWord := by
    unfold Json.AllLeaves
    decide
  obtain ⟨-, rows, agree, texts⟩ := sarif_and_plain_agree [] times sampleSummary
  obtain ⟨sarifRead, plainRead⟩ := texts fits
  exact ⟨_, _, sarifRead, plainRead, rfl, agree, by rw [rows]; rfl⟩

end TreeSieve.Report
