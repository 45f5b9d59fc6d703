import TreeSieve.Proofs.Pattern.RoundTrip
import TreeSieve.Rule.Basic

/-!
# Texts of rules

A rule that is built without a text gets the text of its pattern.  That text, and
any other text of the pattern that has been read and written once, reads as the
pattern again.
-/

namespace TreeSieve

open Json (Draft)

/-- Whether a pattern can be kept as text: its floats are finite and its JSON is
not nested too deep to be read. -/
structure Pattern.Portable (pattern : Pattern) : Prop where
  finite : pattern.toJson.FiniteFloats
  shallow : pattern.toJson.depth ≤ Draft.maxDepth

namespace RuleDraft

/-- The rule of a draft whose wildcard has been read. -/
def complete (draft : RuleDraft) (wildcard : Option Wildcard) : Rule where
  key := draft.key
  name := draft.name
  label :=
    if draft.label != "" then draft.label
    else if draft.name != "" then draft.name
    else draft.pattern.display
  languages := if draft.languages.isEmpty then .patternLanguages else draft.languages
  wildcard
  pattern := draft.pattern
  value := if draft.value = "" then draft.pattern.render else draft.value
  format := if draft.value = "" then .json else draft.format
  cwe := draft.cwe
  description := draft.description

theorem build_eq_map (draft : RuleDraft) : draft.build = draft.readWildcard.map draft.complete := by
  rw [build]
  cases draft.readWildcard <;> rfl

/-- A draft is built exactly when its wildcard can be read. -/
theorem build_eq_ok_iff {draft : RuleDraft} {rule : Rule} :
    draft.build = .ok rule ↔
      ∃ wildcard, draft.readWildcard = .ok wildcard ∧ draft.complete wildcard = rule := by
  rw [build_eq_map, Json.map_eq_ok_iff]

end RuleDraft

namespace Pattern

/-- A pattern that can be kept as text is read from its text.  Whatever text it
was read from, writing it and reading it again changes neither the pattern nor its
text; and a rule that is built from it without a text of its own has a text that
reads as the pattern.  Only the floats of the pattern have to read back. -/
theorem ofText_render_stable (pattern : Pattern) (portable : pattern.Portable)
    (readsBack : pattern.toJson.FloatsReadBack) :
    ofText pattern.render = .ok pattern ∧
      (∀ text, ofText text = .ok pattern →
        (do
          let first ← ofText text
          let second ← ofText first.render
          return (second, second.render)) = .ok (pattern, pattern.render)) ∧
      ∀ (draft : RuleDraft) (rule : Rule), draft.pattern = pattern → draft.value = "" →
        draft.build = .ok rule → rule.pattern = pattern ∧ ofText rule.value = .ok rule.pattern := by
  have reads := ofText_render portable.finite readsBack portable.shallow
  refine ⟨reads, ?_, ?_⟩
  · intro text isText
    rw [isText]
    change (ofText pattern.render >>= fun second => pure (second, second.render)) = _
    rw [reads]
    rfl
  · rintro draft rule rfl unset built
    obtain ⟨wildcard, -, rfl⟩ := RuleDraft.build_eq_ok_iff.mp built
    refine ⟨rfl, ?_⟩
    change ofText (if draft.value = "" then draft.pattern.render else draft.value) = _
    rw [if_pos unset, reads]
    rfl

/-- The sum of a float and a quoted name. -/
def sampleSum : Pattern :=
  .binaryOperator (.floatLiteral 2.5) (some .plus) (.idToken "\"n\"")

theorem leaves_sampleSum :
    sampleSum.toJson.leaves =
      [.string "BinaryOperator", .string "FloatLiteral", .float 2.5, .string "Plus",
        .string "IdToken", .string "\"n\""] := by
  simp [sampleSum, toJson, tagged, Json.leaves, Json.leavesOfMembers, Json.optionalString,
    Json.optional, BinaryOperator.name]

theorem ofText_render_sampleSum :
    sampleSum.Portable ∧ sampleSum.toJson.FloatsReadBack ∧
      ∃ rule, RuleDraft.build { key := "sum", pattern := sampleSum } = .ok rule ∧
        ofText rule.value = .ok rule.pattern := by
  have portable : sampleSum.Portable := by
    refine ⟨?_, by decide⟩
    rw [Json.FiniteFloats, Json.AllLeaves, leaves_sampleSum]
    simp only [List.forall_mem_cons]
    exact ⟨trivial, trivial, rfl, trivial, trivial, trivial, List.forall_mem_nil _⟩
  have readsBack : sampleSum.toJson.FloatsReadBack := by
    intro number member _
    obtain rfl : number = 2.5 := by simpa [leaves_sampleSum] using member
    rfl
  have built : RuleDraft.build { key := "sum", pattern := sampleSum } =
      .ok (RuleDraft.complete { key := "sum", pattern := sampleSum } none) := rfl
  have stable := ofText_render_stable sampleSum portable readsBack
  exact ⟨portable, readsBack, _, built, (stable.2.2 _ _ rfl rfl built).2⟩

end Pattern

end TreeSieve
