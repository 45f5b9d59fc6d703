import Mathlib.Data.List.Nodup
import TreeSieve.Proofs.Catalogue.Reload

/-!
# Catalogues as ordered maps

A rule whose key is new comes behind all others, and a rule whose key is known takes
the place of the older one.  So the place of a key is settled when the key first comes,
and the rule at that place is the one that came last.  `Catalogue.Follows` says this of
a catalogue and all the rules that were added to it, and one more rule keeps it true.

What is chosen for a language is told from the rule that came last as well: an older
rule with the same key has no say in it, although it gave the key its place.
-/

namespace TreeSieve

namespace Catalogue

/-! ## One more rule -/

theorem keys_insert_of_mem {rule : Rule} {rules : List Rule}
    (known : rule.key ∈ rules.map Rule.key) :
    (insert rule rules).map Rule.key = rules.map Rule.key := by
  induction rules with
  | nil => contradiction
  | cons first rules ih =>
      rw [insert]
      by_cases same : first.key = rule.key
      · rw [if_pos same, List.map_cons, List.map_cons, same]
      · rw [if_neg same, List.map_cons, List.map_cons, ih]
        rcases List.mem_cons.mp known with here | later
        · exact absurd here.symm same
        · exact later

theorem find?_insert (rule : Rule) (rules : List Rule) (key : String) :
    (insert rule rules).find? (·.key == key) =
      if rule.key = key then some rule else rules.find? (·.key == key) := by
  induction rules with
  | nil => by_cases wanted : rule.key = key <;> simp [insert, wanted]
  | cons first rules ih =>
      rw [insert]
      by_cases same : first.key = rule.key
      · by_cases wanted : rule.key = key <;> simp [same, wanted]
      · rw [if_neg same]
        by_cases firstWanted : first.key = key
        · have unwanted : rule.key ≠ key := fun wanted => same (firstWanted.trans wanted.symm)
          simp [firstWanted, unwanted]
        · simp [firstWanted, ih]

theorem keys_add_of_mem {catalogue : Catalogue} {rule : Rule}
    (known : rule.key ∈ catalogue.keys) : (catalogue.add rule).keys = catalogue.keys :=
  keys_insert_of_mem known

theorem keys_add_of_not_mem {catalogue : Catalogue} {rule : Rule}
    (fresh : rule.key ∉ catalogue.keys) :
    (catalogue.add rule).keys = catalogue.keys ++ [rule.key] := by
  rw [keys, add, insert_of_not_mem fresh, List.map_append]
  rfl

theorem get?_add (catalogue : Catalogue) (rule : Rule) (key : String) :
    (catalogue.add rule).get? key = if rule.key = key then some rule else catalogue.get? key :=
  find?_insert rule catalogue.rules key

/-! ## All rules that were added -/

/-- A catalogue follows the rules that were added to it: its keys are theirs, in the
order in which each of them first came, and with a key it has the rule that came last. -/
structure Follows (catalogue : Catalogue) (added : List Rule) : Prop where
  mem_keys_iff : ∀ key, key ∈ catalogue.keys ↔ key ∈ added.map Rule.key
  keys_sorted : catalogue.keys.Pairwise fun earlier later =>
    (added.map Rule.key).idxOf earlier < (added.map Rule.key).idxOf later
  get?_eq : ∀ key, catalogue.get? key = added.reverse.find? (·.key == key)

theorem follows_empty : Follows {} [] where
  mem_keys_iff _ := Iff.rfl
  keys_sorted := List.Pairwise.nil
  get?_eq _ := rfl

namespace Follows

variable {catalogue : Catalogue} {added : List Rule}

/-- Keys that came before keep the place at which they first came. -/
theorem keys_sorted_append (follows : catalogue.Follows added) (rule : Rule) :
    catalogue.keys.Pairwise fun earlier later =>
      ((added ++ [rule]).map Rule.key).idxOf earlier <
        ((added ++ [rule]).map Rule.key).idxOf later := by
  apply follows.keys_sorted.imp_of_mem
  intro earlier later isEarlier isLater before
  rw [List.map_append, List.idxOf_append_of_mem ((follows.mem_keys_iff earlier).mp isEarlier),
    List.idxOf_append_of_mem ((follows.mem_keys_iff later).mp isLater)]
  exact before

theorem keys_sorted_add (follows : catalogue.Follows added) (rule : Rule) :
    (catalogue.add rule).keys.Pairwise fun earlier later =>
      ((added ++ [rule]).map Rule.key).idxOf earlier <
        ((added ++ [rule]).map Rule.key).idxOf later := by
  by_cases known : rule.key ∈ catalogue.keys
  · rw [keys_add_of_mem known]
    exact follows.keys_sorted_append rule
  · rw [keys_add_of_not_mem known, List.pairwise_append]
    refine ⟨follows.keys_sorted_append rule, List.pairwise_singleton _ _, ?_⟩
    intro earlier isEarlier later isLast
    -- A new key has its first place at the end, and all others have theirs before it.
    have earlierCame := (follows.mem_keys_iff earlier).mp isEarlier
    have fresh : rule.key ∉ added.map Rule.key := fun came =>
      known ((follows.mem_keys_iff rule.key).mpr came)
    rw [List.mem_singleton.mp isLast, List.map_append, List.idxOf_append_of_mem earlierCame,
      List.idxOf_append_of_notMem fresh]
    exact Nat.lt_add_right _ (List.idxOf_lt_length_of_mem earlierCame)

theorem add (follows : catalogue.Follows added) (rule : Rule) :
    (catalogue.add rule).Follows (added ++ [rule]) where
  mem_keys_iff key := by
    rw [List.map_append, List.mem_append, ← follows.mem_keys_iff]
    by_cases known : rule.key ∈ catalogue.keys
    · rw [keys_add_of_mem known]
      constructor
      · exact Or.inl
      · rintro (old | new)
        · exact old
        · rwa [List.mem_singleton.mp new]
    · rw [keys_add_of_not_mem known]
      exact List.mem_append
  keys_sorted := follows.keys_sorted_add rule
  get?_eq key := by
    rw [get?_add, follows.get?_eq, List.reverse_append, List.reverse_singleton,
      List.singleton_append]
    by_cases wanted : rule.key = key <;> simp [wanted]

theorem addAll (follows : catalogue.Follows added) (rules : List Rule) :
    (catalogue.addAll rules).Follows (added ++ rules) := by
  induction rules generalizing catalogue added with
  | nil =>
      rw [List.append_nil]
      exact follows
  | cons rule rules ih =>
      have later := ih (follows.add rule)
      rw [List.append_assoc, List.singleton_append] at later
      exact later

theorem distinct (follows : catalogue.Follows added) : catalogue.keys.Nodup := by
  apply follows.keys_sorted.imp
  rintro key _ before rfl
  exact Nat.lt_irrefl _ before

/-- A key is looked up as the rule that came with it when none came with it later. -/
theorem get?_eq_some_iff (follows : catalogue.Follows added) {key : String} {rule : Rule} :
    catalogue.get? key = some rule ↔
      ∃ before after, added = before ++ rule :: after ∧ rule.key = key ∧
        ∀ later ∈ after, later.key ≠ key := by
  rw [follows.get?_eq, List.find?_eq_some_iff_append]
  simp only [beq_iff_eq, Bool.not_eq_true', beq_eq_false_iff_ne]
  constructor
  · rintro ⟨keyEq, after, before, split, others⟩
    refine ⟨before.reverse, after.reverse, ?_, keyEq, ?_⟩
    · rw [← List.reverse_reverse added, split]
      simp
    · intro later isLater
      exact others later (List.mem_reverse.mp isLater)
  · rintro ⟨before, after, rfl, keyEq, others⟩
    refine ⟨keyEq, after.reverse, before.reverse, by simp, ?_⟩
    intro later isLater
    exact others later (List.mem_reverse.mp isLater)

theorem get?_eq_none_iff (follows : catalogue.Follows added) {key : String} :
    catalogue.get? key = none ↔ ∀ rule ∈ added, rule.key ≠ key := by
  rw [follows.get?_eq, List.find?_eq_none]
  simp

/-- A catalogue lists the rules that its keys are looked up as. -/
theorem mem_rules_iff (follows : catalogue.Follows added) {rule : Rule} :
    rule ∈ catalogue.rules ↔ catalogue.get? rule.key = some rule := by
  constructor
  · intro member
    obtain ⟨found, foundEq⟩ : ∃ found, catalogue.get? rule.key = some found := by
      rw [← Option.isSome_iff_exists, get?, List.find?_isSome]
      exact ⟨rule, member, beq_self_eq_true _⟩
    have sameKey : found.key = rule.key := by simpa using List.find?_some foundEq
    rw [foundEq, List.inj_on_of_nodup_map follows.distinct
      (List.mem_of_find?_eq_some foundEq) member sameKey]
  · exact List.mem_of_find?_eq_some

theorem mem_select_iff (follows : catalogue.Follows added) {language : Language}
    {wanted : Option (List String)} {rule : Rule} :
    rule ∈ catalogue.select language wanted ↔
      catalogue.get? rule.key = some rule ∧ rule.appliesTo language = true ∧
        ∀ given, wanted = some given → rule.key ∈ given := by
  rw [select, List.mem_filter, follows.mem_rules_iff, Bool.and_eq_true, Option.all_eq_true]
  simp

end Follows

theorem select_congr (catalogue : Catalogue) (language : Language) {wanted others : List String}
    (same : ∀ key, key ∈ wanted ↔ key ∈ others) :
    catalogue.select language (some wanted) = catalogue.select language (some others) := by
  apply List.filter_congr
  intro rule _
  have sameKey : wanted.contains rule.key = others.contains rule.key := by
    rw [Bool.eq_iff_iff, List.contains_iff_mem, List.contains_iff_mem]
    exact same rule.key
  rw [Option.all_some, Option.all_some, sameKey]

/-! ## Histories -/

/-- The rules that are built in. -/
def builtinRules : List Rule :=
  builtinDrafts.filterMap (·.build.toOption)

/-- The catalogues that come of adding rules, one or several at a time, to the empty or
the built-in catalogue, each with all the rules that were added in their order. -/
inductive Built : Catalogue → List Rule → Prop
  | empty : Built {} []
  | builtin : Built builtin builtinRules
  | add {catalogue : Catalogue} {added : List Rule} (rule : Rule) :
      Built catalogue added → Built (catalogue.add rule) (added ++ [rule])
  | addAll {catalogue : Catalogue} {added : List Rule} (rules : List Rule) :
      Built catalogue added → Built (catalogue.addAll rules) (added ++ rules)

theorem Built.follows {catalogue : Catalogue} {added : List Rule}
    (built : Built catalogue added) : catalogue.Follows added := by
  induction built with
  | empty => exact follows_empty
  | builtin => exact follows_empty.addAll builtinRules
  | add rule _ ih => exact ih.add rule
  | addAll rules _ ih => exact ih.addAll rules

/-- Whatever rules were added to the empty or the built-in catalogue, it is an ordered
map.  Its keys are distinct and stand in the order in which each of them was first added.
A key is looked up as the rule that was added with it last, and as none exactly if none
was; these are the rules that the catalogue lists.  For a language, and for some keys if
keys are given, it selects from its list, in the same order, the rules that are meant for
the language as they came last and have one of the keys, whatever order the given keys
are in and however often they are repeated. -/
theorem ordered_map_of_built {catalogue : Catalogue} {added : List Rule}
    (built : Built catalogue added) :
    catalogue.keys.Nodup ∧
      (∀ key, key ∈ catalogue.keys ↔ ∃ rule ∈ added, rule.key = key) ∧
      (catalogue.keys.Pairwise fun earlier later =>
        (added.map Rule.key).idxOf earlier < (added.map Rule.key).idxOf later) ∧
      (∀ key rule, catalogue.get? key = some rule ↔
        ∃ before after, added = before ++ rule :: after ∧ rule.key = key ∧
          ∀ later ∈ after, later.key ≠ key) ∧
      (∀ key, catalogue.get? key = none ↔ ∀ rule ∈ added, rule.key ≠ key) ∧
      (∀ rule, rule ∈ catalogue.rules ↔ catalogue.get? rule.key = some rule) ∧
      (∀ language wanted,
        (catalogue.select language wanted).Sublist catalogue.rules ∧
          ∀ rule, rule ∈ catalogue.select language wanted ↔
            catalogue.get? rule.key = some rule ∧ rule.appliesTo language = true ∧
              ∀ given, wanted = some given → rule.key ∈ given) ∧
      ∀ language wanted others, (∀ key, key ∈ wanted ↔ key ∈ others) →
        catalogue.select language (some wanted) = catalogue.select language (some others) := by
  have follows := built.follows
  refine ⟨follows.distinct, ?_, follows.keys_sorted, fun _ _ => follows.get?_eq_some_iff,
    fun _ => follows.get?_eq_none_iff, fun _ => follows.mem_rules_iff, ?_, ?_⟩
  · intro key
    rw [follows.mem_keys_iff, List.mem_map]
  · intro language wanted
    exact ⟨List.filter_sublist, fun _ => follows.mem_select_iff⟩
  · intro language wanted others same
    exact catalogue.select_congr language same

/-- A rule with a key and one language. -/
def sampleKeyed (key : String) (language : Language) : Rule where
  key := key
  name := key
  label := key
  languages := .ofList [language]
  wildcard := none
  pattern := .idToken key
  value := ""
  format := .json
  cwe := none
  description := ""

/-- A rule that is defined again for another language keeps its place before the other
rule and is no longer selected for the first language. -/
theorem select_sampleKeyed :
    ∃ catalogue added, Built catalogue added ∧
      added = [sampleKeyed "x" .java, sampleKeyed "y" .java, sampleKeyed "x" .php] ∧
        catalogue.keys = ["x", "y"] ∧ catalogue.get? "x" = some (sampleKeyed "x" .php) ∧
          sampleKeyed "x" .java ∉ catalogue.select .java none ∧
            sampleKeyed "x" .php ∈ catalogue.select .php (some ["x", "y", "x"]) := by
  have built := (Built.empty.addAll [sampleKeyed "x" .java, sampleKeyed "y" .java]).add
    (sampleKeyed "x" .php)
  obtain ⟨-, -, -, last, -, -, selected, -⟩ := ordered_map_of_built built
  have found := (last "x" (sampleKeyed "x" .php)).mpr
    ⟨[sampleKeyed "x" .java, sampleKeyed "y" .java], [], rfl, rfl, List.forall_mem_nil _⟩
  refine ⟨_, _, built, rfl, rfl, found, ?_, ?_⟩
  · intro member
    have isLast := (((selected .java none).2 _).mp member).1
    have same := congrArg Rule.languages (Option.some.inj (found.symm.trans isLast))
    exact absurd same (by decide)
  · rw [(selected .php _).2]
    exact ⟨found, rfl, by decide⟩

end Catalogue

end TreeSieve
