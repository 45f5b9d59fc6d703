import TreeSieve.Proofs.Pattern.Renaming
import TreeSieve.Proofs.Search.Reports

/-!
# A search does not depend on the places of nodes

Two trees that are the same up to the places of their nodes are visited in the
same order, and at nodes that correspond a rule finds the same.  Whether a rule
is silent at a node depends on the nodes above it, and these correspond as well.
So a search reports the same in both, however it is interrupted, and nodes that
the root does not reach have no influence on it.
-/

namespace TreeSieve

open Ust (Twins Translation Isomorphism)

/-- What a finding says of the text: which rule matches, and where. -/
def Finding.content (finding : Finding) : String × List Span :=
  (finding.key, finding.spans)

namespace Search

section Rules

variable {first second : Ust} {rename : NodeId → NodeId} {options : Options}
  {id twin : NodeId} {rule : Rule}

/-! ## What a rule finds -/

theorem matchesAt_twin (translation : Translation first second rename)
    (sameLanguage : second.language = first.language)
    (twins : Twins first second rename id twin) :
    matchesAt options second rule twin = matchesAt options first rule id := by
  rw [matchesAt, matchesAt, Pattern.carried translation rule.pattern twins, sameLanguage]

theorem findingAt?_twin (translation : Translation first second rename)
    (sameLanguage : second.language = first.language)
    (twins : Twins first second rename id twin) (rule : Rule) :
    (findingAt? options second twin rule).map Finding.content =
      (findingAt? options first id rule).map Finding.content := by
  have sameSpans : spansAt? options second rule twin = spansAt? options first rule id := by
    rw [spansAt?, spansAt?, Pattern.carried translation rule.pattern twins, sameLanguage,
      twins.span_eq translation.toIsomorphism]
  rw [findingAt?, findingAt?, Option.map_map, Option.map_map, sameSpans]
  rfl

/-- One node lies below another exactly if the nodes that correspond to them
do. -/
theorem contains_descendants_rename (translation : Translation first second rename)
    {above : NodeId} (aboveReached : first.Reaches first.root above)
    (reached : first.Reaches first.root id) :
    (second.descendants (rename above)).contains (rename id) =
      (first.descendants above).contains id := by
  rw [Bool.eq_iff_iff, List.contains_iff_mem, List.contains_iff_mem,
    translation.descendants_eq (.reached aboveReached), List.mem_map]
  constructor
  · rintro ⟨node, member, same⟩
    have below := (translation.first_rooted.mem_descendants_iff aboveReached).mp member
    have nodeReached := aboveReached.trans below.to_reflTransGen
    rwa [← translation.bijOn.injOn nodeReached reached same]
  · intro member
    exact ⟨id, member, rfl⟩

theorem outermost_rename (translation : Translation first second rename)
    (sameLanguage : second.language = first.language)
    (reached : first.Reaches first.root id) :
    outermost options second rule (rename id) = outermost options first rule id := by
  rw [outermost, outermost, translation.order_eq translation.first_rooted
    translation.second_rooted, List.all_map, Bool.eq_iff_iff, List.all_eq_true, List.all_eq_true]
  apply forall₂_congr
  intro above member
  have aboveReached := (translation.first_rooted.mem_cons_descendants_iff .refl).mp member
  rw [Function.comp_apply, contains_descendants_rename translation aboveReached reached,
    matchesAt_twin translation sameLanguage (.reached aboveReached)]

theorem reportAt?_rename (translation : Translation first second rename)
    (sameLanguage : second.language = first.language)
    (reached : first.Reaches first.root id) (rule : Rule) :
    (reportAt? options second (rename id) rule).map Finding.content =
      (reportAt? options first id rule).map Finding.content := by
  rw [reportAt?, reportAt?, outermost_rename translation sameLanguage reached]
  split
  · exact findingAt?_twin translation sameLanguage (.reached reached) rule
  · rfl

/-! ## What a visit finds -/

theorem active_eq (sameLanguage : second.language = first.language)
    (samePath : second.file.path = first.file.path) (quarantine : Quarantine)
    (rules : List Rule) :
    active quarantine second rules = active quarantine first rules := by
  have sameActive : isActive quarantine second = isActive quarantine first := by
    funext rule
    rw [isActive, isActive, sameLanguage, samePath]
  rw [active, active, sameActive]

theorem map_content_commentVisits (translation : Translation first second rename)
    (sameLanguage : second.language = first.language) (rules : List Rule)
    {comments others : List NodeId}
    (same : List.Forall₂ (Ust.SameComment first second) comments others) :
    (others.map fun id => rules.filterMap (findingAt? options second id)).map
        (List.map Finding.content) =
      (comments.map fun id => rules.filterMap (findingAt? options first id)).map
        (List.map Finding.content) := by
  induction same with
  | nil => rfl
  | cons sameComment _ ih =>
      rw [List.map_cons, List.map_cons, List.map_cons, List.map_cons, ih]
      congr 1
      exact map_filterMap_congr
        (findingAt?_twin translation sameLanguage (.comment sameComment)) rules

/-- The visits of the two trees find the same, one by one. -/
theorem map_content_allVisits (translation : Translation first second rename)
    (sameLanguage : second.language = first.language)
    (samePath : second.file.path = first.file.path)
    (sameComments : List.Forall₂ (Ust.SameComment first second) first.comments second.comments)
    (options : Options) (quarantine : Quarantine) (rules : List Rule) :
    (allVisits options quarantine second rules).map (List.map Finding.content) =
      (allVisits options quarantine first rules).map (List.map Finding.content) := by
  have sameActive := active_eq sameLanguage samePath quarantine rules
  by_cases tried : active quarantine first rules = []
  · rw [allVisits, allVisits, sameActive, tried]
  · rw [allVisits_eq translation.second_rooted (by rwa [sameActive]),
      allVisits_eq translation.first_rooted tried, sameActive, List.map_append, List.map_append,
      map_content_commentVisits translation sameLanguage _ sameComments,
      translation.order_eq translation.first_rooted translation.second_rooted, List.map_map,
      List.map_map, List.map_map, List.map_map]
    congr 1
    apply List.map_congr_left
    intro id member
    have reached := (translation.first_rooted.mem_cons_descendants_iff .refl).mp member
    exact map_filterMap_congr (reportAt?_rename translation sameLanguage reached) _

end Rules

/-- A search in two accepted documents with the same language and path, neither
with more nodes than references can tell apart.  If the trees under the roots are
isomorphic, and the comments are the same in their order, then the search reports
the same keys and spans in the same order, or is stopped in the same way. -/
theorem run_eq_of_isomorphism {firstDocument secondDocument : Document} {first second : Ust}
    (firstAccepted : Ust.ofDocument firstDocument = .ok first)
    (secondAccepted : Ust.ofDocument secondDocument = .ok second)
    (firstSmall : firstDocument.nodes.size ≤ UInt32.size)
    (secondSmall : secondDocument.nodes.size ≤ UInt32.size)
    (sameLanguage : firstDocument.language = secondDocument.language)
    (samePath : firstDocument.file.path = secondDocument.file.path)
    {rename : NodeId → NodeId} (iso : Isomorphism first second rename)
    (sameComments : List.Forall₂ (Ust.SameComment first second) first.comments second.comments)
    (options : Options) (quarantine : Quarantine) (polls : Nat → Poll) (rules : List Rule) :
    (run options quarantine polls first rules).map (List.map Finding.content) =
      (run options quarantine polls second rules).map (List.map Finding.content) := by
  have translation : Translation first second rename :=
    { iso with
      first_rooted := Ust.rooted_of_ofDocument firstAccepted
      second_rooted := Ust.rooted_of_ofDocument secondAccepted
      first_parents := Ust.parent?_eq_some_iff firstAccepted firstSmall
      second_parents := Ust.parent?_eq_some_iff secondAccepted secondSmall }
  have languageEq : second.language = first.language := by
    rw [(Ust.eq_of_ofDocument firstAccepted).2, (Ust.eq_of_ofDocument secondAccepted).2]
    exact sameLanguage.symm
  have pathEq : second.file.path = first.file.path := by
    rw [(Ust.eq_of_ofDocument firstAccepted).2, (Ust.eq_of_ofDocument secondAccepted).2]
    exact samePath.symm
  have sameVisits := map_content_allVisits translation languageEq pathEq sameComments options
    quarantine rules
  rw [run, run, pathEq]
  exact (gather_congr first.file.path polls sameVisits 0).symm

end Search

/-- The declaration `int x = 1;` with a comment behind it. -/
def Document.sampleNoted : Document :=
  { sampleField with
    nodes := sampleField.nodes.push ⟨.comment "// one", ⟨11, 6⟩⟩
    comments := [⟨5⟩] }

/-- The same declaration and comment with other places for all nodes but one, and
a block inside itself that the root does not reach. -/
def Document.sampleShuffled : Document :=
  { sampleField with
    nodes := #[
      ⟨.comment "// one", ⟨11, 6⟩⟩,
      ⟨.intLiteral 1, ⟨8, 1⟩⟩,
      ⟨.block [⟨2⟩], ⟨0, 10⟩⟩,
      ⟨.identifier "x", ⟨4, 1⟩⟩,
      ⟨.typeToken "int", ⟨0, 3⟩⟩,
      ⟨.fieldDeclaration (some ⟨4⟩) [⟨6⟩], ⟨0, 10⟩⟩,
      ⟨.variableDeclaration ⟨3⟩ (some ⟨1⟩), ⟨4, 5⟩⟩]
    root := ⟨5⟩
    comments := [⟨0⟩] }

/-- The tree of the declaration with a comment behind it. -/
def Ust.sampleNoted : Ust where
  toDocument := { Document.sampleNoted with file := Document.sampleNoted.file.indexed }
  parents := some (parentTable Document.sampleNoted)

/-- The tree of the declaration and comment after shuffling. -/
def Ust.sampleShuffled : Ust where
  toDocument := { Document.sampleShuffled with file := Document.sampleShuffled.file.indexed }
  parents := some (parentTable Document.sampleShuffled)

/-- Where the nodes of the declaration stand after shuffling. -/
def Document.samplePlaces (id : NodeId) : NodeId :=
  ([⟨5⟩, ⟨4⟩, ⟨6⟩, ⟨3⟩, ⟨1⟩][id.index]?).getD id

namespace Search

/-- A rule that matches declarations of integers named `x`.  The type is found in
the node above the variable. -/
def sampleTypedRule : Rule :=
  { sampleRule with
    key := "typed"
    pattern := .variableDeclaration (some (.idToken "int")) (.idToken "x") none }

/-- A rule that matches every node. -/
def sampleAnyRule : Rule :=
  { sampleRule with key := "any", pattern := .any }

/-- In both samples the type of the variable is found above it, and the comment is
found wherever it stands. -/
theorem run_sampleShuffled :
    ∃ first second, Ust.ofDocument Document.sampleNoted = .ok first ∧
      Ust.ofDocument Document.sampleShuffled = .ok second ∧
        Isomorphism first second Document.samplePlaces ∧
          (run {} {} (fun _ => .proceed) second [sampleTypedRule, sampleAnyRule]).map
              (List.map Finding.content) =
            .ok [("typed", [⟨0, 3⟩, ⟨4, 1⟩]), ("any", [⟨0, 10⟩]), ("any", [⟨11, 6⟩])] := by
  have firstAccepted : Ust.ofDocument Document.sampleNoted = .ok Ust.sampleNoted := rfl
  have secondAccepted : Ust.ofDocument Document.sampleShuffled = .ok Ust.sampleShuffled := rfl
  have iso : Isomorphism Ust.sampleNoted Ust.sampleShuffled Document.samplePlaces := by
    apply Isomorphism.of_order (Ust.rooted_of_ofDocument firstAccepted)
      (Ust.rooted_of_ofDocument secondAccepted)
    · decide
    · have order : Ust.sampleNoted.root :: Ust.sampleNoted.descendants Ust.sampleNoted.root =
          [⟨0⟩, ⟨1⟩, ⟨2⟩, ⟨3⟩, ⟨4⟩] := by decide
      rw [order]
      simp only [List.forall_mem_cons, List.not_mem_nil, false_implies, implies_true, and_true]
      exact ⟨rfl, rfl, rfl, rfl, rfl⟩
  have sameComments : List.Forall₂ (Ust.SameComment Ust.sampleNoted Ust.sampleShuffled)
      [⟨5⟩] [⟨0⟩] := .cons ⟨"// one", ⟨11, 6⟩, rfl, rfl⟩ .nil
  refine ⟨_, _, firstAccepted, secondAccepted, iso, ?_⟩
  rw [← run_eq_of_isomorphism firstAccepted secondAccepted (by decide) (by decide) rfl rfl iso
    sameComments]
  rfl

end Search

end TreeSieve
