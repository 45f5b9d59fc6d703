import Mathlib.Data.List.Infix
import TreeSieve.Proofs.Pattern.Anywhere
import TreeSieve.Proofs.Ust.Circles

/-!
# Chains of members

A qualified name such as `a.b.c` is a chain of member references that nests to the
left, and so is the pattern for one.  The target of a pattern may be met by the last
segment of a target that is itself qualified.  So a pattern matches a chain that ends
in its names, whatever stands before them.

The walk of a chain comes to the chains that it begins with, the longest first, and
then to single identifiers.  So a search below a chain finds the names wherever they
stand next to each other, and where they do so more than once it takes the last place.
-/

namespace TreeSieve

namespace Ust

/-- A node is a chain of identifiers: one identifier, or a reference to a member of a
chain.  The identifiers and their names are listed from left to right. -/
inductive MemberChain (ust : Ust) : NodeId → List NodeId → List String → Prop
  | single {id : NodeId} {name : String} (kindEq : ust.kind? id = some (.identifier name)) :
      MemberChain ust id [id] [name]
  | member {id target nameId : NodeId} {ids : List NodeId} {names : List String} {name : String}
      (chain : MemberChain ust target ids names)
      (kindEq : ust.kind? id = some (.memberReference target nameId))
      (nameEq : ust.kind? nameId = some (.identifier name)) :
      MemberChain ust id (ids ++ [nameId]) (names ++ [name])

/-- The spans of some nodes, without those that cover no text. -/
def shown (ust : Ust) (ids : List NodeId) : List Span :=
  (ids.map ust.span).filter fun span => !span.isEmpty

theorem shown_append (ust : Ust) (first second : List NodeId) :
    ust.shown (first ++ second) = ust.shown first ++ ust.shown second := by
  simp [shown]

theorem MemberChain.length_eq {ust : Ust} {top : NodeId} {ids : List NodeId}
    {names : List String} (chain : ust.MemberChain top ids names) :
    ids.length = names.length := by
  induction chain with
  | single => rfl
  | member _ _ _ ih => simp [ih]

end Ust

theorem suffix_concat_concat_iff {front whole : List String} {name last : String} :
    front ++ [name] <:+ whole ++ [last] ↔ front <:+ whole ∧ name = last := by
  have sameLength : [name].length = [last].length := rfl
  rw [List.suffix_append_inj_of_length_eq sameLength, List.singleton_inj]

namespace Trail

theorem add_eq_extend {trail : Trail} (succeeding : trail.success = true) (ust : Ust)
    (id : NodeId) : trail.add (ust.span id) = trail.extend true (ust.shown [id]) := by
  cases empty : (ust.span id).isEmpty with
  | true => simp [add, empty, Ust.shown, extend_true_nil succeeding]
  | false => simp [add, empty, Ust.shown, extend, ← succeeding]

/-- A node whose children have matched adds its own span at most, and only if the spans
of nodes with children are asked for. -/
theorem exists_close_extend (trail : Trail) (spans : List Span) (span : Span) :
    ∃ more, (trail.extend true spans).close span = trail.extend true (spans ++ more) ∧
      (trail.options.nonterminalSpans = false → more = []) := by
  cases asked : trail.options.nonterminalSpans with
  | false => exact ⟨[], by simp [close, andThen, addNonterminal, extend, asked], fun _ => rfl⟩
  | true =>
      cases empty : span.isEmpty with
      | true =>
          exact ⟨[], by simp [close, andThen, addNonterminal, add, extend, asked, empty], by simp⟩
      | false =>
          exact ⟨[span], by simp [close, andThen, addNonterminal, add, extend, asked, empty],
            by simp⟩

end Trail

namespace Pattern

/-- The pattern for a chain with these names. -/
def members (first : String) (rest : List String) : Pattern :=
  rest.foldl (fun target name => memberReference target (idToken name)) (idToken first)

theorem members_concat (first : String) (rest : List String) (name : String) :
    members first (rest ++ [name]) = memberReference (members first rest) (idToken name) := by
  simp [members]

section Ends

variable {ust : Ust} {trail : Trail} {first : String} {rest : List String}

/-! ## The end of a chain -/

/-- From a trail, an attempt matches exactly the chains that end in the wanted names.
What it gathers there are the spans of the last identifiers of the chain, unless spans of
nodes with children are asked for. -/
structure TakesEnd (ust : Ust) (trail : Trail) (attempt : Attempt NodeId)
    (wanted : List String) : Prop where
  matched : ∀ {top ids names}, ust.MemberChain top ids names → wanted <:+ names →
    ∃ spans, attempt top trail = trail.extend true spans ∧
      (trail.options.nonterminalSpans = false →
        spans = ust.shown (ids.drop (ids.length - wanted.length)))
  refused : ∀ {top ids names}, ust.MemberChain top ids names → ¬ wanted <:+ names →
    (attempt top trail).success = false

theorem TakesEnd.success_iff {attempt : Attempt NodeId} {wanted : List String}
    (takesEnd : TakesEnd ust trail attempt wanted) {top : NodeId} {ids : List NodeId}
    {names : List String} (chain : ust.MemberChain top ids names) :
    (attempt top trail).success = true ↔ wanted <:+ names := by
  constructor
  · intro succeeds
    by_contra other
    rw [takesEnd.refused chain other] at succeeds
    contradiction
  · intro isEnd
    rcases takesEnd.matched chain isEnd with ⟨spans, outcome, -⟩
    rw [outcome, Trail.success_extend]

theorem matchAt_idToken (succeeding : trail.success = true)
    (sensitive : trail.caseInsensitive = false) {id : NodeId} {actual name : String}
    (kindEq : ust.kind? id = some (.identifier actual)) :
    (idToken name).matchAt ust id trail =
      if actual = name then trail.extend true (ust.shown [id]) else trail.fail := by
  rw [← Trail.add_eq_extend succeeding]
  simp [matchAt, atKind, kindEq, sameName, sensitive, Trail.check]

/-- A pattern with more than one name does not match an identifier. -/
theorem matchAt_members_of_identifier (qualified : rest ≠ []) {id : NodeId} {actual : String}
    (kindEq : ust.kind? id = some (.identifier actual)) :
    (members first rest).matchAt ust id trail = trail.fail := by
  rcases List.eq_nil_or_concat' rest with rfl | ⟨others, name, rfl⟩
  · contradiction
  · simp [members_concat, matchAt, atKind, kindEq]

/-- One name is taken from the last segment of a qualified target. -/
theorem takesEnd_idToken (succeeding : trail.success = true)
    (sensitive : trail.caseInsensitive = false) (name : String) :
    TakesEnd ust trail (orInner ust lastSegment? (matchAt ust (idToken name))) [name] := by
  have atIdentifier {id actual} (kindEq : ust.kind? id = some (.identifier actual)) :
      orInner ust lastSegment? (matchAt ust (idToken name)) id trail =
        (idToken name).matchAt ust id trail := by
    simp [orInner, kindEq, lastSegment?]
  have atMember {id target nameId} (kindEq : ust.kind? id = some (.memberReference target nameId)) :
      orInner ust lastSegment? (matchAt ust (idToken name)) id trail =
        (idToken name).matchAt ust nameId trail := by
    apply orInner_of_fail
    · simp [kindEq, lastSegment?]
    · simp [matchAt, atKind, kindEq, Trail.fail]
  constructor
  · intro top ids names chain isEnd
    refine ⟨ust.shown (ids.drop (ids.length - 1)), ?_, fun _ => rfl⟩
    cases chain with
    | single kindEq =>
        have same := (List.cons.inj (isEnd.eq_of_length rfl)).1
        rw [atIdentifier kindEq, matchAt_idToken succeeding sensitive kindEq, if_pos same.symm]
        simp
    | member chain kindEq nameEq =>
        have same := (suffix_concat_concat_iff.mp (show [] ++ [name] <:+ _ from isEnd)).2
        rw [atMember kindEq, matchAt_idToken succeeding sensitive nameEq, if_pos same.symm]
        simp
  · intro top ids names chain other
    cases chain with
    | @single _ actual kindEq =>
        have differs : actual ≠ name := by
          rintro rfl
          exact other List.suffix_rfl
        rw [atIdentifier kindEq, matchAt_idToken succeeding sensitive kindEq, if_neg differs]
        rfl
    | @member _ _ _ _ _ actual chain kindEq nameEq =>
        have differs : actual ≠ name := by
          rintro rfl
          exact other (List.suffix_append _ _)
        rw [atMember kindEq, matchAt_idToken succeeding sensitive nameEq, if_neg differs]
        rfl

/-- Several names are not taken from one segment. -/
theorem TakesEnd.orInner (qualified : rest ≠ [])
    (takesEnd : TakesEnd ust trail (matchAt ust (members first rest)) (first :: rest)) :
    TakesEnd ust trail (orInner ust lastSegment? (matchAt ust (members first rest)))
      (first :: rest) := by
  constructor
  · intro top ids names chain isEnd
    have succeeds := (takesEnd.success_iff chain).mpr isEnd
    simpa [Pattern.orInner, succeeds] using takesEnd.matched chain isEnd
  · intro top ids names chain other
    have fails := takesEnd.refused chain other
    cases chain with
    | single kindEq => simp [Pattern.orInner, fails, kindEq, lastSegment?]
    | @member _ target nameId _ _ _ chain kindEq nameEq =>
        have found : (ust.kind? top).bind lastSegment? = some nameId := by
          rw [kindEq]
          rfl
        rw [orInner_of_fail found fails, matchAt_members_of_identifier qualified nameEq]
        rfl

/-- One more name at the end of the pattern asks for one more segment at the end of the
chain. -/
theorem TakesEnd.concat (sensitive : trail.caseInsensitive = false)
    (takesEnd : TakesEnd ust trail
      (Pattern.orInner ust lastSegment? (matchAt ust (members first rest))) (first :: rest))
    (name : String) :
    TakesEnd ust trail (matchAt ust (members first (rest ++ [name])))
      ((first :: rest) ++ [name]) := by
  have atMember {id target nameId} (kindEq : ust.kind? id = some (.memberReference target nameId)) :
      (members first (rest ++ [name])).matchAt ust id trail =
        ((Pattern.orInner ust lastSegment? (matchAt ust (members first rest)) target trail).andThen
          (matchAt ust (idToken name) nameId)).close (ust.span id) := by
    rw [members_concat, matchAt, atKind, kindEq]
    rfl
  constructor
  · intro top ids names chain isEnd
    cases chain with
    | single kindEq =>
        have lengths := isEnd.length_le
        simp at lengths
    | @member _ target nameId ids names actual chain kindEq nameEq =>
        rcases suffix_concat_concat_iff.mp isEnd with ⟨isEnd, same⟩
        rcases takesEnd.matched chain isEnd with ⟨spans, outcome, spansEq⟩
        rcases trail.exists_close_extend (spans ++ ust.shown [nameId]) (ust.span top) with
          ⟨more, closed, moreEq⟩
        have onward := trail.success_extend true spans
        refine ⟨spans ++ ust.shown [nameId] ++ more, ?_, ?_⟩
        · rw [atMember kindEq, outcome, Trail.andThen, if_pos onward,
            matchAt_idToken onward sensitive nameEq, if_pos same.symm, Trail.extend_extend, closed]
        · intro terminalsOnly
          have lengths := isEnd.length_le
          rw [moreEq terminalsOnly, List.append_nil, spansEq terminalsOnly, ← Ust.shown_append,
            List.length_append, List.length_append, List.length_singleton, List.length_singleton,
            Nat.add_sub_add_right, List.drop_append_of_le_length (Nat.sub_le _ _)]
  · intro top ids names chain other
    cases chain with
    | single kindEq =>
        rw [matchAt_members_of_identifier (by simp) kindEq]
        rfl
    | @member _ target nameId ids names actual chain kindEq nameEq =>
        rw [suffix_concat_concat_iff, not_and] at other
        rw [atMember kindEq, Trail.success_close]
        by_cases isEnd : first :: rest <:+ names
        · rcases takesEnd.matched chain isEnd with ⟨spans, outcome, -⟩
          have onward := trail.success_extend true spans
          rw [outcome, Trail.andThen, if_pos onward, matchAt_idToken onward sensitive nameEq,
            if_neg (Ne.symm (other isEnd))]
          rfl
        · have fails := takesEnd.refused chain isEnd
          simp [Trail.andThen, fails]

/-- A pattern with several names matches the chains that end in them. -/
theorem takesEnd_members (succeeding : trail.success = true)
    (sensitive : trail.caseInsensitive = false) (qualified : rest ≠ []) :
    TakesEnd ust trail (matchAt ust (members first rest)) (first :: rest) := by
  induction rest using List.reverseRecOn with
  | nil => contradiction
  | append_singleton others name ih =>
      apply TakesEnd.concat sensitive
      by_cases single : others = []
      · rw [single]
        exact takesEnd_idToken succeeding sensitive first
      · exact (ih single).orInner single

end Ends

/-! ## Below a chain -/

section Below

variable {ust : Ust} {trail : Trail} {attempt : Attempt NodeId} {wanted : List String}

/-- What a search along a walk comes to if it matches where the wanted names stand next to
each other in a list of names, and takes the last such place. -/
structure FindsLast (ust : Ust) (trail : Trail) (wanted : List String) (ids : List NodeId)
    (names : List String) (result : Trail) : Prop where
  success_iff : result.success = true ↔ wanted <:+: names
  result_eq : trail.options.nonterminalSpans = false → ∀ {before after},
    names = before ++ wanted ++ after →
      (∀ {earlier later}, names = earlier ++ wanted ++ later → earlier.length ≤ before.length) →
        result = trail.extend true (ust.shown ((ids.drop before.length).take wanted.length))

/-- At the end of the chain is the last place that there can be. -/
theorem TakesEnd.findsLast_of_suffix (takesEnd : TakesEnd ust trail attempt wanted)
    {top : NodeId} {ids : List NodeId} {names : List String}
    (chain : ust.MemberChain top ids names) (isEnd : wanted <:+ names) :
    FindsLast ust trail wanted ids names (attempt top trail) := by
  constructor
  · exact iff_of_true ((takesEnd.success_iff chain).mpr isEnd) isEnd.isInfix
  · intro terminalsOnly before after split last
    rcases takesEnd.matched chain isEnd with ⟨spans, outcome, spansEq⟩
    rcases isEnd with ⟨front, isFront⟩
    have latest := last (show names = front ++ wanted ++ [] by simp [isFront])
    have lengths := congrArg List.length split
    have frontLength := congrArg List.length isFront
    simp only [List.length_append] at lengths frontLength
    have place : ids.length - wanted.length = before.length := by
      rw [chain.length_eq]
      omega
    have rest : (ids.drop before.length).length ≤ wanted.length := by
      rw [List.length_drop, chain.length_eq]
      omega
    rw [outcome, spansEq terminalsOnly, place, List.take_of_length_le rest]

/-- A place that is not at the end of a longer chain is a place in the chain that it goes
on from. -/
theorem FindsLast.concat {ids : List NodeId} {names : List String} {result : Trail}
    (finds : FindsLast ust trail wanted ids names result) (sameLength : ids.length = names.length)
    {name : String} (notEnd : ¬ wanted <:+ names ++ [name]) (nameId : NodeId) :
    FindsLast ust trail wanted (ids ++ [nameId]) (names ++ [name]) result := by
  constructor
  · rw [finds.success_iff, List.infix_concat_iff, or_iff_right notEnd]
  · intro terminalsOnly before after split last
    rcases List.eq_nil_or_concat' after with rfl | ⟨after, final, rfl⟩
    · rw [List.append_nil] at split
      exact absurd ⟨before, split.symm⟩ notEnd
    · rw [← List.append_assoc] at split
      rcases List.append_inj' split rfl with ⟨shorter, -⟩
      have lengths := congrArg List.length shorter
      simp only [List.length_append] at lengths
      rw [List.drop_append_of_le_length (by omega),
        List.take_append_of_le_length (by rw [List.length_drop]; omega)]
      apply finds.result_eq terminalsOnly shorter
      intro earlier later other
      apply last
      rw [other, List.append_assoc]

theorem firstOf_concat_of_fail {order : List NodeId} {id : NodeId}
    (fails : (attempt id trail).success = false) :
    firstOf attempt (order ++ [id]) trail = firstOf attempt order trail := by
  rw [firstOf_eq_find?, firstOf_eq_find?, List.find?_append]
  simp [fails]

/-- The walk of a chain goes through the chains that it begins with, and the names that
follow stand alone. -/
theorem TakesEnd.exists_walk_findsLast (takesEnd : TakesEnd ust trail attempt wanted)
    (several : 2 ≤ wanted.length)
    (alone : ∀ {id name}, ust.kind? id = some (.identifier name) →
      (attempt id trail).success = false)
    {top : NodeId} {ids : List NodeId} {names : List String}
    (chain : ust.MemberChain top ids names) :
    ∃ order, ust.Preorder [top] order ∧
      FindsLast ust trail wanted ids names (firstOf attempt order trail) := by
  have leaf {id name} (kindEq : ust.kind? id = some (.identifier name)) :
      ust.Preorder [id] [id] := by
    have childless : ust.children id = [] := Ust.children_of_kind? kindEq
    have under : ust.Preorder (ust.children id) [] := by
      rw [childless]
      exact .nil
    exact under.cons .nil
  induction chain with
  | @single id name kindEq =>
      refine ⟨[id], leaf kindEq, ?_⟩
      have tooShort : ¬ wanted <:+: [name] := fun isPart =>
        Nat.not_succ_le_self 1 (several.trans isPart.length_le)
      constructor
      · simp [firstOf, alone kindEq, Trail.fail, tooShort]
      · intro _ before after split
        exact absurd ⟨before, after, split.symm⟩ tooShort
  | @member top target nameId ids names name chain kindEq nameEq ih =>
      rcases ih with ⟨order, walk, finds⟩
      have childrenEq : ust.children top = [target] ++ [nameId] := Ust.children_of_kind? kindEq
      have under := walk.append (leaf nameEq)
      rw [← childrenEq] at under
      refine ⟨top :: (order ++ [nameId]), by simpa using under.cons .nil, ?_⟩
      have whole := chain.member kindEq nameEq
      rw [firstOf]
      by_cases isEnd : wanted <:+ names ++ [name]
      · rw [if_pos ((takesEnd.success_iff whole).mpr isEnd)]
        exact takesEnd.findsLast_of_suffix whole isEnd
      · rw [if_neg (by simp [takesEnd.refused whole isEnd]), firstOf_concat_of_fail (alone nameEq)]
        exact finds.concat chain.length_eq isEnd nameId

end Below

/-- The walk from a node is what a search below it goes along. -/
theorem firstOf_preorder {ust : Ust} (rooted : ust.Rooted) {pattern : Pattern} {id : NodeId}
    {order : List NodeId} (walk : ust.Preorder [id] order) (trail : Trail) :
    (anywhere pattern).matchAt ust id trail = firstOf (matchAt ust pattern) order trail := by
  cases walk with
  | cons under beside =>
      cases beside
      have straight := under.not_above_self
      rw [List.append_nil, under.unique (rooted.preorder_children_of_not_above straight), matchAt]

/-- A chain of identifiers in an accepted document and a pattern for a chain of two names
or more, in a language that minds case.  The pattern matches the chain exactly if the chain
ends in the names, and a search below the chain finds the pattern exactly if the names stand
next to each other in it.  Unless the spans of nodes with children are asked for, a match
gathers the spans of the matched identifiers that cover some text, in their order: at the
end of the chain, and in a search at the last place where the names stand. -/
theorem matchAt_members_by_suffix {document : Document} {ust : Ust}
    (accepted : Ust.ofDocument document = .ok ust) {top : NodeId} {ids : List NodeId}
    {names : List String} (chain : ust.MemberChain top ids names) (first : String)
    {rest : List String} (qualified : rest ≠ []) (trail : Trail)
    (succeeding : trail.success = true) (sensitive : trail.caseInsensitive = false) :
    (((members first rest).matchAt ust top trail).success = true ↔ first :: rest <:+ names) ∧
      (((anywhere (members first rest)).matchAt ust top trail).success = true ↔
        first :: rest <:+: names) ∧
        (trail.options.nonterminalSpans = false →
          (∀ before, names = before ++ first :: rest →
            ((members first rest).matchAt ust top trail).locations =
              trail.locations ++ ust.shown (ids.drop before.length)) ∧
            ∀ before after, names = before ++ first :: rest ++ after →
              (∀ earlier later, names = earlier ++ first :: rest ++ later →
                earlier.length ≤ before.length) →
                ((anywhere (members first rest)).matchAt ust top trail).locations =
                  trail.locations ++
                    ust.shown ((ids.drop before.length).take (rest.length + 1))) := by
  have rooted := Ust.rooted_of_ofDocument accepted
  have takesEnd : TakesEnd ust trail (matchAt ust (members first rest)) (first :: rest) :=
    takesEnd_members succeeding sensitive qualified
  have several : 2 ≤ (first :: rest).length :=
    Nat.succ_le_succ (List.length_pos_iff.mpr qualified)
  have alone {id name} (kindEq : ust.kind? id = some (.identifier name)) :
      ((members first rest).matchAt ust id trail).success = false := by
    rw [matchAt_members_of_identifier qualified kindEq]
    rfl
  rcases takesEnd.exists_walk_findsLast several alone chain with ⟨order, walk, finds⟩
  rw [← firstOf_preorder rooted walk] at finds
  refine ⟨takesEnd.success_iff chain, finds.success_iff, fun terminalsOnly => ⟨?_, ?_⟩⟩
  · rintro before rfl
    rcases takesEnd.matched chain (List.suffix_append _ _) with ⟨spans, outcome, spansEq⟩
    rw [outcome, Trail.locations_extend, spansEq terminalsOnly, chain.length_eq]
    simp
  · intro before after split last
    rw [finds.result_eq terminalsOnly split (last _ _), Trail.locations_extend]
    rfl

end Pattern

/-- The expression `a.b.a.b.c`. -/
def Document.sampleChain : Document where
  language := .java
  file := .unindexed "A.java" "a.b.a.b.c"
  nodes := #[
    ⟨.memberReference ⟨1⟩ ⟨8⟩, ⟨0, 9⟩⟩,
    ⟨.memberReference ⟨2⟩ ⟨7⟩, ⟨0, 7⟩⟩,
    ⟨.memberReference ⟨3⟩ ⟨6⟩, ⟨0, 5⟩⟩,
    ⟨.memberReference ⟨4⟩ ⟨5⟩, ⟨0, 3⟩⟩,
    ⟨.identifier "a", ⟨0, 1⟩⟩,
    ⟨.identifier "b", ⟨2, 1⟩⟩,
    ⟨.identifier "a", ⟨4, 1⟩⟩,
    ⟨.identifier "b", ⟨6, 1⟩⟩,
    ⟨.identifier "c", ⟨8, 1⟩⟩]
  root := ⟨0⟩
  comments := []

/-- The tree of the expression `a.b.a.b.c`. -/
def Ust.sampleChain : Ust where
  toDocument := { Document.sampleChain with file := Document.sampleChain.file.indexed }
  parents := some (parentTable Document.sampleChain)

/-- In `a.b.a.b.c` the names `a.b` do not stand at the end, and a search finds the second
of the two places where they stand. -/
theorem Pattern.matchAt_members_sampleChain :
    Ust.ofDocument Document.sampleChain = .ok Ust.sampleChain ∧
      Ust.sampleChain.MemberChain ⟨0⟩ [⟨4⟩, ⟨5⟩, ⟨6⟩, ⟨7⟩, ⟨8⟩] ["a", "b", "a", "b", "c"] ∧
        ¬ ((members "a" ["b"]).matchAt Ust.sampleChain ⟨0⟩ (.fresh {} false)).success = true ∧
          ((anywhere (members "a" ["b"])).matchAt Ust.sampleChain ⟨0⟩
            (.fresh {} false)).success = true ∧
            ((anywhere (members "a" ["b"])).matchAt Ust.sampleChain ⟨0⟩
              (.fresh {} false)).locations = [⟨4, 1⟩, ⟨6, 1⟩] := by
  have accepted : Ust.ofDocument Document.sampleChain = .ok Ust.sampleChain := rfl
  have chain : Ust.sampleChain.MemberChain ⟨0⟩ [⟨4⟩, ⟨5⟩, ⟨6⟩, ⟨7⟩, ⟨8⟩]
      ["a", "b", "a", "b", "c"] :=
    (((Ust.MemberChain.single rfl).member rfl rfl).member rfl rfl).member rfl rfl |>.member rfl rfl
  have last : ∀ earlier later,
      ["a", "b", "a", "b", "c"] = earlier ++ "a" :: ["b"] ++ later → earlier.length ≤ 2 := by
    intro earlier later split
    have found : ["a", "b", "a", "b", "c"][earlier.length]? = some "a" := by
      rw [split]
      simp
    by_contra beyond
    rcases Nat.exists_eq_add_of_le' (Nat.lt_of_not_le beyond) with ⟨_ | _ | _, place⟩ <;>
      simp [place] at found
  rcases matchAt_members_by_suffix accepted chain "a" (List.cons_ne_nil "b" [])
    (.fresh {} false) rfl rfl with ⟨atEnd, inside, gathered⟩
  refine ⟨accepted, chain, ?_, inside.mpr ⟨["a", "b"], ["c"], rfl⟩, ?_⟩
  · rw [atEnd]
    decide
  · exact (gathered rfl).2 ["a", "b"] ["c"] rfl last

end TreeSieve
