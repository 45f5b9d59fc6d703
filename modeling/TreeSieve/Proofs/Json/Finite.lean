import TreeSieve.Proofs.Decimal.Finite
import TreeSieve.Proofs.Json.Leaves
import TreeSieve.Proofs.Json.Results

/-!
# Texts hold finite floats only

Whatever a text spells, the floats that are read from it are finite: those of its
tokens are, no float of a draft comes from elsewhere, and a complete value has the
floats of its draft.
-/

namespace TreeSieve.Json

/-! ## Tokens -/

/-- Whether a token is finite if it is a float. -/
def Token.IsFinite : Token → Prop
  | .float value => value.isFinite = true
  | _ => True

theorem isFinite_finish (state : NumberState) : state.finish.IsFinite := by
  unfold NumberState.finish
  cases reads : state.spelling.read with
  | integer _ => split <;> trivial
  | outOfRange => split <;> trivial
  | float value =>
      have finite := Decimal.isFinite_of_read reads
      split <;> trivial

/-- Whether the word that a state is in the middle of stands for no float but a
finite one. -/
def LexState.IsFinite : LexState → Prop
  | .word _ token => token.IsFinite
  | _ => True

/-- Whether what a character begins holds no float but a finite one. -/
def Opening.IsFinite : Opening → Prop
  | .token found => found.IsFinite
  | .state next => next.IsFinite
  | _ => True

theorem Opening.isFinite_ite {condition : Prop} [Decidable condition] {first second : Opening}
    (firstFinite : first.IsFinite) (secondFinite : second.IsFinite) :
    (if condition then first else second).IsFinite := by
  split
  · exact firstFinite
  · exact secondFinite

theorem isFinite_opening (character : Char) : (opening character).IsFinite := by
  unfold opening
  repeat
    apply Opening.isFinite_ite
    · trivial
  split <;> trivial

theorem isFinite_of_step_text {state : TextState} {character : Char} {token : Token}
    (closes : state.step character = .closed token) : token.IsFinite := by
  have finished : state.finish.IsFinite := by
    unfold TextState.finish
    split <;> trivial
  unfold TextState.step at closes
  repeat' split at closes
  all_goals first | contradiction | (cases closes; exact finished)

/-- The floats among the tokens of a text are finite. -/
theorem isFinite_of_mem_lex (characters : List Char) {state : LexState} (finite : state.IsFinite) :
    ∀ token ∈ lex state characters, token.IsFinite := by
  induction characters generalizing state with
  | nil =>
      cases state with
      | between => exact List.forall_mem_nil _
      | number state => exact List.forall_mem_singleton.mpr (isFinite_finish state)
      | _ => exact List.forall_mem_singleton.mpr trivial
  | cons character rest ih =>
      have broken : ∀ token ∈ [Token.broken], token.IsFinite :=
        List.forall_mem_singleton.mpr trivial
      have opened : ∀ token ∈ lex .between (character :: rest), token.IsFinite := by
        have finite := isFinite_opening character
        simp only [lex]
        split <;> rename_i opens <;> rw [opens] at finite
        · exact List.forall_mem_cons.mpr ⟨finite, ih trivial⟩
        · exact ih finite
        · exact ih trivial
        · exact broken
      cases state with
      | between => exact opened
      | word letters token =>
          simp only [lex]
          split
          · exact broken
          · split
            · exact List.forall_mem_cons.mpr ⟨finite, ih trivial⟩
            · exact broken
          · split
            · exact ih finite
            · exact broken
      | number state =>
          simp only [lex]
          split
          · exact ih trivial
          · exact broken
          · simp only [lex] at opened
            exact List.forall_mem_cons.mpr ⟨isFinite_finish state, opened⟩
      | text state =>
          simp only [lex]
          split
          · exact ih trivial
          · rename_i closes
            exact List.forall_mem_cons.mpr ⟨isFinite_of_step_text closes, ih trivial⟩
          · exact broken

/-! ## Drafts -/

namespace Draft

mutual

/-- Whether every float of a draft is finite. -/
def FiniteFloats : Draft → Prop
  | .float value => value.isFinite = true
  | .array items => itemsFinite items
  | .object members => membersFinite members
  | _ => True

/-- Whether every float of the items is finite. -/
def itemsFinite : List Draft → Prop
  | [] => True
  | item :: rest => FiniteFloats item ∧ itemsFinite rest

/-- Whether every float of the members is finite. -/
def membersFinite : List (Option String × Draft) → Prop
  | [] => True
  | (_, member) :: rest => FiniteFloats member ∧ membersFinite rest

end

theorem finiteFloats_array {items : List Draft} :
    (Draft.array items).FiniteFloats ↔ ∀ item ∈ items, item.FiniteFloats := by
  rw [FiniteFloats]
  induction items with
  | nil => simp [itemsFinite]
  | cons item items ih => simp [itemsFinite, ih]

theorem finiteFloats_object {members : List (Option String × Draft)} :
    (Draft.object members).FiniteFloats ↔ ∀ member ∈ members, member.2.FiniteFloats := by
  rw [FiniteFloats]
  induction members with
  | nil => simp [membersFinite]
  | cons member members ih =>
      obtain ⟨key, value⟩ := member
      rw [membersFinite, ih, List.forall_mem_cons]

theorem finiteFloats_array_reverse {items : List Draft}
    (finite : ∀ item ∈ items, item.FiniteFloats) : (Draft.array items.reverse).FiniteFloats :=
  finiteFloats_array.mpr fun item member => finite item (List.mem_reverse.mp member)

theorem finiteFloats_object_reverse {members : List (Option String × Draft)}
    (finite : ∀ member ∈ members, member.2.FiniteFloats) :
    (Draft.object members.reverse).FiniteFloats :=
  finiteFloats_object.mpr fun member isMember => finite member (List.mem_reverse.mp isMember)

end Draft

/-- Whether every float in a frame is finite. -/
def Frame.FiniteFloats : Frame → Prop
  | .array items => ∀ item ∈ items, item.FiniteFloats
  | .object members _ => ∀ member ∈ members, member.2.FiniteFloats

/-- Whether every float in all frames is finite. -/
def FramesFinite (frames : List Frame) : Prop :=
  ∀ frame ∈ frames, frame.FiniteFloats

/-- Whether every float is finite in what one token makes of the open frames. -/
def Progress.FiniteFloats : Progress → Prop
  | .next _ frames => FramesFinite frames
  | .complete value => value.FiniteFloats
  | .wrong => True

theorem finiteFloats_abandon {inner : Draft} (finite : inner.FiniteFloats) {frames : List Frame}
    (framesFinite : FramesFinite frames) : (abandon inner frames).FiniteFloats := by
  induction frames generalizing inner with
  | nil => exact finite
  | cons frame frames ih =>
      obtain ⟨first, later⟩ := List.forall_mem_cons.mp framesFinite
      cases frame with
      | array items =>
          exact ih (Draft.finiteFloats_array_reverse (List.forall_mem_cons.mpr ⟨finite, first⟩))
            later
      | object members key =>
          exact ih (Draft.finiteFloats_object_reverse (List.forall_mem_cons.mpr ⟨finite, first⟩))
            later

/-- A member whose key is another one holds the same floats. -/
theorem framesFinite_withKey {members : List (Option String × Draft)} {key : Option String}
    {frames : List Frame} (finite : FramesFinite (.object members key :: frames))
    (other : Option String) : FramesFinite (.object members other :: frames) := by
  obtain ⟨first, later⟩ := List.forall_mem_cons.mp finite
  exact List.forall_mem_cons.mpr ⟨first, later⟩

theorem finiteFloats_fault (expected : Expected) {frames : List Frame}
    (finite : FramesFinite frames) : (fault expected frames).FiniteFloats := by
  have broken : Draft.broken.FiniteFloats := trivial
  unfold fault
  split
  · exact finiteFloats_abandon broken (framesFinite_withKey finite none)
  · exact finiteFloats_abandon broken (framesFinite_withKey finite none)
  · exact finiteFloats_abandon broken (framesFinite_withKey finite none)
  · exact finiteFloats_abandon broken finite

theorem framesFinite_place {value : Draft} (finite : value.FiniteFloats) {frames : List Frame}
    (framesFinite : FramesFinite frames) : FramesFinite (place value frames) := by
  cases frames with
  | nil => exact framesFinite
  | cons frame frames =>
      obtain ⟨first, later⟩ := List.forall_mem_cons.mp framesFinite
      cases frame <;>
        exact List.forall_mem_cons.mpr ⟨List.forall_mem_cons.mpr ⟨finite, first⟩, later⟩

theorem finiteFloats_settle {value : Draft} (finite : value.FiniteFloats) {frames : List Frame}
    (framesFinite : FramesFinite frames) : (settle value frames).FiniteFloats := by
  cases frames with
  | nil => exact finite
  | cons frame frames => exact framesFinite_place finite framesFinite

theorem finiteFloats_scalar {token : Token} (finite : token.IsFinite) {value : Draft}
    (scalar : scalar? token = some value) : value.FiniteFloats := by
  cases token <;> cases scalar <;> trivial

theorem finiteFloats_beginValue {token : Token} (finite : token.IsFinite) {frames : List Frame}
    (framesFinite : FramesFinite frames) : (beginValue token frames).FiniteFloats := by
  unfold beginValue
  split
  · exact List.forall_mem_cons.mpr ⟨List.forall_mem_nil _, framesFinite⟩
  · exact List.forall_mem_cons.mpr ⟨List.forall_mem_nil _, framesFinite⟩
  · split
    · rename_i scalar
      exact finiteFloats_settle (finiteFloats_scalar finite scalar) framesFinite
    · trivial

theorem finiteFloats_beginMember (token : Token) {frames : List Frame}
    (framesFinite : FramesFinite frames) : (beginMember token frames).FiniteFloats := by
  unfold beginMember
  split
  · exact framesFinite_withKey framesFinite _
  · trivial

theorem finiteFloats_endArray {items : List Draft} {frames : List Frame}
    (finite : FramesFinite (.array items :: frames)) :
    (settle (.array items.reverse) frames).FiniteFloats := by
  obtain ⟨first, later⟩ := List.forall_mem_cons.mp finite
  exact finiteFloats_settle (Draft.finiteFloats_array_reverse first) later

theorem finiteFloats_endObject {members : List (Option String × Draft)} {key : Option String}
    {frames : List Frame} (finite : FramesFinite (.object members key :: frames)) :
    (settle (.object members.reverse) frames).FiniteFloats := by
  obtain ⟨first, later⟩ := List.forall_mem_cons.mp finite
  exact finiteFloats_settle (Draft.finiteFloats_object_reverse first) later

/-- One token adds no float but a finite one. -/
theorem finiteFloats_advance {token : Token} (finite : token.IsFinite) (expected : Expected)
    {frames : List Frame} (framesFinite : FramesFinite frames) :
    (advance token expected frames).FiniteFloats := by
  unfold advance
  split
  · exact finiteFloats_beginValue finite framesFinite
  · split
    · exact finiteFloats_endArray framesFinite
    · exact finiteFloats_beginValue finite framesFinite
  · split
    · exact finiteFloats_endObject framesFinite
    · exact finiteFloats_beginMember token framesFinite
  · exact finiteFloats_beginMember token framesFinite
  · split
    · exact framesFinite
    · trivial
  · split
    · exact framesFinite
    · exact framesFinite
    · exact finiteFloats_endArray framesFinite
    · exact finiteFloats_endObject framesFinite
    · trivial

/-- The floats of what tokens are put together to are finite if theirs are. -/
theorem finiteFloats_assemble {tokens : List Token} (finite : ∀ token ∈ tokens, token.IsFinite)
    (expected : Expected) {frames : List Frame} (framesFinite : FramesFinite frames) :
    (assemble tokens expected frames).draft.FiniteFloats := by
  induction tokens generalizing expected frames with
  | nil => exact finiteFloats_fault expected framesFinite
  | cons token tokens ih =>
      rw [List.forall_mem_cons] at finite
      have advanced := finiteFloats_advance finite.1 expected framesFinite
      rw [assemble]
      split <;> rename_i step
      · rw [step] at advanced
        exact ih finite.2 _ advanced
      · rw [step] at advanced
        exact advanced
      · exact finiteFloats_fault expected framesFinite

/-- The floats of a text are finite. -/
theorem finiteFloats_draftOf (text : String) : (draftOf text).draft.FiniteFloats :=
  finiteFloats_assemble (@isFinite_of_mem_lex text.toList .between trivial) .value
    (List.forall_mem_nil _)

/-! ## Values -/

mutual

/-- A complete value has the floats of its draft. -/
theorem finiteFloats_of_toJson? : (draft : Draft) → {levels : Nat} → {value : Json} →
    draft.FiniteFloats → draft.toJson? levels = some value → value.FiniteFloats
  | .null, _, _, _, complete => by
      cases complete
      exact (allLeaves_scalar rfl).mpr trivial
  | .bool _, _, _, _, complete => by
      cases complete
      exact (allLeaves_scalar rfl).mpr trivial
  | .int _, _, _, _, complete => by
      cases complete
      exact (allLeaves_scalar rfl).mpr trivial
  | .string _, _, _, _, complete => by
      cases complete
      exact (allLeaves_scalar rfl).mpr trivial
  | .float _, _, _, finite, complete => by
      cases complete
      exact (allLeaves_scalar rfl).mpr finite
  | .array _, 0, _, _, complete => by cases complete
  | .object _, 0, _, _, complete => by cases complete
  | .array items, levels + 1, _, finite, complete => by
      obtain ⟨values, inner, rfl⟩ := Option.map_eq_some_iff.mp complete
      exact allLeaves_array.mpr (finiteFloats_of_itemsToJson? items
        (Draft.finiteFloats_array.mp finite) inner)
  | .object members, levels + 1, _, finite, complete => by
      obtain ⟨values, inner, rfl⟩ := Option.map_eq_some_iff.mp complete
      exact allLeaves_object.mpr (finiteFloats_of_membersToJson? members
        (Draft.finiteFloats_object.mp finite) inner)
  | .unreadable, _, _, _, complete => by cases complete
  | .broken, _, _, _, complete => by cases complete

theorem finiteFloats_of_itemsToJson? : (items : List Draft) → {levels : Nat} →
    {values : List Json} → (∀ item ∈ items, item.FiniteFloats) →
    Draft.itemsToJson? levels items = some values → ∀ value ∈ values, value.FiniteFloats
  | [], _, _, _, complete => by
      cases complete
      exact List.forall_mem_nil _
  | item :: items, _, _, finite, complete => by
      obtain ⟨value, first, others⟩ := Option.bind_eq_some_iff.mp complete
      obtain ⟨values, later, ⟨⟩⟩ := Option.bind_eq_some_iff.mp others
      rw [List.forall_mem_cons] at finite
      exact List.forall_mem_cons.mpr ⟨finiteFloats_of_toJson? item finite.1 first,
        finiteFloats_of_itemsToJson? items finite.2 later⟩

theorem finiteFloats_of_membersToJson? : (members : List (Option String × Draft)) →
    {levels : Nat} → {values : List (String × Json)} →
    (∀ member ∈ members, member.2.FiniteFloats) →
    Draft.membersToJson? levels members = some values → ∀ value ∈ values, value.2.FiniteFloats
  | [], _, _, _, complete => by
      cases complete
      exact List.forall_mem_nil _
  | (key, member) :: members, _, _, finite, complete => by
      obtain ⟨name, -, complete⟩ := Option.bind_eq_some_iff.mp complete
      obtain ⟨value, first, others⟩ := Option.bind_eq_some_iff.mp complete
      obtain ⟨values, later, ⟨⟩⟩ := Option.bind_eq_some_iff.mp others
      rw [List.forall_mem_cons] at finite
      exact List.forall_mem_cons.mpr ⟨finiteFloats_of_toJson? member finite.1 first,
        finiteFloats_of_membersToJson? members finite.2 later⟩

end

theorem isFinite_floatOfInt (value : Int) : (floatOfInt value).isFinite = true := by
  unfold floatOfInt
  split
  · exact Decimal.isFinite_neg (Decimal.isFinite_toFloat _)
  · exact Decimal.isFinite_toFloat _

/-- A float in a value with finite floats is finite. -/
theorem isFinite_of_readFloat {json : Json} (finite : json.FiniteFloats) {value : Float}
    (reads : readFloat json = .ok value) : value.isFinite = true := by
  cases json with
  | float number =>
      cases reads
      exact (allLeaves_scalar rfl).mp finite
  | int number =>
      cases reads
      exact isFinite_floatOfInt number
  | _ => contradiction

end TreeSieve.Json
