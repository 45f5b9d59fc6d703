import TreeSieve.Proofs.Json.Scalars

/-!
# Reading written JSON

A written value is cut into the tokens that spell it, whatever blanks its style sets
between them, and these are put together to the draft of the value, with nothing behind
it.  So reading a written value is reading the value, whatever it is read as, and a value
whose containers are not nested too deep is read as itself.
-/

namespace TreeSieve.Json

/-! ## Nesting -/

mutual

/-- How deep the containers of a value are nested. -/
def depth : Json → Nat
  | .array items => depthOfItems items + 1
  | .object members => depthOfMembers members + 1
  | _ => 0

/-- How deep the containers of the items are nested. -/
def depthOfItems : List Json → Nat
  | [] => 0
  | item :: rest => max (depth item) (depthOfItems rest)

/-- How deep the containers of the members are nested. -/
def depthOfMembers : List (String × Json) → Nat
  | [] => 0
  | (_, value) :: rest => max (depth value) (depthOfMembers rest)

end

theorem depth_array_le {items : List Json} {levels : Nat}
    (shallow : ∀ item ∈ items, item.depth ≤ levels) : (Json.array items).depth ≤ levels + 1 := by
  rw [depth, Nat.add_le_add_iff_right]
  induction items with
  | nil => exact Nat.zero_le levels
  | cons item items ih =>
      rw [List.forall_mem_cons] at shallow
      exact Nat.max_le.mpr ⟨shallow.1, ih shallow.2⟩

theorem depth_object_le_iff {members : List (String × Json)} {levels : Nat} :
    (Json.object members).depth ≤ levels + 1 ↔ ∀ member ∈ members, member.2.depth ≤ levels := by
  rw [depth, Nat.add_le_add_iff_right]
  induction members with
  | nil => simp [depthOfMembers]
  | cons member members ih =>
      rw [List.forall_mem_cons, ← ih]
      exact Nat.max_le

theorem depth_object_le {members : List (String × Json)} {levels : Nat}
    (shallow : ∀ member ∈ members, member.2.depth ≤ levels) :
    (Json.object members).depth ≤ levels + 1 :=
  depth_object_le_iff.mpr shallow

/-! ## Tokens of written values -/

mutual

/-- The tokens that spell a value. -/
def toTokens : Json → List Token
  | .null => [.null]
  | .bool value => [.bool value]
  | .int value => [.int value]
  | .float value => [.float value]
  | .string text => [.text text]
  | .array items => .openBracket :: itemTokens items
  | .object members => .openBrace :: memberTokens members

/-- The tokens of items and of the end of their array. -/
def itemTokens : List Json → List Token
  | [] => [.closeBracket]
  | [item] => toTokens item ++ [.closeBracket]
  | item :: rest => toTokens item ++ .comma :: itemTokens rest

/-- The tokens of members and of the end of their object. -/
def memberTokens : List (String × Json) → List Token
  | [] => [.closeBrace]
  | [(key, value)] => .text key :: .colon :: toTokens value ++ [.closeBrace]
  | (key, value) :: rest => .text key :: .colon :: toTokens value ++ .comma :: memberTokens rest

end

theorem endsNumber_cons {character : Char} (rest : List Char)
    (ends : character = ',' ∨ character = ']' ∨ character = '\x7d' ∨ character = '\n') :
    EndsNumber (character :: rest) := by
  rintro _ ⟨⟩
  exact ends

/-- Blanks between tokens are passed over. -/
theorem lex_blanks {blanks : List Char}
    (blank : ∀ character ∈ blanks, character = ' ' ∨ character = '\n') (rest : List Char) :
    lex .between (blanks ++ rest) = lex .between rest := by
  induction blanks with
  | nil => rfl
  | cons character blanks ih =>
      have later := ih fun other member => blank other (.tail _ member)
      rcases blank character List.mem_cons_self with rfl | rfl <;> exact later

namespace Style

variable (style : Style)

theorem lex_lineBreak (level : Nat) (rest : List Char) :
    lex .between (style.lineBreak level ++ rest) = lex .between rest :=
  lex_blanks (style.lineBreak_blank level) rest

theorem lex_gap (rest : List Char) : lex .between (style.gap ++ rest) = lex .between rest :=
  lex_blanks style.gap_blank rest

/-- A number may end in front of a line break if it may end behind it. -/
theorem endsNumber_lineBreak (level : Nat) {rest : List Char} (ends : EndsNumber rest) :
    EndsNumber (style.lineBreak level ++ rest) := by
  intro character first
  cases broken : style.lineBreak level with
  | nil => exact ends character (by simpa [broken] using first)
  | cons head blanks =>
      have isHead : head = character := by simpa [broken] using first
      have isBreak : head = '\n' := style.lineBreak_head level head (by simp [broken])
      exact .inr (.inr (.inr (isHead ▸ isBreak)))

end Style

section Lex

variable (style : Style)

mutual

/-- Cutting a written value into tokens gives the tokens that spell it, whatever blanks
its style sets and whatever follows where a number may end. -/
theorem lex_spell : (value : Json) → value.Readable → (level : Nat) → (rest : List Char) →
    EndsNumber rest →
    lex .between (spell style level value ++ rest) = toTokens value ++ lex .between rest
  | .null, _, _, _, _ => rfl
  | .bool true, _, _, _, _ => rfl
  | .bool false, _, _, _, _ => rfl
  | .int value, readable, _, _, ends =>
      lex_spellInt (readable (.int value) (.head [])) ends
  | .float value, readable, _, _, ends =>
      lex_spellFloat (readable (.float value) (.head [])) ends
  | .string text, _, _, rest, _ => lex_quote text rest
  | .array items, readable, level, rest, _ =>
      congrArg (Token.openBracket :: ·) (lex_spellItems items readable level rest)
  | .object members, readable, level, rest, _ =>
      congrArg (Token.openBrace :: ·) (lex_spellMembers members readable level rest)

theorem lex_spellItems : (items : List Json) → (∀ leaf ∈ leavesOfItems items, leaf.Legible) →
    (level : Nat) → (rest : List Char) →
    lex .between (spellItems style level items ++ rest) = itemTokens items ++ lex .between rest
  | [], _, _, _ => rfl
  | [item], readable, level, rest => by
      have readableItem : item.Readable := fun leaf member =>
        readable leaf (List.mem_append_left _ member)
      have first := lex_spell item readableItem (level + 1) (style.lineBreak level ++ ']' :: rest)
        (style.endsNumber_lineBreak level (endsNumber_cons rest (by simp)))
      simp only [spellItems, itemTokens, List.append_assoc, List.cons_append, List.nil_append,
        style.lex_lineBreak, first]
      rfl
  | item :: next :: items, readable, level, rest => by
      have readableItem : item.Readable := fun leaf member =>
        readable leaf (List.mem_append_left _ member)
      have first := lex_spell item readableItem (level + 1)
        (',' :: (spellItems style level (next :: items) ++ rest)) (endsNumber_cons _ (by simp))
      have later := lex_spellItems (next :: items)
        (fun leaf member => readable leaf (List.mem_append_right _ member)) level rest
      have comma : lex .between (',' :: (spellItems style level (next :: items) ++ rest)) =
          .comma :: (itemTokens (next :: items) ++ lex .between rest) :=
        congrArg (Token.comma :: ·) later
      simp only [spellItems, itemTokens, List.append_assoc, List.cons_append, style.lex_lineBreak,
        first, comma]

theorem lex_spellMembers : (members : List (String × Json)) →
    (∀ leaf ∈ leavesOfMembers members, leaf.Legible) → (level : Nat) → (rest : List Char) →
    lex .between (spellMembers style level members ++ rest) =
      memberTokens members ++ lex .between rest
  | [], _, _, _ => rfl
  | [(key, value)], readable, level, rest => by
      have readableValue : value.Readable := fun leaf member =>
        readable leaf (List.mem_append_left _ member)
      have first := lex_spell value readableValue (level + 1)
        (style.lineBreak level ++ '\x7d' :: rest)
        (style.endsNumber_lineBreak level (endsNumber_cons rest (by simp)))
      rw [style.lex_lineBreak] at first
      have after : lex .between (':' :: (style.gap ++ (spell style (level + 1) value ++
          (style.lineBreak level ++ '\x7d' :: rest)))) =
            .colon :: (toTokens value ++ .closeBrace :: lex .between rest) :=
        congrArg (Token.colon :: ·) ((style.lex_gap _).trans first)
      simp only [spellMembers, memberTokens, List.append_assoc, List.cons_append, List.nil_append,
        style.lex_lineBreak, lex_quote, after]
  | (key, value) :: next :: members, readable, level, rest => by
      have readableValue : value.Readable := fun leaf member =>
        readable leaf (List.mem_append_left _ member)
      have first := lex_spell value readableValue (level + 1)
        (',' :: (spellMembers style level (next :: members) ++ rest)) (endsNumber_cons _ (by simp))
      have later := lex_spellMembers (next :: members)
        (fun leaf member => readable leaf (List.mem_append_right _ member)) level rest
      have after : lex .between (':' :: (style.gap ++ (spell style (level + 1) value ++
          ',' :: (spellMembers style level (next :: members) ++ rest)))) =
            .colon :: (toTokens value ++ .comma :: (memberTokens (next :: members) ++
              lex .between rest)) := by
        rw [← later]
        exact congrArg (Token.colon :: ·) ((style.lex_gap _).trans first)
      simp only [spellMembers, memberTokens, List.append_assoc, List.cons_append,
        style.lex_lineBreak, lex_quote, after]

end

end Lex

/-! ## Drafts of written values -/

/-- What is read behind a value that has ended inside these frames. -/
def behind (value : Draft) (rest : List Token) : List Frame → Text
  | [] => ⟨value, !rest.isEmpty⟩
  | frame :: frames => assemble rest .separator (place value (frame :: frames))

theorem assemble_of_settle {token : Token} {expected : Expected} {frames outer : List Frame}
    {value : Draft} (step : advance token expected frames = settle value outer)
    (rest : List Token) : assemble (token :: rest) expected frames = behind value rest outer := by
  cases outer with
  | nil => rw [assemble, step, settle, behind]
  | cons frame outer => simp only [assemble, step, settle, behind]

/-- A scalar stands for itself wherever a value may begin. -/
theorem assemble_scalar {token : Token} {value : Draft} (scalar : scalar? token = some value)
    {expected : Expected} (begins : expected = .value ∨ expected = .firstItem)
    (rest : List Token) (frames : List Frame) :
    assemble (token :: rest) expected frames = behind value rest frames := by
  apply assemble_of_settle
  rcases begins with rfl | rfl <;> cases token <;>
    first | contradiction | simp only [advance, beginValue, scalar]

mutual

/-- The tokens of a value give its draft wherever a value may begin. -/
theorem assemble_toTokens : (value : Json) → {expected : Expected} →
    (expected = .value ∨ expected = .firstItem) → (rest : List Token) → (frames : List Frame) →
    assemble (toTokens value ++ rest) expected frames = behind (.ofJson value) rest frames
  | .null, _, begins, rest, frames => assemble_scalar rfl begins rest frames
  | .bool _, _, begins, rest, frames => assemble_scalar rfl begins rest frames
  | .int _, _, begins, rest, frames => assemble_scalar rfl begins rest frames
  | .float _, _, begins, rest, frames => assemble_scalar rfl begins rest frames
  | .string _, _, begins, rest, frames => assemble_scalar rfl begins rest frames
  | .array items, _, begins, rest, frames => by
      have inner := assemble_itemTokens items [] (.inl rfl) rest frames
      rcases begins with rfl | rfl <;> exact inner
  | .object members, _, begins, rest, frames => by
      have inner := assemble_memberTokens members [] none (.inl rfl) rest frames
      rcases begins with rfl | rfl <;> exact inner

/-- The tokens of items give the array that holds them behind those read before. -/
theorem assemble_itemTokens : (items : List Json) → (before : List Draft) →
    {expected : Expected} → (expected = .firstItem ∨ expected = .value ∧ items ≠ []) →
    (rest : List Token) → (frames : List Frame) →
    assemble (itemTokens items ++ rest) expected (.array before :: frames) =
      behind (.array (before.reverse ++ Draft.ofItems items)) rest frames
  | [], before, _, begins, rest, frames => by
      rcases begins with rfl | ⟨-, notNil⟩
      · rw [Draft.ofItems, List.append_nil]
        exact assemble_of_settle rfl rest
      · contradiction
  | [item], before, _, begins, rest, frames => by
      have first := assemble_toTokens item (begins.symm.imp_left And.left) (.closeBracket :: rest)
        (.array before :: frames)
      rw [itemTokens, List.append_assoc, List.singleton_append, first, behind, place,
        assemble_of_settle rfl rest, List.reverse_cons]
      rfl
  | item :: next :: items, before, _, begins, rest, frames => by
      have first := assemble_toTokens item (begins.symm.imp_left And.left)
        (.comma :: (itemTokens (next :: items) ++ rest)) (.array before :: frames)
      have later := assemble_itemTokens (next :: items) (.ofJson item :: before)
        (.inr ⟨rfl, List.cons_ne_nil next items⟩) rest frames
      rw [List.reverse_cons, List.append_assoc] at later
      rw [itemTokens, List.append_assoc, List.cons_append, first]
      · exact later
      · simp

/-- The tokens of members give the object that holds them behind those read
before. -/
theorem assemble_memberTokens : (members : List (String × Json)) →
    (before : List (Option String × Draft)) → (key : Option String) → {expected : Expected} →
    (expected = .firstKey ∨ expected = .key ∧ members ≠ []) → (rest : List Token) →
    (frames : List Frame) →
    assemble (memberTokens members ++ rest) expected (.object before key :: frames) =
      behind (.object (before.reverse ++ Draft.ofMembers members)) rest frames
  | [], before, _, _, begins, rest, frames => by
      rcases begins with rfl | ⟨-, notNil⟩
      · rw [Draft.ofMembers, List.append_nil]
        exact assemble_of_settle rfl rest
      · contradiction
  | [(key, value)], before, _, _, begins, rest, frames => by
      have first := assemble_toTokens value (.inl rfl) (.closeBrace :: rest)
        (.object before (some key) :: frames)
      rw [behind, place, assemble_of_settle rfl rest, List.reverse_cons] at first
      rw [memberTokens, List.append_assoc]
      rcases begins with rfl | ⟨rfl, -⟩ <;> exact first
  | (key, value) :: next :: members, before, _, _, begins, rest, frames => by
      have first := assemble_toTokens value (.inl rfl)
        (.comma :: (memberTokens (next :: members) ++ rest)) (.object before (some key) :: frames)
      have later := assemble_memberTokens (next :: members) ((some key, .ofJson value) :: before)
        none (.inr ⟨rfl, List.cons_ne_nil next members⟩) rest frames
      rw [List.reverse_cons, List.append_assoc] at later
      have both := first.trans later
      rw [memberTokens, List.append_assoc]
      · rcases begins with rfl | ⟨rfl, -⟩ <;> exact both
      · simp

end

/-- The draft of a written value is the value, with nothing behind it. -/
theorem draftOf_write {style : Style} {value : Json} (readable : value.Readable) :
    draftOf (write style value) = ⟨.ofJson value, false⟩ := by
  have lexed := lex_spell style value readable 0 [] (fun _ member => absurd member (by simp))
  rw [List.append_nil] at lexed
  rw [draftOf, tokens, write, String.toList_ofList, lexed]
  exact assemble_toTokens value (.inl rfl) [] []

/-- Reading a written value is reading the value. -/
theorem readText_write {α : Type} (read : Draft → Read α) {style : Style} {value : Json}
    (readable : value.Readable) : readText read (write style value) = read (.ofJson value) := by
  rw [readText, draftOf_write readable]
  exact bind_pure _

theorem readText_render {α : Type} (read : Draft → Read α) {value : Json}
    (readable : value.Readable) : readText read value.render = read (.ofJson value) :=
  readText_write read readable

/-! ## Complete values -/

mutual

/-- A value that is not nested too deep is complete. -/
theorem toJson?_ofJson : (value : Json) → {levels : Nat} → value.depth ≤ levels →
    (Draft.ofJson value).toJson? levels = some value
  | .null, _, _ => by simp [Draft.ofJson, Draft.toJson?]
  | .bool _, _, _ => by simp [Draft.ofJson, Draft.toJson?]
  | .int _, _, _ => by simp [Draft.ofJson, Draft.toJson?]
  | .float _, _, _ => by simp [Draft.ofJson, Draft.toJson?]
  | .string _, _, _ => by simp [Draft.ofJson, Draft.toJson?]
  | .array items, levels + 1, shallow => by
      rw [Draft.ofJson, Draft.toJson?, itemsToJson?_ofItems items (Nat.le_of_succ_le_succ shallow)]
      rfl
  | .object members, levels + 1, shallow => by
      rw [Draft.ofJson, Draft.toJson?,
        membersToJson?_ofMembers members (Nat.le_of_succ_le_succ shallow)]
      rfl

theorem itemsToJson?_ofItems : (items : List Json) → {levels : Nat} →
    depthOfItems items ≤ levels →
    Draft.itemsToJson? levels (Draft.ofItems items) = some items
  | [], _, _ => by simp [Draft.ofItems, Draft.itemsToJson?]
  | item :: rest, _, shallow => by
      obtain ⟨first, later⟩ := Nat.max_le.mp shallow
      simp [Draft.ofItems, Draft.itemsToJson?, toJson?_ofJson item first,
        itemsToJson?_ofItems rest later]

theorem membersToJson?_ofMembers : (members : List (String × Json)) → {levels : Nat} →
    depthOfMembers members ≤ levels →
    Draft.membersToJson? levels (Draft.ofMembers members) = some members
  | [], _, _ => by simp [Draft.ofMembers, Draft.membersToJson?]
  | (key, value) :: rest, _, shallow => by
      obtain ⟨first, later⟩ := Nat.max_le.mp shallow
      simp [Draft.ofMembers, Draft.membersToJson?, toJson?_ofJson value first,
        membersToJson?_ofMembers rest later]

end

theorem readJson_ofJson {value : Json} {levels : Nat} (shallow : value.depth ≤ levels) :
    (Draft.ofJson value).readJson levels = .ok value := by
  rw [Draft.readJson, toJson?_ofJson value shallow]
  rfl

theorem ofItems_eq_map (items : List Json) : Draft.ofItems items = items.map Draft.ofJson := by
  induction items with
  | nil => rw [Draft.ofItems, List.map_nil]
  | cons item items ih => rw [Draft.ofItems, ih, List.map_cons]

theorem ofMembers_append (first second : List (String × Json)) :
    Draft.ofMembers (first ++ second) = Draft.ofMembers first ++ Draft.ofMembers second := by
  induction first with
  | nil => rw [List.nil_append, Draft.ofMembers, List.nil_append]
  | cons member members ih =>
      obtain ⟨key, value⟩ := member
      rw [List.cons_append, Draft.ofMembers, ih, Draft.ofMembers, List.cons_append]

/-- A written list is read as itself if its items are. -/
theorem readList_ofJson {α : Type} {read : Draft → Read α} {write : α → Json} {values : List α}
    (reads : ∀ value ∈ values, read (.ofJson (write value)) = .ok value) :
    (Draft.ofJson (.array (values.map write))).readList read = .ok values := by
  rw [Draft.ofJson, Draft.readList, ofItems_eq_map, List.map_map]
  exact mapM_map_of_reads reads

/-- A written value that is not nested too deep is read as itself, in whatever style it is
written. -/
theorem parse_write {style : Style} {value : Json} (readable : value.Readable)
    (shallow : value.depth ≤ Draft.maxDepth) : parse (write style value) = .ok value := by
  rw [parse, readText_write _ readable]
  exact readJson_ofJson shallow

end TreeSieve.Json
