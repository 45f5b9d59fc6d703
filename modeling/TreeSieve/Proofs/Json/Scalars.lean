import Mathlib.Tactic.Common
import TreeSieve.Proofs.Json.Leaves
import TreeSieve.Proofs.Json.Results

/-!
# The tokens of written scalars

A scalar that is written and cut into tokens is one token, whatever follows where
it may end.  Texts come back whatever characters they hold and integers as long
as they fit 64 bits.  Floats come back if reading their text gives them back,
which the reader of decimals does not promise for all of them.
-/

namespace TreeSieve.Json

/-! ## Texts -/

theorem hexValue?_hexDigit : ∀ value < 16, TextState.hexValue? (hexDigit value) = some value := by
  decide

/-- A text of which these characters have been read, the last one first. -/
def readingText (characters : List Char) : LexState :=
  .text ⟨.plain, characters, none, true⟩

/-- A code unit outside the surrogates is a character of its own. -/
theorem pushUnit_eq_push {unit : Nat} (small : unit < 0xD800) (state : TextState) :
    state.pushUnit unit = state.push (Char.ofNat unit) := by
  have notLow : ¬ (0xDC00 ≤ unit ∧ unit ≤ 0xDFFF) := by omega
  have notHigh : ¬ (0xD800 ≤ unit ∧ unit ≤ 0xDBFF) := by omega
  rw [TextState.pushUnit, if_neg notLow, if_neg notHigh]

theorem lex_text_of_more {state next : TextState} {character : Char}
    (step : state.step character = .more next) (rest : List Char) :
    lex (.text state) (character :: rest) = lex (.text next) rest := by
  rw [lex, step]

/-- A written character is read as itself. -/
theorem lex_escape (character : Char) (before rest : List Char) :
    lex (readingText before) (escape character ++ rest) =
      lex (readingText (character :: before)) rest := by
  unfold escape
  split_ifs with isQuote isBackslash isFeed isReturn isTab isBackspace isFormFeed isControl
  · cases isQuote
    rfl
  · cases isBackslash
    rfl
  · cases isFeed
    rfl
  · cases isReturn
    rfl
  · cases isTab
    rfl
  · cases (Char.ofNat_toNat character).symm.trans (congrArg Char.ofNat isBackspace)
    rfl
  · cases (Char.ofNat_toNat character).symm.trans (congrArg Char.ofNat isFormFeed)
    rfl
  · have high := hexValue?_hexDigit (character.toNat / 16) (by omega)
    have low := hexValue?_hexDigit (character.toNat % 16) (by omega)
    have code : (0 * 16 + character.toNat / 16) * 16 + character.toNat % 16 = character.toNat := by
      omega
    have third : TextState.step ⟨.hex 2 0, before, none, true⟩ (hexDigit (character.toNat / 16)) =
        .more ⟨.hex 1 (0 * 16 + character.toNat / 16), before, none, true⟩ := by
      rw [TextState.step, high]
      rfl
    have fourth : TextState.step ⟨.hex 1 (0 * 16 + character.toNat / 16), before, none, true⟩
        (hexDigit (character.toNat % 16)) = .more ⟨.plain, character :: before, none, true⟩ := by
      simp only [TextState.step, low, code, Nat.le_refl, if_true]
      rw [pushUnit_eq_push (by omega), Char.ofNat_toNat]
      rfl
    -- The first two digits are zeros, so the machine runs over them by itself.
    exact (lex_text_of_more third _).trans (lex_text_of_more fourth rest)
  · apply lex_text_of_more
    simp only [TextState.step, if_neg isQuote, if_neg isBackslash, if_neg isControl]
    rfl

/-- A written text is read as itself. -/
theorem lex_quote (text : String) (rest : List Char) :
    lex .between (quote text ++ rest) = .text text :: lex .between rest := by
  have body : ∀ (characters before : List Char),
      lex (readingText before) (characters.flatMap escape ++ '"' :: rest) =
        .text (String.ofList (before.reverse ++ characters)) :: lex .between rest := by
    intro characters
    induction characters with
    | nil =>
        intro before
        rw [List.append_nil]
        rfl
    | cons character characters ih =>
        intro before
        rw [List.flatMap_cons, List.append_assoc, lex_escape, ih, List.reverse_cons,
          List.append_assoc]
        rfl
  have whole := body text.toList []
  rw [List.reverse_nil, List.nil_append, String.ofList_toList] at whole
  rw [quote, List.append_assoc]
  exact whole

/-! ## The end of a number -/

/-- What may follow a number in written JSON: nothing, a comma, the end of a container
or a line break. -/
def EndsNumber (rest : List Char) : Prop :=
  ∀ character ∈ rest.head?,
    character = ',' ∨ character = ']' ∨ character = '\x7d' ∨ character = '\n'

/-- A number that may end does end there. -/
theorem lex_number_of_endsNumber {state : NumberState} (spelled : state.finish ≠ .broken)
    {rest : List Char} (ends : EndsNumber rest) :
    lex (.number state) rest = state.finish :: lex .between rest := by
  cases rest with
  | nil => rfl
  | cons character rest =>
      have done : state.step character = .done := by
        obtain ⟨stage, negative, whole, fraction, exponentNegative, exponent⟩ := state
        rcases ends character rfl with rfl | rfl | rfl | rfl <;> cases stage <;>
          first | rfl | exact absurd rfl spelled
      simp only [lex, done]

/-! ## Integers -/

/-- The value of a digit. -/
def digitOf (character : Char) : Nat :=
  character.toNat - 48

theorem digitValue?_of_isDigit {character : Char} (isDigit : character.isDigit = true) :
    digitValue? character = some (digitOf character) := by
  have bounds : 48 ≤ character.toNat ∧ character.toNat ≤ 57 := by
    simpa [Char.isDigit, UInt32.le_iff_toNat_le] using isDigit
  rw [digitValue?, if_pos bounds, digitOf]

theorem lex_whole {state : NumberState} (stage : state.stage = .whole) {digits : List Char}
    (areDigits : ∀ digit ∈ digits, digit.isDigit = true) (rest : List Char) :
    lex (.number state) (digits ++ rest) =
      lex (.number { state with whole := (digits.map digitOf).reverse ++ state.whole }) rest := by
  induction digits generalizing state with
  | nil => rfl
  | cons digit digits ih =>
      have value := digitValue?_of_isDigit (areDigits digit List.mem_cons_self)
      have step : state.step digit =
          .more { state with whole := digitOf digit :: state.whole } := by
        rw [NumberState.step, stage, value]
      rw [List.cons_append, lex, step]
      have later := @ih { state with whole := digitOf digit :: state.whole } stage
        fun other member => areDigits other (List.mem_cons_of_mem digit member)
      refine later.trans ?_
      simp

/-- Reading digits that fit gives the number that they spell. -/
theorem absorbWhole_map_digitOf {digits : List Char} {significand : Nat}
    (fits : Nat.ofDigitChars 10 digits significand ≤ Decimal.maxSignificand) :
    Decimal.absorbWhole significand (digits.map digitOf) =
      (Nat.ofDigitChars 10 digits significand, 0) := by
  induction digits generalizing significand with
  | nil => rfl
  | cons digit digits ih =>
      have next : 10 * significand + (digit.toNat - '0'.toNat) =
          significand * 10 + digitOf digit := by
        rw [digitOf, Nat.mul_comm]
        rfl
      rw [Nat.ofDigitChars_cons, next] at fits ⊢
      have within : ¬ Decimal.maxSignificand < significand * 10 + digitOf digit := by
        rw [Nat.ofDigitChars_eq_ofDigitChars_zero] at fits
        have least := Nat.le_mul_of_pos_left (significand * 10 + digitOf digit)
          (Nat.pow_pos (by decide : 0 < 10) : 0 < 10 ^ digits.length)
        omega
      rw [List.map_cons, Decimal.absorbWhole, if_neg within, ih fits]

/-- The first digit of a positive number is not zero. -/
theorem toDigits_eq_cons {number : Nat} (positive : 0 < number) :
    ∃ first rest, Nat.toDigits 10 number = first :: rest ∧ digitOf first ≠ 0 := by
  induction number using Nat.strongRecOn with
  | _ number ih =>
      rw [Nat.toDigits_eq_if (by decide)]
      split
      · rename_i small
        refine ⟨number.digitChar, [], rfl, ?_⟩
        rw [digitOf, Nat.toNat_digitChar_sub_48_of_lt_ten small]
        omega
      · obtain ⟨first, rest, digits, notZero⟩ := ih (number / 10) (by omega) (by omega)
        exact ⟨first, rest ++ [(number % 10).digitChar], by rw [digits, List.cons_append], notZero⟩

/-- The digits of a number that fits are finished as that number. -/
theorem finish_toDigits {number : Nat} (fits : number ≤ Decimal.maxSignificand) {negative : Bool}
    (signed : negative = true → 0 < number ∧ number ≤ UInt64.size / 2) :
    NumberState.finish ⟨.whole, negative, ((Nat.toDigits 10 number).map digitOf).reverse, [],
      false, []⟩ = .int (if negative then -number else number) := by
  have absorbed : Decimal.absorbWhole 0 ((Nat.toDigits 10 number).map digitOf) = (number, 0) := by
    rw [absorbWhole_map_digitOf] <;> rw [Nat.ofDigitChars_ten_toDigits]
    exact fits
  cases negative with
  | false => simp [NumberState.finish, NumberState.spelling, Decimal.Spelling.read, absorbed]
  | true =>
      have bounds := signed rfl
      simp [NumberState.finish, NumberState.spelling, Decimal.Spelling.read, absorbed, bounds]

/-- The digits of a positive number, read from their first one on. -/
theorem lex_toDigits {number : Nat} (positive : 0 < number)
    (fits : number ≤ Decimal.maxSignificand) (negative : Bool)
    (signed : negative = true → 0 < number ∧ number ≤ UInt64.size / 2) {rest : List Char}
    (ends : EndsNumber rest) :
    ∃ first digits, Nat.toDigits 10 number = first :: digits ∧ first.isDigit = true ∧
      digitOf first ≠ 0 ∧
        lex (.number ⟨.whole, negative, [digitOf first], [], false, []⟩) (digits ++ rest) =
          .int (if negative then -number else number) :: lex .between rest := by
  obtain ⟨first, digits, spelling, notZero⟩ := toDigits_eq_cons positive
  have areDigits : ∀ digit ∈ first :: digits, digit.isDigit = true := by
    intro digit member
    rw [← spelling] at member
    exact Nat.isDigit_of_mem_toDigits (by decide) (by decide) member
  refine ⟨first, digits, spelling, areDigits first List.mem_cons_self, notZero, ?_⟩
  rw [lex_whole rfl fun digit member => areDigits digit (List.mem_cons_of_mem first member)]
  have state : (digits.map digitOf).reverse ++ [digitOf first] =
      ((Nat.toDigits 10 number).map digitOf).reverse := by
    rw [spelling, List.map_cons, List.reverse_cons]
  have finishes := finish_toDigits fits signed
  rw [state, lex_number_of_endsNumber _ ends, finishes]
  rw [finishes]
  simp

theorem opening_of_isDigit {character : Char} (isDigit : character.isDigit = true) :
    opening character = .state (.number
      ⟨if digitOf character = 0 then .zero else .whole, false, [digitOf character], [], false,
        []⟩) := by
  have other : ∀ letter : Char, letter.isDigit = false → character ≠ letter := by
    rintro letter notDigit rfl
    rw [isDigit] at notDigit
    contradiction
  have starts : NumberState.start? character =
      some ⟨if digitOf character = 0 then .zero else .whole, false, [digitOf character], [], false,
        []⟩ := by
    rw [NumberState.start?, if_neg (other '-' rfl), digitValue?_of_isDigit isDigit,
      Option.map_some]
  simp only [opening, isSpace, starts, other ' ' rfl, other '\n' rfl, other '\t' rfl,
    other '\r' rfl, other '[' rfl, other ']' rfl, other '\x7b' rfl, other '\x7d' rfl, other ':' rfl,
    other ',' rfl, other '"' rfl, other 'n' rfl, other 't' rfl, other 'f' rfl, decide_false,
    Bool.or_self, Bool.false_eq_true, if_false]

/-- A written natural number of 64 bits is read as itself. -/
theorem lex_natural {number : Nat} (fits : number ≤ Decimal.maxSignificand) {rest : List Char}
    (ends : EndsNumber rest) :
    lex .between (Nat.toDigits 10 number ++ rest) = .int number :: lex .between rest := by
  rcases Nat.eq_zero_or_pos number with rfl | positive
  · have spelled : NumberState.finish ⟨.zero, false, [0], [], false, []⟩ ≠ .broken :=
      show Token.int 0 ≠ .broken by simp
    exact lex_number_of_endsNumber spelled ends
  · obtain ⟨first, digits, spelling, isDigit, notZero, tokens⟩ :=
      lex_toDigits positive fits false (by simp) ends
    rw [spelling, List.cons_append, lex, opening_of_isDigit isDigit, if_neg notZero]
    exact tokens

/-- A written negative number of 64 bits is read as itself. -/
theorem lex_negative {number : Nat} (positive : 0 < number) (fits : number ≤ UInt64.size / 2)
    {rest : List Char} (ends : EndsNumber rest) :
    lex .between ('-' :: Nat.toDigits 10 number ++ rest) =
      .int (-number) :: lex .between rest := by
  have small : number ≤ Decimal.maxSignificand := by
    rw [Decimal.maxSignificand]
    omega
  obtain ⟨first, digits, spelling, isDigit, notZero, tokens⟩ :=
    lex_toDigits positive small true (fun _ => ⟨positive, fits⟩) ends
  have step : NumberState.step ⟨.sign, true, [], [], false, []⟩ first =
      .more ⟨.whole, true, [digitOf first], [], false, []⟩ := by
    simp only [NumberState.step, digitValue?_of_isDigit isDigit, if_neg notZero]
  rw [spelling]
  change lex (.number ⟨.sign, true, [], [], false, []⟩) (first :: (digits ++ rest)) = _
  rw [lex, step]
  exact tokens

/-- A written integer of 64 bits is read as itself. -/
theorem lex_spellInt {value : Int} (fits : (Json.int value).Legible) {rest : List Char}
    (ends : EndsNumber rest) :
    lex .between (spellInt value ++ rest) = .int value :: lex .between rest := by
  obtain ⟨least, greatest⟩ := fits
  rw [spellInt]
  split
  · have valueEq : value = -(value.natAbs : Int) := by omega
    rw [lex_negative (by omega) (by omega) ends, ← valueEq]
  · have valueEq : value = (value.natAbs : Int) := by omega
    have small : value.natAbs ≤ Decimal.maxSignificand := by
      rw [Decimal.maxSignificand]
      omega
    rw [lex_natural small ends, ← valueEq]

/-! ## Floats -/

/-- Whether a character can stand in a number. -/
def isNumberChar (character : Char) : Bool :=
  character.isDigit || ['.', 'e', '+', '-'].contains character

/-- Whether a token is all that numbers can give. -/
def Token.isNumeric : Token → Bool
  | .int _ | .float _ | .hugeNumber | .broken => true
  | _ => false

theorem isNumeric_finish (state : NumberState) : state.finish.isNumeric = true := by
  obtain ⟨stage, negative, whole, fraction, exponentNegative, exponent⟩ := state
  rw [NumberState.finish]
  cases stage <;> first | rfl | (dsimp only; split <;> rfl)

theorem opening_of_isNumberChar {character : Char} (inNumber : isNumberChar character = true) :
    (∃ state, opening character = .state (.number state)) ∨ opening character = .wrong := by
  rw [isNumberChar, Bool.or_eq_true] at inNumber
  rcases inNumber with isDigit | isSign
  · exact .inl ⟨_, opening_of_isDigit isDigit⟩
  · simp only [List.contains_iff_mem, List.mem_cons, List.not_mem_nil, or_false] at isSign
    rcases isSign with rfl | rfl | rfl | rfl
    · exact .inr rfl
    · exact .inr rfl
    · exact .inr rfl
    · exact .inl ⟨_, rfl⟩

/-- Characters of a number give at least one token, and the first one is that of a
number. -/
theorem exists_lex_number {characters : List Char}
    (inNumber : ∀ character ∈ characters, isNumberChar character = true) (state : NumberState) :
    ∃ token tokens, lex (.number state) characters = token :: tokens ∧
      token.isNumeric = true := by
  induction characters generalizing state with
  | nil => exact ⟨state.finish, [], rfl, isNumeric_finish state⟩
  | cons character rest ih =>
      rw [lex]
      cases state.step character with
      | more next => exact ih (fun other member => inNumber other (.tail _ member)) next
      | done => exact ⟨state.finish, _, rfl, isNumeric_finish state⟩
      | wrong => exact ⟨.broken, [], rfl, rfl⟩

/-- Characters that make one number still make it where a number may end. -/
theorem lex_number_append {characters : List Char}
    (inNumber : ∀ character ∈ characters, isNumberChar character = true) {state : NumberState}
    {token : Token} (single : lex (.number state) characters = [token]) (spelled : token ≠ .broken)
    {rest : List Char} (ends : EndsNumber rest) :
    lex (.number state) (characters ++ rest) = token :: lex .between rest := by
  induction characters generalizing state with
  | nil =>
      cases single
      exact lex_number_of_endsNumber spelled ends
  | cons character characters ih =>
      have later : ∀ other ∈ characters, isNumberChar other = true :=
        fun other member => inNumber other (.tail _ member)
      rw [lex] at single
      rw [List.cons_append, lex]
      cases step : state.step character with
      | more next =>
          rw [step] at single
          exact ih later single
      | wrong =>
          rw [step] at single
          cases single
          exact absurd rfl spelled
      | done =>
          -- Whatever the character begins gives a second token.
          rw [step] at single
          rcases opening_of_isNumberChar (inNumber character List.mem_cons_self) with
            ⟨next, opens⟩ | opens
          · obtain ⟨second, tokens, lexed, -⟩ := exists_lex_number later next
            simp [opens, lexed] at single
          · simp [opens] at single

theorem isNumberChar_of_mem_toDigits {number : Nat} {character : Char}
    (member : character ∈ Nat.toDigits 10 number) : isNumberChar character = true := by
  rw [isNumberChar, Nat.isDigit_of_mem_toDigits (by decide) (by decide) member, Bool.true_or]

theorem isNumberChar_of_mem_plain {number : Decimal.Digits}
    (inDigits : ∀ character ∈ number.digits, isNumberChar character = true) {character : Char}
    (member : character ∈ number.plain) : isNumberChar character = true := by
  have sign : isNumberChar '0' = true ∧ isNumberChar '.' = true := by decide
  unfold Decimal.Digits.plain at member
  split at member
  · simp only [List.mem_append, List.mem_cons, List.mem_replicate, List.not_mem_nil, or_false]
      at member
    grind
  · simp only [List.mem_append, List.mem_cons, List.mem_replicate, List.not_mem_nil, or_false]
      at member
    have front : character ∈ number.digits.take number.point.toNat → character ∈ number.digits :=
      List.mem_of_mem_take
    have back : character ∈ number.digits.drop number.point.toNat → character ∈ number.digits :=
      List.mem_of_mem_drop
    grind

theorem isNumberChar_of_mem_scientific {number : Decimal.Digits} {signedExponent : Bool}
    (inDigits : ∀ character ∈ number.digits, isNumberChar character = true) {character : Char}
    (member : character ∈ number.scientific signedExponent) : isNumberChar character = true := by
  have sign : isNumberChar '0' = true ∧ isNumberChar '.' = true ∧ isNumberChar 'e' = true ∧
      isNumberChar '+' = true ∧ isNumberChar '-' = true := by decide
  simp only [Decimal.Digits.scientific, List.mem_append] at member
  rcases member with ((member | member) | member) | member
  · grind
  · grind
  · grind
  · exact isNumberChar_of_mem_toDigits member

/-- A written float consists of characters of a number. -/
theorem isNumberChar_of_mem_render {layout : Decimal.Layout} {value : Float} {character : Char}
    (member : character ∈ (layout.render value).toList) : isNumberChar character = true := by
  have inDigits : ∀ digit ∈ (Decimal.shortest value).digits, isNumberChar digit = true := by
    intro digit member
    simp only [Decimal.shortest, Decimal.Digits.ofScientific, List.mem_reverse] at member
    exact isNumberChar_of_mem_toDigits
      (List.mem_reverse.mp ((List.dropWhile_sublist _).mem member))
  have ofSign : ∀ negative : Prop, ∀ [Decidable negative],
      character ∈ (if negative then ['-'] else []) → isNumberChar character = true := by
    intro negative _ member
    split at member
    · rw [List.mem_singleton.mp member]
      rfl
    · contradiction
  rw [Decimal.Layout.render] at member
  split at member
  · rw [String.toList_ofList, List.mem_append] at member
    rcases member with member | member
    · exact ofSign _ member
    · have zero : isNumberChar '0' = true ∧ isNumberChar '.' = true := by decide
      grind
  · rw [String.toList_ofList, List.mem_append] at member
    rcases member with member | member
    · exact ofSign _ member
    · split at member
      · exact isNumberChar_of_mem_plain inDigits member
      · exact isNumberChar_of_mem_scientific inDigits member

/-- A float that reads back is written as characters of a number. -/
theorem isNumberChar_of_readsBack {value : Float} (readsBack : ReadsBack value) :
    ∀ character ∈ spellFloat value, isNumberChar character = true := by
  intro character member
  rw [ReadsBack, render, write, spell] at readsBack
  rw [spellFloat] at member readsBack
  split at member
  · -- Without a finite value the text is null and reads as that.
    rename_i notFinite
    rw [if_pos notFinite] at readsBack
    cases readsBack
  · exact isNumberChar_of_mem_render member

/-- A float that reads back is a token of its own. -/
theorem lex_spellFloat_of_readsBack {value : Float} (readsBack : ReadsBack value) :
    lex .between (spellFloat value) = [.float value] := by
  have inNumber := isNumberChar_of_readsBack readsBack
  obtain ⟨reads, ended⟩ := parse_eq_ok_iff.mp readsBack
  rw [draftOf, tokens, render, write, spell, String.toList_ofList] at reads ended
  have numeric : lex .between (spellFloat value) = [] ∨ ∃ token rest,
      lex .between (spellFloat value) = token :: rest ∧ token.isNumeric = true := by
    cases spelled : spellFloat value with
    | nil => exact .inl rfl
    | cons character rest =>
        rw [spelled] at inNumber
        rw [lex]
        rcases opening_of_isNumberChar (inNumber character List.mem_cons_self) with
          ⟨state, opens⟩ | opens
        · rw [opens]
          exact .inr (exists_lex_number (fun other member => inNumber other (.tail _ member)) state)
        · rw [opens]
          exact .inr ⟨.broken, [], rfl, rfl⟩
  rcases numeric with nothing | ⟨token, rest, lexed, isNumeric⟩
  · rw [nothing] at reads
    contradiction
  · rw [lexed] at reads ended ⊢
    cases token with
    | float found =>
        cases reads
        cases rest with
        | nil => rfl
        | cons second rest => contradiction
    | int found => cases reads
    | hugeNumber => cases reads
    | broken => cases reads
    | _ => cases isNumeric

/-- A written float that reads back is read as itself. -/
theorem lex_spellFloat {value : Float} (readsBack : ReadsBack value) {rest : List Char}
    (ends : EndsNumber rest) :
    lex .between (spellFloat value ++ rest) = .float value :: lex .between rest := by
  have inNumber := isNumberChar_of_readsBack readsBack
  have single := lex_spellFloat_of_readsBack readsBack
  cases spelled : spellFloat value with
  | nil =>
      rw [spelled] at single
      contradiction
  | cons character characters =>
      rw [spelled] at single inNumber
      rw [lex] at single
      rw [List.cons_append, lex]
      rcases opening_of_isNumberChar (inNumber character List.mem_cons_self) with
        ⟨state, opens⟩ | opens
      · rw [opens] at single ⊢
        exact lex_number_append (fun other member => inNumber other (.tail _ member)) single
          (by simp) ends
      · rw [opens] at single
        cases single

end TreeSieve.Json
