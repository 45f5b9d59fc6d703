import Mathlib.Data.List.Nodup
import Mathlib.Data.List.TakeWhile
import TreeSieve.CommandLine.Arguments
import TreeSieve.Proofs.Json.Results

/-!
# Reading arguments

Words that are read only add to what was read before them: options are noted and
operands put behind the others.  An option that is given once is never noted a
second time, so it keeps the value that came with it to the end.  From this, if
words are accepted and leave no operand over, the value of such an option is what
stands behind its name, in the same word or in the next.
-/

namespace TreeSieve.CommandLine

open Json (bind_eq_ok_iff)

/-- Some words give an option a value, in one word or in two. -/
def Gives (words : List String) (name value : String) : Prop :=
  "--" ++ name ++ "=" ++ value ∈ words ∨ ["--" ++ name, value] <:+: words

namespace Reading

/-! ## What a word can do -/

/-- The option that waits for values is a known one. -/
def Known (specs : List OptionSpec) (reading : Reading) : Prop :=
  ∀ spec values, reading.pending = some (spec, values) → spec ∈ specs

/-- What was read goes on to what is read later. -/
structure Continues (specs : List OptionSpec) (reading next : Reading) : Prop where
  given : reading.given <+: next.given
  operands : reading.operands <+: next.operands
  once : ∀ spec ∈ specs, spec.arity = .one → reading.has spec.name = true →
    next.values spec.name = reading.values spec.name
  known : next.Known specs

section Continues

variable {specs : List OptionSpec} {reading next : Reading}

theorem has_of_given (given : reading.given <+: next.given) {name : String}
    (has : reading.has name = true) : next.has name = true := by
  obtain ⟨notes, split⟩ := given
  rw [Reading.has, ← split, List.any_append]
  exact Bool.or_eq_true_iff.mpr (.inl has)

theorem Continues.refl (known : reading.Known specs) : Continues specs reading reading where
  given := List.prefix_rfl
  operands := List.prefix_rfl
  once _ _ _ _ := rfl
  known := known

theorem Continues.trans {last : Reading} (first : Continues specs reading next)
    (second : Continues specs next last) : Continues specs reading last where
  given := first.given.trans second.given
  operands := first.operands.trans second.operands
  once spec member once has := by
    rw [second.once spec member once (has_of_given first.given has),
      first.once spec member once has]
  known := second.known

/-- If no operand is left over at the end, there was none before. -/
theorem Continues.operands_eq_nil (later : Continues specs reading next)
    (complete : next.operands = []) : reading.operands = [] :=
  List.prefix_nil.mp (complete ▸ later.operands)

end Continues

section Steps

variable {specs : List OptionSpec} {reading next : Reading} {spec : OptionSpec}
  {values : List String}

theorem note_eq_ok (noted : reading.note spec values = .ok next) :
    next = { reading with given := reading.given ++ [(spec.name, values)] } ∧
      (spec.arity = .one → reading.has spec.name = false) := by
  rw [note] at noted
  cases arity : spec.arity with
  | halts halt =>
      rw [arity] at noted
      cases noted
  | counted =>
      rw [arity] at noted
      cases noted
      exact ⟨rfl, nofun⟩
  | many =>
      rw [arity] at noted
      cases noted
      exact ⟨rfl, nofun⟩
  | flag =>
      simp only [arity] at noted
      split at noted
      · cases noted
      · cases noted
        exact ⟨rfl, nofun⟩
  | one =>
      simp only [arity] at noted
      split at noted
      · cases noted
      · rename_i fresh
        cases noted
        exact ⟨rfl, fun _ => Bool.eq_false_iff.mpr fresh⟩

theorem values_note (noted : reading.note spec values = .ok next) (name : String) :
    next.values name = reading.values name ++ if spec.name = name then values else [] := by
  rw [(note_eq_ok noted).1, Reading.values, List.flatMap_append, List.flatMap_singleton]
  rfl

theorem has_note (noted : reading.note spec values = .ok next) : next.has spec.name = true := by
  rw [(note_eq_ok noted).1, Reading.has, List.any_append]
  simp

/-- The first note of an option that is given once is all that it is given. -/
theorem values_note_of_once (once : spec.arity = .one)
    (noted : reading.note spec values = .ok next) : next.values spec.name = values := by
  have fresh := (note_eq_ok noted).2 once
  have none : reading.values spec.name = [] := by
    rw [Reading.has, List.any_eq_false] at fresh
    refine List.flatMap_eq_nil_iff.mpr fun entry member => if_neg fun same => ?_
    exact fresh entry member (beq_iff_eq.mpr same)
  rw [values_note noted, none, if_pos rfl, List.nil_append]

variable (distinct : (specs.map OptionSpec.name).Nodup)

include distinct

theorem note_continues (known : reading.Known specs) (member : spec ∈ specs)
    (noted : reading.note spec values = .ok next) : Continues specs reading next := by
  obtain ⟨rfl, fresh⟩ := note_eq_ok noted
  refine ⟨List.prefix_append _ _, List.prefix_rfl, ?_, known⟩
  intro other otherMember once has
  -- Options of one name are one option, and it would be noted twice.
  have apart : spec.name ≠ other.name := by
    intro same
    obtain rfl := List.inj_on_of_nodup_map distinct member otherMember same
    rw [fresh once] at has
    cases has
  rw [values_note noted, if_neg apart, List.append_nil]

theorem close_continues (known : reading.Known specs) (closed : reading.close = .ok next) :
    Continues specs reading next := by
  rw [close] at closed
  split at closed
  · cases closed
    exact .refl known
  · cases closed
  · rename_i spec values _ isPending
    have nothing : Known specs { reading with pending := none } := nofun
    have later := note_continues distinct nothing (known _ _ isPending) closed
    exact ⟨later.given, later.operands, later.once, later.known⟩

theorem attach_continues (known : reading.Known specs) (member : spec ∈ specs) {value : String}
    (attached : reading.attach spec value = .ok next) : Continues specs reading next := by
  rw [attach] at attached
  split at attached
  · exact note_continues distinct known member attached
  · cases attached

theorem await_continues (known : reading.Known specs) (member : spec ∈ specs)
    (awaited : reading.await spec = .ok next) : Continues specs reading next := by
  rw [await] at awaited
  split at awaited
  · cases awaited
    refine ⟨List.prefix_rfl, List.prefix_rfl, fun _ _ _ _ => rfl, ?_⟩
    rintro _ _ ⟨⟩
    exact member
  · exact note_continues distinct known member awaited

theorem readName_continues (known : reading.Known specs) {word : List Char}
    (read : readName specs reading word = .ok next) : Continues specs reading next := by
  rw [readName] at read
  split at read
  · cases read
  · rename_i found _
    exact await_continues distinct known (List.mem_of_find?_eq_some found) read
  · rename_i found _
    exact attach_continues distinct known (List.mem_of_find?_eq_some found) read

theorem readLetters_continues (known : reading.Known specs) {word : List Char}
    (read : readLetters specs reading word = .ok next) : Continues specs reading next := by
  induction word generalizing reading with
  | nil =>
      cases read
      exact .refl known
  | cons letter rest ih =>
      rw [readLetters] at read
      split at read
      · cases read
      · rename_i spec found
        have member := List.mem_of_find?_eq_some found
        split at read
        · split at read
          · exact await_continues distinct known member read
          · exact attach_continues distinct known member read
          · exact attach_continues distinct known member read
        · obtain ⟨noted, isNoted, read⟩ := bind_eq_ok_iff.mp read
          have step := note_continues distinct known member isNoted
          exact step.trans (ih step.known read)

theorem readPlain_continues (known : reading.Known specs) {word : String}
    (read : reading.readPlain word = .ok next) : Continues specs reading next := by
  rw [readPlain] at read
  split at read
  · cases read
    exact ⟨List.prefix_rfl, List.prefix_append _ _, fun _ _ _ _ => rfl, known⟩
  · rename_i spec values isPending
    have member := known _ _ isPending
    have more : Known specs { reading with pending := some (spec, values ++ [word]) } := by
      rintro _ _ ⟨⟩
      exact member
    split at read
    · cases read
    · dsimp only at read
      split at read
      · have later := close_continues distinct more read
        exact ⟨later.given, later.operands, later.once, later.known⟩
      · cases read
        exact ⟨List.prefix_rfl, List.prefix_rfl, fun _ _ _ _ => rfl, more⟩

/-- Reading one word goes on from what was read. -/
theorem readWord_continues (known : reading.Known specs) {word : String}
    (read : readWord specs reading word = .ok next) : Continues specs reading next := by
  rw [readWord] at read
  split at read
  · cases read
    exact ⟨List.prefix_rfl, List.prefix_append _ _, fun _ _ _ _ => rfl, known⟩
  split at read
  · obtain ⟨closed, isClosed, read⟩ := bind_eq_ok_iff.mp read
    cases read
    have step := close_continues distinct known isClosed
    exact ⟨step.given, step.operands, step.once, step.known⟩
  · obtain ⟨closed, isClosed, read⟩ := bind_eq_ok_iff.mp read
    have step := close_continues distinct known isClosed
    exact step.trans (readName_continues distinct step.known read)
  · obtain ⟨closed, isClosed, read⟩ := bind_eq_ok_iff.mp read
    have step := close_continues distinct known isClosed
    exact step.trans (readLetters_continues distinct step.known read)
  · exact readPlain_continues distinct known read

/-- So does reading one word after the other. -/
theorem foldlM_readWord_continues (known : reading.Known specs) {words : List String}
    (read : words.foldlM (readWord specs) reading = .ok next) : Continues specs reading next := by
  induction words generalizing reading with
  | nil =>
      cases read
      exact .refl known
  | cons word words ih =>
      rw [List.foldlM_cons] at read
      obtain ⟨middle, step, read⟩ := bind_eq_ok_iff.mp read
      have first := readWord_continues distinct known step
      exact first.trans (ih first.known read)

end Steps

/-! ## Options by their names -/

theorem bne_equals_of_mem {name : List Char} (plain : '=' ∉ name) :
    ∀ character ∈ name, (character != '=') = true := by
  intro character isPart
  exact bne_iff_ne.mpr fun same => plain (same ▸ isPart)

section Named

variable {specs : List OptionSpec} (distinct : (specs.map OptionSpec.name).Nodup)
  {spec : OptionSpec} (member : spec ∈ specs)

include distinct member

theorem find?_name : specs.find? (·.name == spec.name) = some spec := by
  have isSome : (specs.find? (·.name == spec.name)).isSome = true :=
    List.find?_isSome.mpr ⟨spec, member, beq_self_eq_true spec.name⟩
  obtain ⟨found, isFound⟩ := Option.isSome_iff_exists.mp isSome
  have same : found.name = spec.name := by simpa using List.find?_some isFound
  rw [isFound, List.inj_on_of_nodup_map distinct (List.mem_of_find?_eq_some isFound) member same]

variable (plain : '=' ∉ spec.name.toList) (reading : Reading)

include plain

theorem readName_name : readName specs reading spec.name.toList = reading.await spec := by
  have other := bne_equals_of_mem plain
  rw [readName, List.takeWhile_eq_self_iff.mpr other, List.dropWhile_eq_nil_iff.mpr other,
    String.ofList_toList, find?_name distinct member]

theorem readName_assigned (value : String) :
    readName specs reading (spec.name.toList ++ '=' :: value.toList) =
      reading.attach spec value := by
  have other := bne_equals_of_mem plain
  have front : (spec.name.toList ++ '=' :: value.toList).takeWhile (· != '=') =
      spec.name.toList := by
    rw [List.takeWhile_append_of_pos other]
    simp
  have back : (spec.name.toList ++ '=' :: value.toList).dropWhile (· != '=') =
      '=' :: value.toList := by
    rw [List.dropWhile_append_of_pos other]
    rfl
  rw [readName, front, back, String.ofList_toList, find?_name distinct member]
  exact congrArg (reading.attach spec) (String.ofList_toList ..)

end Named

/-- Two hyphens with a name behind them end the option before and name another. -/
theorem readWord_of_hyphens {specs : List OptionSpec} {reading : Reading}
    (active : reading.operandsOnly = false) {word : String} {name : List Char}
    (characters : word.toList = '-' :: '-' :: name) (named : name ≠ []) :
    readWord specs reading word =
      reading.close >>= fun closed => readName specs closed name := by
  rw [readWord, active, characters]
  obtain ⟨letter, rest, rfl⟩ := List.exists_cons_of_ne_nil named
  rfl

/-- While an option waits for its first value, a word that could be an option is
refused. -/
theorem readWord_of_pending {specs : List OptionSpec} {reading next : Reading}
    {spec : OptionSpec} (active : reading.operandsOnly = false)
    (waits : reading.pending = some (spec, [])) {word : String}
    (read : readWord specs reading word = .ok next) : reading.readPlain word = .ok next := by
  have refused : reading.close = .error .usage := by rw [close, waits]
  rw [readWord, active, refused] at read
  simp only [Bool.false_eq_true, if_false] at read
  split at read
  · cases read
  · cases read
  · cases read
  · exact read

/-- Where only operands follow, a word is one. -/
theorem active_of_complete {specs : List OptionSpec} {reading next : Reading} {word : String}
    (read : readWord specs reading word = .ok next) (complete : next.operands = []) :
    reading.operandsOnly = false := by
  rw [Bool.eq_false_iff]
  intro operandsOnly
  rw [readWord, if_pos operandsOnly] at read
  cases read
  exact List.append_ne_nil_of_right_ne_nil _ (List.cons_ne_nil word []) complete

section Values

variable {specs : List OptionSpec} {spec : OptionSpec}

/-- An option that is given once has the value that is read for it. -/
theorem values_readPlain {reading next : Reading} (once : spec.arity = .one)
    (waits : reading.pending = some (spec, [])) {word : String}
    (read : reading.readPlain word = .ok next) :
    next.values spec.name = [word] ∧ next.has spec.name = true := by
  rw [readPlain, waits] at read
  simp only [once, if_true, List.nil_append] at read
  split at read
  · cases read
  · rw [close] at read
    exact ⟨values_note_of_once once read, has_note read⟩

theorem values_attach {reading next : Reading} (once : spec.arity = .one) {value : String}
    (read : reading.attach spec value = .ok next) :
    next.values spec.name = [value] ∧ next.has spec.name = true := by
  rw [attach] at read
  split at read
  · exact ⟨values_note_of_once once read, has_note read⟩
  · cases read

variable (distinct : (specs.map OptionSpec.name).Nodup) (member : spec ∈ specs)
  (once : spec.arity = .one) (named : spec.name ≠ "") (plain : '=' ∉ spec.name.toList)

include distinct member once plain

theorem values_readWord_assigned {reading next : Reading} {value : String}
    (read : readWord specs reading ("--" ++ spec.name ++ "=" ++ value) = .ok next)
    (active : reading.operandsOnly = false) :
    next.values spec.name = [value] ∧ next.has spec.name = true := by
  have characters : ("--" ++ spec.name ++ "=" ++ value).toList =
      '-' :: '-' :: (spec.name.toList ++ '=' :: value.toList) := by
    simp
  rw [readWord_of_hyphens active characters (by simp)] at read
  obtain ⟨closed, -, read⟩ := bind_eq_ok_iff.mp read
  rw [readName_assigned distinct member plain] at read
  exact values_attach once read

include named

theorem values_readWord_pair {reading waiting next : Reading} {value : String}
    (nameRead : readWord specs reading ("--" ++ spec.name) = .ok waiting)
    (valueRead : readWord specs waiting value = .ok next)
    (active : reading.operandsOnly = false) (stillActive : waiting.operandsOnly = false) :
    next.values spec.name = [value] ∧ next.has spec.name = true := by
  have characters : ("--" ++ spec.name).toList = '-' :: '-' :: spec.name.toList := by simp
  have letters : spec.name.toList ≠ [] := by simpa using named
  rw [readWord_of_hyphens active characters letters] at nameRead
  obtain ⟨closed, -, nameRead⟩ := bind_eq_ok_iff.mp nameRead
  rw [readName_name distinct member plain, await, once] at nameRead
  have waits : waiting.pending = some (spec, []) := by
    cases nameRead
    rfl
  exact values_readPlain once waits (readWord_of_pending stillActive waits valueRead)

/-- The words that give an option its value leave it with that value. -/
theorem values_of_gives {words : List String} {value : String} {start last : Reading}
    (known : start.Known specs) (gives : Gives words spec.name value)
    (read : words.foldlM (readWord specs) start = .ok last) (complete : last.operands = []) :
    last.values spec.name = [value] ∧ last.has spec.name = true := by
  -- What was noted when the value came stays to the end.
  have settle : ∀ {given : Reading}, Continues specs given last →
      given.values spec.name = [value] ∧ given.has spec.name = true →
      last.values spec.name = [value] ∧ last.has spec.name = true := by
    rintro given later ⟨values, has⟩
    exact ⟨(later.once spec member once has).trans values, has_of_given later.given has⟩
  rcases gives with isWord | ⟨front, back, rfl⟩
  · obtain ⟨front, back, rfl⟩ := List.append_of_mem isWord
    rw [List.foldlM_append] at read
    obtain ⟨reached, frontRead, read⟩ := bind_eq_ok_iff.mp read
    rw [List.foldlM_cons] at read
    obtain ⟨given, wordRead, backRead⟩ := bind_eq_ok_iff.mp read
    have reachedKnown := (foldlM_readWord_continues distinct known frontRead).known
    have givenKnown := (readWord_continues distinct reachedKnown wordRead).known
    have later := foldlM_readWord_continues distinct givenKnown backRead
    have active := active_of_complete wordRead (later.operands_eq_nil complete)
    exact settle later (values_readWord_assigned distinct member once plain wordRead active)
  · rw [List.append_assoc, List.foldlM_append] at read
    obtain ⟨reached, frontRead, read⟩ := bind_eq_ok_iff.mp read
    rw [List.cons_append, List.singleton_append, List.foldlM_cons] at read
    obtain ⟨waiting, nameRead, read⟩ := bind_eq_ok_iff.mp read
    rw [List.foldlM_cons] at read
    obtain ⟨given, valueRead, backRead⟩ := bind_eq_ok_iff.mp read
    have reachedKnown := (foldlM_readWord_continues distinct known frontRead).known
    have waitingKnown := (readWord_continues distinct reachedKnown nameRead).known
    have step := readWord_continues distinct waitingKnown valueRead
    have later := foldlM_readWord_continues distinct step.known backRead
    have givenComplete := later.operands_eq_nil complete
    have stillActive := active_of_complete valueRead givenComplete
    have active := active_of_complete nameRead (step.operands_eq_nil givenComplete)
    exact settle later
      (values_readWord_pair distinct member once named plain nameRead valueRead active stillActive)

/-- The value of an option that is given once is what the words give it. -/
theorem value?_of_gives {words : List String} {value : String} {reading : Reading}
    (gives : Gives words spec.name value) (read : readAll specs words = .ok reading)
    (complete : reading.operands = []) : reading.value? spec.name = some value := by
  obtain ⟨last, wordsRead, closed⟩ := bind_eq_ok_iff.mp read
  have start : Known specs {} := nofun
  have known := (foldlM_readWord_continues distinct start wordsRead).known
  have later := close_continues distinct known closed
  obtain ⟨values, has⟩ := values_of_gives distinct member once named plain start gives wordsRead
    (later.operands_eq_nil complete)
  rw [value?, later.once spec member once has, values]
  rfl

end Values

end Reading

end TreeSieve.CommandLine
