import Mathlib.Data.List.Forall2
import TreeSieve.Json.Tagged

/-!
# Reading that succeeds

What can be said of the parts of a reader when the whole succeeds: of the steps of
a computation, of the items of a list, of the members of an object and of the
fields of a record.
-/

namespace TreeSieve.Json

variable {ε α β σ ν : Type}

theorem map_eq_ok_iff {convert : α → β} {result : Except ε α} {converted : β} :
    result.map convert = .ok converted ↔
      ∃ value, result = .ok value ∧ convert value = converted := by
  cases result <;> simp [Except.map]

theorem bind_eq_ok_iff {result : Except ε α} {next : α → Except ε β} {final : β} :
    (result >>= next) = .ok final ↔ ∃ value, result = .ok value ∧ next value = .ok final := by
  cases result <;> simp [bind, Except.bind]

/-- Reading a whole text is reading its draft, with nothing behind it. -/
theorem readText_eq_ok_iff {read : Draft → Read α} {text : String} {value : α} :
    readText read text = .ok value ↔
      read (draftOf text).draft = .ok value ∧ (draftOf text).trailing = false := by
  simp only [readText, bind, Except.bind]
  cases read (draftOf text).draft with
  | error fault => simp
  | ok found =>
      cases (draftOf text).trailing <;>
        simp [throw, throwThe, MonadExceptOf.throw, pure, Except.pure]

theorem readJson_eq_ok_iff {draft : Draft} {levels : Nat} {value : Json} :
    draft.readJson levels = .ok value ↔ draft.toJson? levels = some value := by
  rw [Draft.readJson]
  cases draft.toJson? levels <;> simp

/-- Reading a whole text as a value is completing its draft. -/
theorem parse_eq_ok_iff {text : String} {value : Json} :
    parse text = .ok value ↔
      (draftOf text).draft.toJson? Draft.maxDepth = some value ∧
        (draftOf text).trailing = false := by
  rw [parse, readText_eq_ok_iff, readJson_eq_ok_iff]

/-! ## Items and members -/

/-- Items that are read as what was written give all that was written. -/
theorem mapM_map_of_reads {read : β → Read α} {write : α → β} {values : List α}
    (reads : ∀ value ∈ values, read (write value) = .ok value) :
    (values.map write).mapM read = .ok values := by
  induction values with
  | nil => rfl
  | cons value values ih =>
      rw [List.map_cons, List.mapM_cons, reads value List.mem_cons_self,
        ih fun other member => reads other (List.mem_cons_of_mem value member)]
      rfl

/-- What holds of all that each item can be read as holds of all that is read. -/
theorem forall_of_mapM {read : α → Read β} {holds : β → Prop} {items : List α} {values : List β}
    (each : ∀ item ∈ items, ∀ value, read item = .ok value → holds value)
    (reads : items.mapM read = .ok values) : ∀ value ∈ values, holds value := by
  induction items generalizing values with
  | nil =>
      cases reads
      exact List.forall_mem_nil _
  | cons item items ih =>
      rw [List.forall_mem_cons] at each
      rw [List.mapM_cons] at reads
      obtain ⟨first, firstReads, reads⟩ := bind_eq_ok_iff.mp reads
      obtain ⟨others, othersRead, reads⟩ := bind_eq_ok_iff.mp reads
      cases reads
      exact List.forall_mem_cons.mpr ⟨each.1 first firstReads, ih each.2 othersRead⟩

/-- What every step over the members of an object keeps holds at their end. -/
theorem foldMembers_induction {step : σ → String → Draft → Read σ} {holds : σ → Prop}
    {members : List (Option String × Draft)} {state final : σ}
    (keeps : ∀ key value, (some key, value) ∈ members → ∀ before after, holds before →
      step before key value = .ok after → holds after)
    (start : holds state) (reads : Draft.foldMembers step state members = .ok final) :
    holds final := by
  induction members generalizing state with
  | nil =>
      cases reads
      exact start
  | cons member members ih =>
      obtain ⟨key, value⟩ := member
      cases key with
      | none => contradiction
      | some key =>
          obtain ⟨next, stepped, reads⟩ := bind_eq_ok_iff.mp reads
          exact ih (fun other value member => keeps other value (List.mem_cons_of_mem _ member))
            (keeps key value List.mem_cons_self state next start stepped) reads

theorem readOnce_eq_ok_iff {name : String} {known found : Option α} {read : Draft → Read α}
    {draft : Draft} :
    Draft.readOnce name known read draft = .ok found ↔
      known = none ∧ ∃ value, read draft = .ok value ∧ some value = found := by
  cases known with
  | none => simp [Draft.readOnce, map_eq_ok_iff]
  | some _ => simp [Draft.readOnce]

theorem requireItem_eq_ok_iff {count : Nat} {read : Draft → Read α} {items rest : List Draft}
    {value : α} :
    Draft.requireItem count read items = .ok (value, rest) ↔
      ∃ item, items = item :: rest ∧ read item = .ok value := by
  cases items with
  | nil => simp [Draft.requireItem, Draft.readItem, bind, Except.bind, throw, throwThe,
      MonadExceptOf.throw]
  | cons item items =>
      cases reads : read item with
      | error fault =>
          simp [Draft.requireItem, Draft.readItem, reads, bind, Except.bind, Except.map]
      | ok found =>
          simp [Draft.requireItem, Draft.readItem, reads, bind, Except.bind, Except.map, pure,
            Except.pure, and_comm]

/-! ## Fields -/

section

variable {holds : FieldSpec σ ν → ν → Prop}

/-- What holds of every value that has been put into the slot of its field. -/
def SlotsHold (holds : FieldSpec σ ν → ν → Prop) (specs : List (FieldSpec σ ν))
    (slots : List (Option ν)) : Prop :=
  List.Forall₂ (fun spec slot => ∀ value, slot = some value → holds spec value) specs slots

theorem slotsHold_emptySlots (specs : List (FieldSpec σ ν)) :
    SlotsHold holds specs (emptySlots specs) := by
  rw [SlotsHold, emptySlots, List.forall₂_map_right_iff, List.forall₂_same]
  simp

theorem slotsHold_of_fillSlot {key : String} {read : σ → Read ν} {specs : List (FieldSpec σ ν)}
    {before after : List (Option ν)}
    (each : ∀ spec value, read spec.shape = .ok value → holds spec value)
    (start : SlotsHold holds specs before) (reads : fillSlot key read specs before = .ok after) :
    SlotsHold holds specs after := by
  induction start generalizing after with
  | nil =>
      cases reads
      exact .nil
  | @cons spec slot specs before first later ih =>
      simp only [fillSlot] at reads
      split at reads
      · cases slot with
        | some _ => contradiction
        | none =>
            obtain ⟨value, valueReads, rfl⟩ := map_eq_ok_iff.mp reads
            exact .cons (fun _ same => Option.some.inj same ▸ each spec value valueReads) later
      · obtain ⟨rest, restReads, rfl⟩ := map_eq_ok_iff.mp reads
        exact .cons first (ih restReads)

theorem slotsHold_of_fillSlots {read : σ → Json → Read ν} {specs : List (FieldSpec σ ν)}
    {members : List (String × Json)} {before after : List (Option ν)}
    (each : ∀ member ∈ members, ∀ spec value, read spec.shape member.2 = .ok value →
      holds spec value)
    (start : SlotsHold holds specs before)
    (reads : fillSlots read specs before members = .ok after) : SlotsHold holds specs after := by
  induction members generalizing before with
  | nil =>
      cases reads
      exact start
  | cons member members ih =>
      rw [List.forall_mem_cons] at each
      obtain ⟨slots, filled, reads⟩ := bind_eq_ok_iff.mp reads
      exact ih each.2 (slotsHold_of_fillSlot each.1 start filled) reads

theorem forall₂_of_closeSlots {specs : List (FieldSpec σ ν)} {slots : List (Option ν)}
    {values : List ν}
    (absent : ∀ spec ∈ specs, ∀ value, spec.absent = some value → holds spec value)
    (start : SlotsHold holds specs slots) (reads : closeSlots specs slots = .ok values) :
    List.Forall₂ holds specs values := by
  induction start generalizing values with
  | nil =>
      cases reads
      exact .nil
  | cons first _ ih =>
      rw [List.forall_mem_cons] at absent
      simp only [closeSlots] at reads
      split at reads
      · obtain ⟨rest, restReads, rfl⟩ := map_eq_ok_iff.mp reads
        exact .cons (first _ rfl) (ih absent.2 restReads)
      · rename_i isAbsent
        obtain ⟨rest, restReads, rfl⟩ := map_eq_ok_iff.mp reads
        exact .cons (absent.1 _ isAbsent) (ih absent.2 restReads)
      · contradiction

/-- What holds of the defaults and of all that members can be read as holds of all
fields. -/
theorem forall₂_of_readMembers {read : σ → Json → Read ν} {specs : List (FieldSpec σ ν)}
    {members : List (String × Json)} {values : List ν}
    (absent : ∀ spec ∈ specs, ∀ value, spec.absent = some value → holds spec value)
    (each : ∀ member ∈ members, ∀ spec value, read spec.shape member.2 = .ok value →
      holds spec value)
    (reads : readMembers read specs members = .ok values) : List.Forall₂ holds specs values := by
  obtain ⟨slots, filled, reads⟩ := bind_eq_ok_iff.mp reads
  exact forall₂_of_closeSlots absent
    (slotsHold_of_fillSlots each (slotsHold_emptySlots specs) filled) reads

end

/-! ## Tags -/

theorem mem_of_readTag {variants : List String} {tag : Json} {name : String}
    (reads : readTag variants tag = .ok name) : name ∈ variants := by
  cases tag with
  | string text =>
      rw [readTag] at reads
      split at reads
      · cases reads
        exact List.contains_iff_mem.mp ‹_›
      · contradiction
  | int place =>
      rw [readTag] at reads
      split at reads
      · contradiction
      · cases found : variants[place.toNat]? with
        | none => simp [found] at reads
        | some other =>
            rw [found] at reads
            cases reads
            exact List.mem_of_getElem? found
  | _ => contradiction

/-- The tag that is found is one of the variants. -/
theorem mem_of_findTag {variants : List String} {members : List (String × Json)}
    {known : Option String} {name : String} (before : ∀ tag, known = some tag → tag ∈ variants)
    (found : findTag variants known members = .ok name) : name ∈ variants := by
  induction members generalizing known with
  | nil =>
      cases known with
      | none => contradiction
      | some tag =>
          cases found
          exact before _ rfl
  | cons member members ih =>
      simp only [findTag] at found
      split at found
      · cases known with
        | some _ => contradiction
        | none =>
            obtain ⟨tag, isTag, found⟩ := bind_eq_ok_iff.mp found
            exact ih (fun _ same => Option.some.inj same ▸ mem_of_readTag isTag) found
      · exact ih before found

end TreeSieve.Json
