import TreeSieve.Json.Tagged
import TreeSieve.Proofs.Json.RoundTrip

/-!
# Reading written records

A tagged record is written as an object with its tag first and then all its
fields in declaration order.  Read back, every member finds the slot of its
field, so the fields have the values that were written.
-/

namespace TreeSieve.Json

variable {σ ν : Type}

/-! ## Simple values -/

theorem readInt64_toInt (value : Int64) : readInt64 (.int value.toInt) = .ok value := by
  have least : Int64.minValue.toInt ≤ value.toInt := Int64.minValue_le_toInt value
  have greatest : value.toInt ≤ Int64.maxValue.toInt := Int64.toInt_le value
  rw [readInt64, readInt, if_pos ⟨least, greatest⟩]
  exact congrArg Except.ok (Int64.ofInt_toInt value)

theorem fitsWord_toInt (value : Int64) : (Json.int value.toInt).FitsWord := by
  have least : -(UInt64.size / 2 : Nat) ≤ value.toInt := Int64.minValue_le_toInt value
  have greatest : value.toInt ≤ (UInt64.size / 2 - 1 : Nat) := Int64.toInt_le value
  have small : UInt64.size / 2 - 1 < UInt64.size := by decide
  exact ⟨least, Int.lt_of_le_of_lt greatest (Int.ofNat_lt.mpr small)⟩

theorem readUInt32_toNat (value : UInt32) : readUInt32 (.int value.toNat) = .ok value := by
  have small : value.toNat < UInt32.size := value.toNat_lt_size
  rw [readUInt32, readInt, if_pos (by omega)]
  exact congrArg Except.ok UInt32.ofNat_toNat

theorem fitsWord_natCast {value : Nat} (small : value < UInt64.size) :
    (Json.int value).FitsWord :=
  ⟨by omega, by omega⟩

theorem Draft.readUInt32_toNat (value : UInt32) : readUInt32 (.int value.toNat) = .ok value := by
  have small : value.toNat < UInt32.size := value.toNat_lt_size
  rw [readUInt32, readNat, if_pos (by omega)]
  exact congrArg Except.ok UInt32.ofNat_toNat

theorem Draft.readUInt64_toNat (value : UInt64) : readUInt64 (.int value.toNat) = .ok value := by
  have small : value.toNat < UInt64.size := value.toNat_lt_size
  rw [readUInt64, readNat, if_pos (by omega)]
  exact congrArg Except.ok UInt64.ofNat_toNat

theorem readName_string {α : Type} {ofName? : String → Option α} {name : String} {value : α}
    (known : ofName? name = some value) : readName ofName? (.string name) = .ok value := by
  rw [readName, known]
  rfl

/-- A value that is not null counts as present. -/
theorem readOption_of_ne_null {α : Type} {read : Json → Read α} {json : Json} {value : α}
    (notNull : json ≠ .null) (reads : read json = .ok value) :
    readOption read json = .ok (some value) := by
  unfold readOption
  split
  · contradiction
  · rw [reads]
    rfl

/-! ## Fields -/

/-- The members that hold the fields of a record. -/
def writeFields (write : ν → Json) (specs : List (FieldSpec σ ν)) (values : List ν) :
    List (String × Json) :=
  (specs.map (·.name)).zip (values.map write)

theorem fillSlot_cons_of_ne {key : String} {spec : FieldSpec σ ν} (other : spec.name ≠ key)
    (read : σ → Read ν) (specs : List (FieldSpec σ ν)) (slot : Option ν)
    (slots : List (Option ν)) :
    fillSlot key read (spec :: specs) (slot :: slots) =
      (fillSlot key read specs slots).map (slot :: ·) := by
  simp only [fillSlot, if_neg other]

/-- A member without a field is passed over. -/
theorem fillSlot_of_not_mem {key : String} {specs : List (FieldSpec σ ν)}
    (unknown : key ∉ specs.map (·.name)) (read : σ → Read ν) (slots : List (Option ν)) :
    fillSlot key read specs slots = .ok slots := by
  induction specs generalizing slots with
  | nil => rfl
  | cons spec specs ih =>
      rw [List.map_cons, List.mem_cons, not_or] at unknown
      cases slots with
      | nil => rfl
      | cons slot slots =>
          rw [fillSlot_cons_of_ne (Ne.symm unknown.1), ih unknown.2]
          rfl

/-- A member fills the slot of its field, whatever slots come before and after. -/
theorem fillSlot_of_append {before after : List (FieldSpec σ ν)} {spec : FieldSpec σ ν}
    (unknown : spec.name ∉ before.map (·.name)) {read : σ → Read ν} {value : ν}
    (reads : read spec.shape = .ok value) {filled : List (Option ν)}
    (lengthEq : filled.length = before.length) (slots : List (Option ν)) :
    fillSlot spec.name read (before ++ spec :: after) (filled ++ none :: slots) =
      .ok (filled ++ some value :: slots) := by
  induction before generalizing filled with
  | nil =>
      cases List.length_eq_zero_iff.mp lengthEq
      simp only [List.nil_append, fillSlot, if_true, reads]
      rfl
  | cons other before ih =>
      rw [List.map_cons, List.mem_cons, not_or] at unknown
      cases filled with
      | nil => contradiction
      | cons slot filled =>
          rw [List.cons_append, List.cons_append, fillSlot_cons_of_ne (Ne.symm unknown.1),
            ih unknown.2 (Nat.succ.inj lengthEq)]
          rfl

/-- Members in declaration order fill one slot after the other. -/
theorem fillSlots_writeFields {read : σ → Json → Read ν} {write : ν → Json} {shapeOf : ν → σ}
    {specs : List (FieldSpec σ ν)} {values : List ν}
    (shapes : specs.map (·.shape) = values.map shapeOf)
    (reads : ∀ value ∈ values, read (shapeOf value) (write value) = .ok value)
    {before : List (FieldSpec σ ν)} (distinct : ((before ++ specs).map (·.name)).Nodup)
    {filled : List (Option ν)} (lengthEq : filled.length = before.length) :
    fillSlots read (before ++ specs) (filled ++ emptySlots specs) (writeFields write specs values) =
      .ok (filled ++ values.map some) := by
  induction specs generalizing before filled values with
  | nil =>
      cases values with
      | nil => rfl
      | cons value values => contradiction
  | cons spec specs ih =>
      cases values with
      | nil => contradiction
      | cons value values =>
          obtain ⟨shapeEq, shapesEq⟩ := List.cons.inj shapes
          have unknown : spec.name ∉ before.map (·.name) := by
            rw [List.map_append, List.nodup_append] at distinct
            intro member
            exact distinct.2.2 _ member _ List.mem_cons_self rfl
          have fills : fillSlot spec.name (fun shape => read shape (write value))
              (before ++ spec :: specs) (filled ++ none :: emptySlots specs) =
                .ok (filled ++ some value :: emptySlots specs) := by
            apply fillSlot_of_append unknown _ lengthEq
            change spec.shape = shapeOf value at shapeEq
            rw [shapeEq]
            exact reads value List.mem_cons_self
          have regroup : before ++ spec :: specs = (before ++ [spec]) ++ specs := by simp
          have later := @ih values shapesEq
            (fun other member => reads other (List.mem_cons_of_mem value member))
            (before ++ [spec]) (regroup ▸ distinct) (filled ++ [some value]) (by simp [lengthEq])
          rw [List.append_assoc, List.append_assoc, List.append_assoc] at later
          change (do
            let slots ← fillSlot spec.name (fun shape => read shape (write value))
              (before ++ spec :: specs) (filled ++ none :: emptySlots specs)
            fillSlots read (before ++ spec :: specs) slots (writeFields write specs values)) = _
          rw [fills]
          exact later

/-- Slots that are all filled give their values. -/
theorem closeSlots_map_some {specs : List (FieldSpec σ ν)} {values : List ν}
    (lengthEq : specs.length = values.length) :
    closeSlots specs (values.map some) = .ok values := by
  induction specs generalizing values with
  | nil =>
      cases List.length_eq_zero_iff.mp lengthEq.symm
      rfl
  | cons spec specs ih =>
      cases values with
      | nil => contradiction
      | cons value values =>
          rw [List.map_cons, closeSlots, ih (Nat.succ.inj lengthEq)]
          rfl

/-- Written fields are read as the values that were written. -/
theorem readMembers_writeFields {read : σ → Json → Read ν} {write : ν → Json} {shapeOf : ν → σ}
    {specs : List (FieldSpec σ ν)} {values : List ν}
    (shapes : specs.map (·.shape) = values.map shapeOf)
    (reads : ∀ value ∈ values, read (shapeOf value) (write value) = .ok value)
    (distinct : (specs.map (·.name)).Nodup) :
    readMembers read specs (writeFields write specs values) = .ok values := by
  have fills : fillSlots read specs (emptySlots specs) (writeFields write specs values) =
      .ok (values.map some) :=
    @fillSlots_writeFields _ _ read write shapeOf specs values shapes reads [] distinct [] rfl
  have lengthEq : specs.length = values.length := by
    simpa using congrArg List.length shapes
  rw [readMembers, fills]
  exact closeSlots_map_some lengthEq

theorem keys_writeFields {write : ν → Json} {specs : List (FieldSpec σ ν)} {values : List ν}
    {key : String} (unknown : key ∉ specs.map (·.name)) :
    ∀ member ∈ writeFields write specs values, member.1 ≠ key := by
  rintro ⟨name, value⟩ member rfl
  exact unknown (List.of_mem_zip member).1

theorem allLeaves_writeFields {holds : Json → Prop} {write : ν → Json}
    (specs : List (FieldSpec σ ν)) {values : List ν}
    (all : ∀ value ∈ values, (write value).AllLeaves holds) :
    ∀ member ∈ writeFields write specs values, member.2.AllLeaves holds := by
  rintro ⟨name, json⟩ member
  obtain ⟨value, isValue, rfl⟩ := List.mem_map.mp (List.of_mem_zip member).2
  exact all value isValue

/-! ## Tags -/

theorem readTag_string {variants : List String} {name : String} (known : name ∈ variants) :
    readTag variants (.string name) = .ok name := by
  rw [readTag, if_pos (List.contains_iff_mem.mpr known)]

/-- A tag that has been found is the tag if no other follows. -/
theorem findTag_of_found {members : List (String × Json)}
    (untagged : ∀ member ∈ members, member.1 ≠ tagKey) (variants : List String) (name : String) :
    findTag variants (some name) members = .ok name := by
  induction members with
  | nil => rfl
  | cons member members ih =>
      rw [findTag, if_neg (untagged member List.mem_cons_self)]
      exact ih fun other isMember => untagged other (List.mem_cons_of_mem member isMember)

/-- The tag of a written record. -/
theorem findTag_cons {variants : List String} {name : String} (known : name ∈ variants)
    {members : List (String × Json)} (untagged : ∀ member ∈ members, member.1 ≠ tagKey) :
    findTag variants none ((tagKey, .string name) :: members) = .ok name := by
  rw [findTag, if_pos rfl, readTag_string known]
  exact findTag_of_found untagged variants name

theorem withoutTag_cons {members : List (String × Json)}
    (untagged : ∀ member ∈ members, member.1 ≠ tagKey) (tag : Json) :
    withoutTag ((tagKey, tag) :: members) = members := by
  rw [withoutTag, List.filter_cons_of_neg (by simp), List.filter_eq_self]
  exact fun member isMember => bne_iff_ne.mpr (untagged member isMember)

/-- The fields behind a tag, in running text. -/
theorem splitMembers_of_found {members : List (String × Json)}
    (untagged : ∀ member ∈ members, member.1 ≠ tagKey) {levels : Nat}
    (shallow : depthOfMembers members ≤ levels) (variants : List String) (name : String) :
    Draft.splitMembers variants levels (some name) (Draft.ofMembers members) =
      .ok (name, members) := by
  induction members with
  | nil => rfl
  | cons member members ih =>
      obtain ⟨key, value⟩ := member
      obtain ⟨first, later⟩ := Nat.max_le.mp shallow
      have rest := ih (fun other isMember => untagged other (List.mem_cons_of_mem _ isMember)) later
      rw [Draft.ofMembers, Draft.splitMembers, if_neg (untagged _ List.mem_cons_self),
        readJson_ofJson first, rest]
      rfl

/-- A written record in running text gives its tag and its fields. -/
theorem readTagged_ofJson {variants : List String} {name : String} (known : name ∈ variants)
    {members : List (String × Json)} (untagged : ∀ member ∈ members, member.1 ≠ tagKey)
    {levels : Nat}
    (shallow : (Json.object ((tagKey, .string name) :: members)).depth ≤ levels) :
    (Draft.ofJson (.object ((tagKey, .string name) :: members))).readTagged variants levels =
      .ok (name, .members members) := by
  cases levels with
  | zero => contradiction
  | succ levels =>
      have inner : depthOfMembers members ≤ levels :=
        (Nat.max_le.mp (Nat.le_of_succ_le_succ shallow)).2
      have isTag : (Draft.string name).readTag variants = .ok name := by
        rw [Draft.readTag, if_pos (List.contains_iff_mem.mpr known)]
      have split : Draft.splitMembers variants levels none
          ((some tagKey, .string name) :: Draft.ofMembers members) = .ok (name, members) := by
        rw [Draft.splitMembers, if_pos rfl, isTag]
        exact splitMembers_of_found untagged inner variants name
      rw [Draft.ofJson, Draft.ofMembers, Draft.ofJson, Draft.readTagged, split]
      rfl

end TreeSieve.Json
