import TreeSieve.Proofs.Json.Finite
import TreeSieve.Proofs.Json.Tagged
import TreeSieve.Ust.NodeRecord

/-!
# Reading written nodes

A written node is read as itself, whatever its kind.  A node that was read from a
text, in any of the forms that a text can give it, has no float but a finite one,
so it is not lost when it is written.
-/

namespace TreeSieve

open Json (Read FieldSpec Draft)

namespace NodeKind

/-! ## Fields -/

namespace FieldValue

/-- The shape of a value. -/
def shape : FieldValue → Shape
  | text _ => .text
  | int _ => .int
  | float _ => .float
  | bool _ => .bool
  | node _ => .node
  | optionalNode _ => .optionalNode
  | nodes _ => .nodes
  | binary _ => .binary
  | unary _ => .unary

/-- The values of each shape. -/
inductive HasShape : FieldValue → Shape → Prop
  | text (value : String) : HasShape (text value) .text
  | int (value : Int64) : HasShape (int value) .int
  | float (value : Float) : HasShape (float value) .float
  | bool (value : Bool) : HasShape (bool value) .bool
  | node (id : NodeId) : HasShape (node id) .node
  | optionalNode (id : Option NodeId) : HasShape (optionalNode id) .optionalNode
  | nodes (ids : List NodeId) : HasShape (nodes ids) .nodes
  | binary (operator : BinaryOperator) : HasShape (binary operator) .binary
  | unary (operator : UnaryOperator) : HasShape (unary operator) .unary

/-- Whether a value is finite if it is a float. -/
def isFinite : FieldValue → Bool
  | float value => value.isFinite
  | _ => true

end FieldValue

theorem readId_idToJson (id : NodeId) : readId (idToJson id) = .ok id :=
  congrArg (Except.map NodeId.mk) (Json.readUInt32_toNat id.value)

/-- A written field is read as the value that was written. -/
theorem readField_toJson (value : FieldValue) : readField value.shape value.toJson = .ok value := by
  cases value with
  | text _ | float _ | bool _ => rfl
  | int value => exact congrArg (Except.map FieldValue.int) (Json.readInt64_toInt value)
  | node id => exact congrArg (Except.map FieldValue.node) (readId_idToJson id)
  | optionalNode id =>
      cases id with
      | none => rfl
      | some id =>
          exact congrArg (Except.map FieldValue.optionalNode)
            (Json.readOption_of_ne_null Json.noConfusion (readId_idToJson id))
  | nodes ids =>
      exact congrArg (Except.map FieldValue.nodes)
        (Json.mapM_map_of_reads fun id _ => readId_idToJson id)
  | binary operator =>
      exact congrArg (Except.map FieldValue.binary) (Json.readName_string operator.ofName?_name)
  | unary operator =>
      exact congrArg (Except.map FieldValue.unary) (Json.readName_string operator.ofName?_name)

theorem fitsWord_idToJson (id : NodeId) : (idToJson id).FitsWord :=
  Json.fitsWord_natCast (Nat.lt_trans id.value.toNat_lt_size (by decide))

theorem fitsWord_fieldValue (value : FieldValue) : value.toJson.AllLeaves Json.FitsWord := by
  cases value with
  | int value => exact (Json.allLeaves_scalar rfl).mpr (Json.fitsWord_toInt value)
  | node id => exact (Json.allLeaves_scalar rfl).mpr (fitsWord_idToJson id)
  | optionalNode id =>
      cases id with
      | none => exact (Json.allLeaves_scalar rfl).mpr trivial
      | some id => exact (Json.allLeaves_scalar rfl).mpr (fitsWord_idToJson id)
  | nodes ids =>
      exact Json.allLeaves_array.mpr (List.forall_mem_map.mpr fun id _ =>
        (Json.allLeaves_scalar rfl).mpr (fitsWord_idToJson id))
  | _ => exact (Json.allLeaves_scalar rfl).mpr trivial

theorem finiteFloats_fieldValue {value : FieldValue} (finite : value.isFinite = true) :
    value.toJson.FiniteFloats := by
  cases value with
  | float value => exact (Json.allLeaves_scalar rfl).mpr finite
  | optionalNode id => cases id <;> exact (Json.allLeaves_scalar rfl).mpr trivial
  | nodes ids =>
      exact Json.allLeaves_array.mpr
        (List.forall_mem_map.mpr fun id _ => (Json.allLeaves_scalar rfl).mpr trivial)
  | _ => exact (Json.allLeaves_scalar rfl).mpr trivial

/-- The lists of a node are the only containers in it. -/
theorem depth_fieldValue_le (value : FieldValue) : value.toJson.depth ≤ 1 := by
  cases value with
  | optionalNode id => cases id <;> exact Nat.zero_le 1
  | nodes ids => exact Json.depth_array_le (List.forall_mem_map.mpr fun _ _ => Nat.le_refl 0)
  | _ => exact Nat.zero_le 1

/-- What a field holds once it has been read: a value of its shape, and no float
but a finite one. -/
structure Admits (spec : FieldSpec Shape FieldValue) (value : FieldValue) : Prop where
  hasShape : value.HasShape spec.shape
  finite : value.isFinite = true

theorem admits_of_readField {spec : FieldSpec Shape FieldValue} {json : Json}
    (finite : json.FiniteFloats) {value : FieldValue}
    (reads : readField spec.shape json = .ok value) : Admits spec value := by
  obtain ⟨name, shape, absent⟩ := spec
  cases shape <;> obtain ⟨read, isRead, rfl⟩ := Json.map_eq_ok_iff.mp reads
  case float => exact ⟨.float read, Json.isFinite_of_readFloat finite isRead⟩
  all_goals exact ⟨by constructor, rfl⟩

/-! ## Kinds -/

theorem mem_variantNames (kind : NodeKind) : kind.name ∈ variantNames := by
  cases kind <;> simp [name, variantNames, variants]

theorem shape_fieldsOf (kind : NodeKind) :
    (fieldsOf kind.name).map (·.shape) = kind.fieldValues.map FieldValue.shape := by
  cases kind <;> rfl

/-- The fields of a kind have names of their own, and none is the tag or the span. -/
theorem nodup_fieldsOf {name : String} (known : name ∈ variantNames) :
    (Json.tagKey :: "span" :: (fieldsOf name).map (·.name)).Nodup := by
  have all : ∀ name ∈ variantNames,
      (Json.tagKey :: "span" :: (fieldsOf name).map (·.name)).Nodup := by decide +kernel
  exact all name known

theorem ofFields?_fieldValues (kind : NodeKind) :
    ofFields? kind.name kind.fieldValues = some kind := by
  cases kind <;> rfl

/-- Values of the right shapes make a kind, and it has these values. -/
theorem exists_ofFields?_of_hasShape :
    ∀ variant ∈ variants, ∀ values,
      List.Forall₂ (fun spec value => FieldValue.HasShape value spec.shape) variant.2 values →
        ∃ kind, ofFields? variant.1 values = some kind ∧ kind.fieldValues = values := by
  simp only [variants, List.forall_mem_cons, List.not_mem_nil, false_implies, implies_true,
    and_true]
  repeat' apply And.intro
  all_goals
    intro values shapes
    cases_type* List.Forall₂ FieldValue.HasShape
    exact ⟨_, rfl, rfl⟩

/-- What is left out is a missing node or an empty list of nodes. -/
theorem admits_absent :
    ∀ variant ∈ variants, ∀ spec ∈ variant.2, ∀ value, spec.absent = some value →
      Admits spec value := by
  have node (name : String) : Admits (optionalNode name) (.optionalNode none) :=
    ⟨.optionalNode none, rfl⟩
  have nodes (name : String) : Admits (optionalNodes name) (.nodes []) := ⟨.nodes [], rfl⟩
  simp [variants, node, nodes]

theorem exists_variant {name : String} (known : name ∈ variantNames) :
    ∃ variant ∈ variants, variant.1 = name ∧ fieldsOf name = variant.2 := by
  obtain ⟨variant, member, isName⟩ := List.mem_map.mp known
  cases found : variants.find? (·.1 == name) with
  | none => exact absurd (List.find?_eq_none.mp found variant member) (by simp [isName])
  | some other =>
      have isOther := List.find?_some found
      rw [beq_iff_eq] at isOther
      exact ⟨other, List.mem_of_find?_eq_some found, isOther, by rw [fieldsOf, found]; rfl⟩

/-- The fields of a kind under their names. -/
def fields (kind : NodeKind) : List (String × Json) :=
  Json.writeFields FieldValue.toJson (fieldsOf kind.name) kind.fieldValues

theorem toMembers_eq_cons (kind : NodeKind) :
    kind.toMembers = (Json.tagKey, .string kind.name) :: kind.fields :=
  rfl

theorem untagged_fields (kind : NodeKind) : ∀ member ∈ kind.fields, member.1 ≠ Json.tagKey := by
  have distinct := (List.nodup_cons.mp (nodup_fieldsOf kind.mem_variantNames)).1
  exact Json.keys_writeFields fun member => distinct (List.mem_cons_of_mem "span" member)

theorem key_ne_span (kind : NodeKind) : ∀ member ∈ kind.toMembers, member.1 ≠ "span" := by
  have distinct := (List.nodup_cons.mp (nodup_fieldsOf kind.mem_variantNames)).2
  rw [toMembers_eq_cons, List.forall_mem_cons]
  exact ⟨show Json.tagKey ≠ "span" by decide, Json.keys_writeFields (List.nodup_cons.mp distinct).1⟩

/-- A written kind is read as itself. -/
theorem ofMembers_toMembers (kind : NodeKind) : ofMembers kind.toMembers = .ok kind := by
  have distinct := (List.nodup_cons.mp (nodup_fieldsOf kind.mem_variantNames)).2
  have values : Json.readMembers readField (fieldsOf kind.name) kind.fields =
      .ok kind.fieldValues :=
    Json.readMembers_writeFields kind.shape_fieldsOf (fun value _ => readField_toJson value)
      (List.nodup_cons.mp distinct).2
  rw [ofMembers, toMembers_eq_cons, Json.findTag_cons kind.mem_variantNames kind.untagged_fields,
    Json.withoutTag_cons kind.untagged_fields]
  change (Json.readMembers readField (fieldsOf kind.name) kind.fields >>= build kind.name) = _
  rw [values]
  change (ofFields? kind.name kind.fieldValues).elim _ Except.ok = _
  rw [ofFields?_fieldValues]
  rfl

/-- Whether every float of a kind is finite. -/
def IsFinite (kind : NodeKind) : Prop :=
  ∀ value ∈ kind.fieldValues, value.isFinite = true

/-- A kind that is read from finite floats is finite. -/
theorem isFinite_of_ofMembers {members : List (String × Json)}
    (finite : ∀ member ∈ members, member.2.FiniteFloats) {kind : NodeKind}
    (reads : ofMembers members = .ok kind) : kind.IsFinite := by
  obtain ⟨name, isTag, reads⟩ := Json.bind_eq_ok_iff.mp reads
  obtain ⟨values, valuesRead, built⟩ := Json.bind_eq_ok_iff.mp reads
  have known := Json.mem_of_findTag (by simp) isTag
  obtain ⟨variant, member, rfl, fieldsEq⟩ := exists_variant known
  rw [fieldsEq] at valuesRead
  have admitted : List.Forall₂ Admits variant.2 values :=
    Json.forall₂_of_readMembers (admits_absent variant member)
      (fun member isMember _ _ reads =>
        admits_of_readField (finite member (List.mem_filter.mp isMember).1) reads) valuesRead
  obtain ⟨other, isKind, valuesEq⟩ :=
    exists_ofFields?_of_hasShape variant member values (admitted.imp fun _ _ => Admits.hasShape)
  rw [build, isKind] at built
  cases built
  rw [IsFinite, valuesEq]
  have each : List.Forall₂ (fun value spec => value.isFinite = true ∧ Admits spec value)
      values variant.2 := admitted.flip.imp fun _ _ admits => ⟨admits.finite, admits⟩
  exact ((List.forall₂_and_left values variant.2).mp each).1

theorem allLeaves_toMembers {holds : Json → Prop} {kind : NodeKind}
    (named : holds (.string kind.name))
    (fields : ∀ value ∈ kind.fieldValues, value.toJson.AllLeaves holds) :
    ∀ member ∈ kind.toMembers, member.2.AllLeaves holds := by
  rw [toMembers_eq_cons, List.forall_mem_cons]
  exact ⟨(Json.allLeaves_scalar rfl).mpr named, Json.allLeaves_writeFields _ fields⟩

theorem depth_toMembers_le (kind : NodeKind) : ∀ member ∈ kind.toMembers, member.2.depth ≤ 1 := by
  rw [toMembers_eq_cons, List.forall_mem_cons]
  refine ⟨Nat.zero_le 1, ?_⟩
  rintro ⟨key, json⟩ member
  obtain ⟨value, -, rfl⟩ := List.mem_map.mp (List.of_mem_zip member).2
  exact depth_fieldValue_le value

end NodeKind

/-! ## Spans -/

namespace Span

theorem ofDraft_ofJson (span : Span) : ofDraft (.ofJson span.toJson) = .ok span := by
  have start := Draft.readUInt64_toNat span.start
  have length := Draft.readUInt64_toNat span.length
  simp only [toJson, Draft.ofJson, Draft.ofMembers, ofDraft, Draft.foldMembers, Draft.readOnce,
    start, length]
  rfl

theorem fitsWord_toJson (span : Span) : span.toJson.AllLeaves Json.FitsWord := by
  have fits : ∀ value : UInt64, (Json.int value.toNat).AllLeaves Json.FitsWord := fun value =>
    (Json.allLeaves_scalar rfl).mpr (Json.fitsWord_natCast value.toNat_lt_size)
  rw [toJson, Json.allLeaves_object]
  simp only [List.forall_mem_cons]
  exact ⟨fits _, fits _, List.forall_mem_nil _⟩

theorem finiteFloats_toJson (span : Span) : span.toJson.FiniteFloats :=
  Json.finiteFloats_of_hasFloat_eq_false rfl

end Span

/-! ## Nodes -/

namespace Node

/-- Read one member of a node. -/
def readMember (levels : Nat) (known : Option Span × List (String × Json)) (key : String)
    (value : Draft) : Read (Option Span × List (String × Json)) := do
  if key = "span" then
    return (← Draft.readOnce key known.1 Span.ofDraft value, known.2)
  else
    let value ← value.readJson levels
    return (known.1, known.2 ++ [(key, value)])

theorem ofDraft_object (levels : Nat) (members : List (Option String × Draft)) :
    ofDraft (levels + 1) (.object members) = do
      let (span, members) ← Draft.foldMembers (readMember levels) (none, []) members
      let kind ← NodeKind.ofMembers members
      return ⟨kind, span.getD Span.empty⟩ :=
  rfl

/-- Members that are not the span are put aside. -/
theorem foldMembers_readMember {levels : Nat} {members : List (String × Json)}
    (others : ∀ member ∈ members, member.1 ≠ "span")
    (shallow : ∀ member ∈ members, member.2.depth ≤ levels) (span : Option Span)
    (before : List (String × Json)) (rest : List (Option String × Draft)) :
    Draft.foldMembers (readMember levels) (span, before) (Draft.ofMembers members ++ rest) =
      Draft.foldMembers (readMember levels) (span, before ++ members) rest := by
  induction members generalizing before with
  | nil => rw [Draft.ofMembers, List.nil_append, List.append_nil]
  | cons member members ih =>
      obtain ⟨key, value⟩ := member
      rw [List.forall_mem_cons] at others shallow
      have step : readMember levels (span, before) key (.ofJson value) =
          .ok (span, before ++ [(key, value)]) := by
        rw [readMember, if_neg others.1, Json.readJson_ofJson shallow.1]
        rfl
      have later := ih others.2 shallow.2 (before ++ [(key, value)])
      rw [List.append_assoc, List.singleton_append] at later
      rw [Draft.ofMembers, List.cons_append, Draft.foldMembers, step]
      exact later

theorem ofJson_toJson (node : Node) :
    Draft.ofJson node.toJson =
      .object (Draft.ofMembers node.kind.toMembers ++
        [(some "span", .ofJson node.span.toJson)]) := by
  rw [toJson, Draft.ofJson, Json.ofMembers_append, Draft.ofMembers, Draft.ofMembers]

/-- A written node is read as itself. -/
theorem ofDraft_ofJson {levels : Nat} (enough : 2 ≤ levels) (node : Node) :
    ofDraft levels (.ofJson node.toJson) = .ok node := by
  obtain ⟨levels, rfl⟩ : ∃ inner, levels = inner + 1 := ⟨levels - 1, by omega⟩
  have shallow : ∀ member ∈ node.kind.toMembers, member.2.depth ≤ levels := fun member isMember =>
    Nat.le_trans (node.kind.depth_toMembers_le member isMember) (Nat.le_of_succ_le_succ enough)
  have folded : Draft.foldMembers (readMember levels) (none, [])
      (Draft.ofMembers node.kind.toMembers ++ [(some "span", .ofJson node.span.toJson)]) =
        .ok (some node.span, node.kind.toMembers) := by
    rw [foldMembers_readMember node.kind.key_ne_span shallow, Draft.foldMembers, readMember,
      if_pos rfl, Draft.readOnce, node.span.ofDraft_ofJson]
    rfl
  rw [ofJson_toJson, ofDraft_object, folded]
  change (NodeKind.ofMembers node.kind.toMembers >>= fun kind => pure (mk kind node.span)) = _
  rw [NodeKind.ofMembers_toMembers]
  rfl

theorem fitsWord_toJson (node : Node) : node.toJson.AllLeaves Json.FitsWord := by
  have members := @NodeKind.allLeaves_toMembers Json.FitsWord node.kind trivial
    fun value _ => NodeKind.fitsWord_fieldValue value
  rw [toJson, Json.allLeaves_object, List.forall_mem_append, List.forall_mem_singleton]
  exact ⟨members, node.span.fitsWord_toJson⟩

theorem finiteFloats_toJson {node : Node} (finite : node.kind.IsFinite) :
    node.toJson.FiniteFloats := by
  have members := @NodeKind.allLeaves_toMembers Json.IsFinite node.kind trivial
    fun value isValue => NodeKind.finiteFloats_fieldValue (finite value isValue)
  rw [Json.FiniteFloats, toJson, Json.allLeaves_object, List.forall_mem_append,
    List.forall_mem_singleton]
  exact ⟨members, node.span.finiteFloats_toJson⟩

theorem finiteFloats_of_readMember {levels : Nat}
    {before after : Option Span × List (String × Json)}
    (finite : ∀ member ∈ before.2, member.2.FiniteFloats) {key : String} {value : Draft}
    (valueFinite : value.FiniteFloats) (reads : readMember levels before key value = .ok after) :
    ∀ member ∈ after.2, member.2.FiniteFloats := by
  rw [readMember] at reads
  split at reads
  · obtain ⟨span, -, reads⟩ := Json.bind_eq_ok_iff.mp reads
    cases reads
    exact finite
  · obtain ⟨json, isJson, reads⟩ := Json.bind_eq_ok_iff.mp reads
    cases reads
    rw [List.forall_mem_append, List.forall_mem_singleton]
    exact ⟨finite,
      Json.finiteFloats_of_toJson? value valueFinite (Json.readJson_eq_ok_iff.mp isJson)⟩

/-- A node that is read from finite floats is finite. -/
theorem isFinite_of_ofDraft {levels : Nat} {draft : Draft} (finite : draft.FiniteFloats)
    {node : Node} (reads : ofDraft levels draft = .ok node) : node.kind.IsFinite := by
  cases draft with
  | object members =>
      rw [Draft.finiteFloats_object] at finite
      cases levels with
      | zero => contradiction
      | succ levels =>
          rw [ofDraft_object] at reads
          obtain ⟨⟨span, values⟩, folded, reads⟩ := Json.bind_eq_ok_iff.mp reads
          obtain ⟨kind, isKind, reads⟩ := Json.bind_eq_ok_iff.mp reads
          cases reads
          refine NodeKind.isFinite_of_ofMembers ?_ isKind
          exact @Json.foldMembers_induction _ (readMember levels)
            (fun known => ∀ member ∈ known.2, member.2.FiniteFloats) members (none, [])
            (span, values) (fun key value member _ _ before => finiteFloats_of_readMember before
              (finite (some key, value) member)) (List.forall_mem_nil _) folded
  | _ => contradiction

end Node

end TreeSieve
