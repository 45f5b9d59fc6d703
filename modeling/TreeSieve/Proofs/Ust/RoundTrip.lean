import TreeSieve.Proofs.Ust.Faults
import TreeSieve.Proofs.Ust.NodeRecord

/-!
# Reading written trees

A tree that was read from a text can be written and read again.  Its document is
read as it was, but for the index of the lines, and the tree that is made of a
document indexes them itself and does not look at what was there before.
-/

namespace TreeSieve

open Json (Draft)

theorem Language.ofTag?_tag (language : Language) : ofTag? language.tag = some language := by
  cases language <;> rfl

theorem SourceFile.ofDraft_ofJson (file : SourceFile) :
    ofDraft (.ofJson file.toJson) = .ok (.unindexed file.path file.code) :=
  rfl

namespace Document

/-! ## Reading documents -/

theorem readId_ofJson (id : NodeId) : readId (.ofJson (NodeKind.idToJson id)) = .ok id :=
  congrArg (Except.map NodeId.mk) (Draft.readUInt32_toNat id.value)

/-- The members of a written document. -/
def draftMembers (document : Document) : List (Option String × Draft) :=
  [ (some "language", .string document.language.tag),
    (some "file", .ofJson document.file.toJson),
    (some "nodes", .ofJson (.array (document.nodes.toList.map Node.toJson))),
    (some "root", .ofJson (NodeKind.idToJson document.root)),
    (some "comments", .ofJson (.array (document.comments.map NodeKind.idToJson))) ]

theorem ofJson_toJson (document : Document) :
    Draft.ofJson document.toJson = .object document.draftMembers := by
  simp only [toJson, Draft.ofJson, Draft.ofMembers, draftMembers]

/-- A written document is read as itself, without the index of its lines. -/
theorem ofDraft_ofJson (document : Document) :
    ofDraft (.ofJson document.toJson) =
      .ok { document with file := .unindexed document.file.path document.file.code } := by
  have language : Draft.readName Language.ofTag? (.string document.language.tag) =
      .ok document.language := by
    rw [Draft.readName, Language.ofTag?_tag]
    rfl
  have nodes : readNodes (.ofJson (.array (document.nodes.toList.map Node.toJson))) =
      .ok document.nodes.toList :=
    Json.readList_ofJson fun node _ => node.ofDraft_ofJson (by decide)
  have comments : Draft.readList readId
      (.ofJson (.array (document.comments.map NodeKind.idToJson))) = .ok document.comments :=
    Json.readList_ofJson fun id _ => readId_ofJson id
  have fields : Draft.foldMembers readField {} document.draftMembers =
      .ok ⟨some document.language, some (.unindexed document.file.path document.file.code),
        some document.nodes.toList, some document.root, some document.comments⟩ := by
    simp only [draftMembers, Draft.foldMembers, readField, Draft.readOnce, language,
      SourceFile.ofDraft_ofJson, nodes, readId_ofJson, comments]
    rfl
  rw [ofJson_toJson, ofDraft, fields]
  rfl

/-- What holds of texts, of references and of the nodes holds of a document. -/
theorem allLeaves_toJson {holds : Json → Prop} {document : Document}
    (texts : ∀ text, holds (.string text)) (ids : ∀ id, holds (NodeKind.idToJson id))
    (nodes : ∀ node ∈ document.nodes.toList, node.toJson.AllLeaves holds) :
    document.toJson.AllLeaves holds := by
  have isText (text : String) : (Json.string text).AllLeaves holds :=
    (Json.allLeaves_scalar rfl).mpr (texts text)
  have isId (id : NodeId) : (NodeKind.idToJson id).AllLeaves holds :=
    (Json.allLeaves_scalar rfl).mpr (ids id)
  have file : document.file.toJson.AllLeaves holds := by
    rw [SourceFile.toJson, Json.allLeaves_object]
    simp only [List.forall_mem_cons]
    exact ⟨isText _, isText _, List.forall_mem_nil _⟩
  rw [toJson, Json.allLeaves_object]
  simp only [List.forall_mem_cons]
  exact ⟨isText _, file, Json.allLeaves_array.mpr (List.forall_mem_map.mpr nodes), isId _,
    Json.allLeaves_array.mpr (List.forall_mem_map.mpr fun id _ => isId id),
    List.forall_mem_nil _⟩

theorem fitsWord_toJson (document : Document) : document.toJson.AllLeaves Json.FitsWord :=
  allLeaves_toJson (fun _ => trivial) NodeKind.fitsWord_idToJson
    fun node _ => node.fitsWord_toJson

/-! ## Finite floats -/

/-- Whether every float of a document is finite. -/
def IsFinite (document : Document) : Prop :=
  ∀ node ∈ document.nodes.toList, node.kind.IsFinite

theorem finiteFloats_toJson {document : Document} (finite : document.IsFinite) :
    document.toJson.FiniteFloats :=
  allLeaves_toJson (fun _ => trivial) (fun _ => trivial)
    fun node member => Node.finiteFloats_toJson (finite node member)

theorem isFinite_of_readNodes {draft : Draft} (finite : draft.FiniteFloats) {nodes : List Node}
    (reads : readNodes draft = .ok nodes) : ∀ node ∈ nodes, node.kind.IsFinite := by
  cases draft with
  | array items =>
      rw [Draft.finiteFloats_array] at finite
      exact Json.forall_of_mapM
        (fun item member node isNode => Node.isFinite_of_ofDraft (finite item member) isNode) reads
  | _ => contradiction

/-- Whether the nodes that have been read so far are finite. -/
def Fields.IsFinite (fields : Fields) : Prop :=
  ∀ nodes, fields.nodes = some nodes → ∀ node ∈ nodes, node.kind.IsFinite

theorem isFinite_of_readField {before after : Fields} (finite : before.IsFinite) {key : String}
    {value : Draft} (valueFinite : value.FiniteFloats)
    (reads : readField before key value = .ok after) : after.IsFinite := by
  unfold readField at reads
  split at reads
  · obtain ⟨_, -, ⟨⟩⟩ := Json.bind_eq_ok_iff.mp reads
    exact finite
  split at reads
  · obtain ⟨_, -, ⟨⟩⟩ := Json.bind_eq_ok_iff.mp reads
    exact finite
  split at reads
  · obtain ⟨found, isFound, ⟨⟩⟩ := Json.bind_eq_ok_iff.mp reads
    obtain ⟨-, nodes, isNodes, rfl⟩ := Json.readOnce_eq_ok_iff.mp isFound
    rintro _ ⟨⟩
    exact isFinite_of_readNodes valueFinite isNodes
  split at reads
  · obtain ⟨_, -, ⟨⟩⟩ := Json.bind_eq_ok_iff.mp reads
    exact finite
  split at reads
  · obtain ⟨_, -, ⟨⟩⟩ := Json.bind_eq_ok_iff.mp reads
    exact finite
  · obtain ⟨_, -, ⟨⟩⟩ := Json.bind_eq_ok_iff.mp reads
    exact finite

theorem isFinite_of_require {name : String} {fields : Fields} (finite : fields.IsFinite)
    {nodes : List Node} (required : Draft.require name fields.nodes = .ok nodes) :
    ∀ node ∈ nodes, node.kind.IsFinite := by
  cases found : fields.nodes with
  | none => simp [Draft.require, found] at required
  | some others =>
      rw [found] at required
      cases required
      exact finite _ found

/-- A document that is read from finite floats is finite. -/
theorem isFinite_of_ofDraft {draft : Draft} (finite : draft.FiniteFloats) {document : Document}
    (reads : ofDraft draft = .ok document) : document.IsFinite := by
  cases draft with
  | object members =>
      rw [Draft.finiteFloats_object] at finite
      obtain ⟨fields, folded, reads⟩ := Json.bind_eq_ok_iff.mp reads
      obtain ⟨language, -, reads⟩ := Json.bind_eq_ok_iff.mp reads
      obtain ⟨file, -, reads⟩ := Json.bind_eq_ok_iff.mp reads
      obtain ⟨nodes, isNodes, reads⟩ := Json.bind_eq_ok_iff.mp reads
      obtain ⟨root, -, ⟨⟩⟩ := Json.bind_eq_ok_iff.mp reads
      have none : Fields.IsFinite {} := by
        rintro _ ⟨⟩
      have fieldsFinite : fields.IsFinite :=
        Json.foldMembers_induction (fun key value member _ _ before =>
          isFinite_of_readField before (finite (some key, value) member)) none folded
      exact isFinite_of_require fieldsFinite isNodes
  | array items =>
      rw [Draft.finiteFloats_array] at finite
      obtain ⟨⟨language, items⟩, isLanguage, reads⟩ := Json.bind_eq_ok_iff.mp reads
      obtain ⟨⟨file, items⟩, isFile, reads⟩ := Json.bind_eq_ok_iff.mp reads
      obtain ⟨⟨nodes, items⟩, isItem, reads⟩ := Json.bind_eq_ok_iff.mp reads
      obtain ⟨⟨root, items⟩, -, reads⟩ := Json.bind_eq_ok_iff.mp reads
      obtain ⟨⟨comments, items⟩, -, reads⟩ := Json.bind_eq_ok_iff.mp reads
      obtain ⟨_, -, ⟨⟩⟩ := Json.bind_eq_ok_iff.mp reads
      obtain ⟨_, rfl, -⟩ := Json.requireItem_eq_ok_iff.mp isLanguage
      obtain ⟨_, rfl, -⟩ := Json.requireItem_eq_ok_iff.mp isFile
      obtain ⟨item, rfl, isNodes⟩ := Json.requireItem_eq_ok_iff.mp isItem
      exact isFinite_of_readNodes (finite item (by simp)) isNodes
  | _ => contradiction

/-- A document with finite floats is read from its text, without the index of its
lines. -/
theorem ofText_render {document : Document} (finite : document.toJson.FiniteFloats)
    (readsBack : document.toJson.FloatsReadBack) :
    ofText document.render =
      .ok { document with file := .unindexed document.file.path document.file.code } := by
  have readable := Json.readable_of_finiteFloats document.fitsWord_toJson finite readsBack
  rw [ofText, render, Json.readText_render _ readable]
  exact document.ofDraft_ofJson

/-- The document of a text can be read from its own text. -/
theorem ofText_render_of_ofText {text : String} {document : Document}
    (reads : ofText text = .ok document) (readsBack : document.toJson.FloatsReadBack) :
    ofText document.render =
      .ok { document with file := .unindexed document.file.path document.file.code } := by
  have finite := isFinite_of_ofDraft (Json.finiteFloats_draftOf text)
    (Json.readText_eq_ok_iff.mp reads).1
  exact ofText_render (finiteFloats_toJson finite) readsBack

end Document

/-! ## Trees -/

namespace Ust

theorem exists_document_of_ofText {text : String} {ust : Ust} (accepted : ofText text = .ok ust) :
    ∃ document, Document.ofText text = .ok document ∧ ofDocument document = .ok ust := by
  cases reads : Document.ofText text with
  | error fault =>
      rw [ofText, reads] at accepted
      cases accepted
  | ok document =>
      rw [ofText_of_document reads] at accepted
      cases made : ofDocument document with
      | error fault =>
          rw [made] at accepted
          cases accepted
      | ok other =>
          rw [made] at accepted
          cases accepted
          exact ⟨document, rfl, made⟩

/-- The index of the lines of a document makes no difference to its tree. -/
theorem ofDocument_unindexed {document : Document} {ust : Ust}
    (made : ofDocument document = .ok ust) :
    ofDocument { document with file := .unindexed document.file.path document.file.code } =
      .ok ust := by
  obtain ⟨sound, isUst⟩ := ofDocument_eq_ok_iff.mp made
  exact ofDocument_eq_ok_iff.mpr ⟨⟨sound.root_lt, sound.comment_lt, sound.child_lt,
    sound.child_ne_root, sound.position_unique⟩, isUst⟩

/-- A tree that was read from a text is read again from the text of its document:
the same tree, with the same index of lines and the same table of parents, which
is written as the same text.  Only the floats of the tree have to read back. -/
theorem ofText_render_stable_of_ofText {text : String} {ust : Ust}
    (accepted : ofText text = .ok ust)
    (readsBack : ust.toDocument.toJson.FloatsReadBack) :
    ofText ust.toDocument.render = .ok ust ∧
      (ofText ust.toDocument.render).map (fun again => again.toDocument.render) =
        .ok ust.toDocument.render := by
  obtain ⟨document, reads, made⟩ := exists_document_of_ofText accepted
  have again : ofText ust.toDocument.render = .ok ust := by
    obtain ⟨-, isUst⟩ := eq_of_ofDocument made
    have written : ust.toDocument.toJson = document.toJson := by
      rw [isUst]
      rfl
    rw [written] at readsBack
    have rereads := Document.ofText_render_of_ofText reads readsBack
    rw [Document.render, written, ← Document.render, ofText_of_document rereads,
      ofDocument_unindexed made]
    rfl
  refine ⟨again, ?_⟩
  rw [again]
  rfl

/-- The literal `2.5` as a list of fields, with its tag last and without code and
comments. -/
def sampleFields : Json :=
  .array
    [ .string "java", .array [.string "A.java"],
      .array
        [ .object
            [ ("value", .float 2.5), ("span", .array [.int 0, .int 3]),
              ("kind", .string "FloatLiteral") ] ],
      .int 0 ]

/-- The tree of the literal `2.5`. -/
def sampleLiteral : Ust where
  language := .java
  file := .ofCode "A.java" ""
  nodes := #[⟨.floatLiteral 2.5, ⟨0, 3⟩⟩]
  root := ⟨0⟩
  comments := []
  parents := some #[none]

theorem readable_sampleFields : sampleFields.Readable := by
  intro leaf member
  simp only [sampleFields, Json.leaves, Json.leavesOfItems, Json.leavesOfMembers,
    List.append_nil, List.cons_append, List.nil_append, List.mem_cons, List.not_mem_nil,
    or_false] at member
  rcases member with rfl | rfl | rfl | rfl | rfl | rfl | rfl
  case inr.inr.inl => exact (rfl : Json.ReadsBack 2.5)
  all_goals trivial

theorem ofText_render_sampleLiteral :
    ofText sampleFields.render = .ok sampleLiteral ∧
      sampleLiteral.toDocument.toJson.FloatsReadBack ∧
        ofText sampleLiteral.toDocument.render = .ok sampleLiteral := by
  have accepted : ofText sampleFields.render = .ok sampleLiteral := by
    have reads : Document.ofText sampleFields.render =
        .ok { sampleLiteral.toDocument with file := .unindexed "A.java" "" } := by
      rw [Document.ofText, Json.readText_render _ readable_sampleFields]
      rfl
    rw [ofText_of_document reads]
    rfl
  have readsBack : sampleLiteral.toDocument.toJson.FloatsReadBack := by
    have leaves : sampleLiteral.toDocument.toJson.leaves =
        [.string "java", .string "A.java", .string "", .string "FloatLiteral", .float 2.5, .int 0,
          .int 3, .int 0] := rfl
    intro number member _
    obtain rfl : number = 2.5 := by simpa [leaves] using member
    rfl
  exact ⟨accepted, readsBack, (ofText_render_stable_of_ofText accepted readsBack).1⟩

end Ust

end TreeSieve
