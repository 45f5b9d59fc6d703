import TreeSieve.Pattern.Record
import TreeSieve.Proofs.Json.Tagged
import TreeSieve.Proofs.Pattern.Parts

/-!
# Reading written patterns

A pattern is taken apart into the name of its kind and the values of its fields.
Writing it writes each field under its name, and reading it reads each field in
its shape, so the pattern comes back, by induction over its parts.
-/

namespace TreeSieve

open Json (Read FieldSpec Draft)

namespace Pattern

/-! ## Patterns as fields -/

/-- The name of the kind of a pattern. -/
def variantName : Pattern → String
  | any => "Any"
  | anyExpression => "AnyExpression"
  | conjunction _ => "And"
  | disjunction _ => "Or"
  | negation _ => "Not"
  | anywhere _ => "ArbitraryDepth"
  | idToken _ => "IdToken"
  | idRegex _ => "IdRegex"
  | stringLiteral _ => "StringLiteral"
  | stringRegex _ => "StringRegex"
  | commentRegex _ => "CommentRegex"
  | intLiteral _ => "IntLiteral"
  | intRange _ _ => "IntRange"
  | floatLiteral _ => "FloatLiteral"
  | booleanLiteral _ => "BooleanLiteral"
  | nullLiteral => "NullLiteral"
  | baseReference => "BaseReference"
  | binaryOperator _ _ _ => "BinaryOperator"
  | unaryOperator _ _ => "UnaryOperator"
  | assignment _ _ => "Assignment"
  | memberReference _ _ => "MemberReference"
  | indexer _ _ => "Indexer"
  | invocation _ _ => "Invocation"
  | objectCreate _ _ => "ObjectCreate"
  | multipleExpressions _ => "MultipleExpressions"
  | args _ => "Args"
  | statements _ => "Statements"
  | tryCatch _ _ => "TryCatch"
  | withStatement _ _ => "With"
  | classDeclaration _ _ _ => "ClassDeclaration"
  | methodDeclaration _ _ => "MethodDeclaration"
  | parameterDeclaration _ _ => "ParameterDeclaration"
  | variableDeclaration _ _ _ => "VarOrFieldDeclaration"

/-- The values of the fields of a pattern, in declaration order. -/
def fieldValues : Pattern → List FieldValue
  | any | anyExpression | nullLiteral | baseReference => []
  | conjunction patterns | disjunction patterns => [.patterns patterns]
  | negation pattern | anywhere pattern => [.pattern pattern]
  | idToken text | stringLiteral text => [.text text]
  | idRegex regex | stringRegex regex | commentRegex regex => [.regex regex]
  | intLiteral value => [.int value]
  | intRange least greatest => [.int least, .int greatest]
  | floatLiteral value => [.float value]
  | booleanLiteral value => [.optionalBool value]
  | binaryOperator left operator right =>
      [.pattern left, .optionalBinary operator, .pattern right]
  | unaryOperator operator operand => [.optionalUnary operator, .pattern operand]
  | assignment left right => [.pattern left, .optionalPattern right]
  | memberReference target name => [.pattern target, .pattern name]
  | indexer target arguments | invocation target arguments | objectCreate target arguments =>
      [.pattern target, .patterns arguments]
  | multipleExpressions patterns | args patterns | statements patterns => [.patterns patterns]
  | tryCatch exceptionTypes catchBodyEmpty => [.patterns exceptionTypes, .bool catchBodyEmpty]
  | withStatement expression statement => [.pattern expression, .pattern statement]
  | classDeclaration name baseTypes body =>
      [.optionalPattern name, .patterns baseTypes, .optionalPattern body]
  | methodDeclaration name body => [.optionalPattern name, .optionalPattern body]
  | parameterDeclaration parameterType name => [.optionalPattern parameterType, .pattern name]
  | variableDeclaration variableType name initializer =>
      [.optionalPattern variableType, .pattern name, .optionalPattern initializer]

namespace FieldValue

/-- The shape of a value. -/
def shape : FieldValue → Shape
  | text _ => .text
  | regex _ => .regex
  | int _ => .int
  | float _ => .float
  | bool _ => .bool
  | optionalBool _ => .optionalBool
  | optionalBinary _ => .optionalBinary
  | optionalUnary _ => .optionalUnary
  | pattern _ => .pattern
  | optionalPattern _ => .optionalPattern
  | patterns _ => .patterns

/-- The patterns in a value. -/
def parts : FieldValue → List Pattern
  | pattern part => [part]
  | optionalPattern part => part.toList
  | patterns parts => parts
  | _ => []

/-- A value as JSON. -/
def toJson : FieldValue → Json
  | text value => .string value
  | regex value => regexToJson value
  | int value => .int value.toInt
  | float value => .float value
  | bool value => .bool value
  | optionalBool value => Json.optional (value.map .bool)
  | optionalBinary operator => Json.optionalString (operator.map BinaryOperator.name)
  | optionalUnary operator => Json.optionalString (operator.map UnaryOperator.name)
  | pattern part => part.toJson
  | optionalPattern part => optionalToJson part
  | patterns parts => .array (allToJson parts)

end FieldValue

/-- The fields of a pattern under their names. -/
def fields (pattern : Pattern) : List (String × Json) :=
  Json.writeFields FieldValue.toJson (fieldsOf pattern.variantName) pattern.fieldValues

theorem toJson_eq_tagged (pattern : Pattern) :
    pattern.toJson = tagged pattern.variantName pattern.fields := by
  cases pattern <;> rw [toJson] <;> rfl

theorem ofFields?_fieldValues (pattern : Pattern) :
    ofFields? pattern.variantName pattern.fieldValues = some pattern := by
  cases pattern <;> rfl

theorem mem_variantNames (pattern : Pattern) : pattern.variantName ∈ variantNames := by
  cases pattern <;> simp [variantName, variantNames, variants]

theorem shape_fieldsOf (pattern : Pattern) :
    (fieldsOf pattern.variantName).map (·.shape) = pattern.fieldValues.map FieldValue.shape := by
  cases pattern <;> rfl

/-- The fields of a kind have names of their own, and none is the tag. -/
theorem nodup_fieldsOf {name : String} (known : name ∈ variantNames) :
    (Json.tagKey :: (fieldsOf name).map (·.name)).Nodup := by
  have all : ∀ name ∈ variantNames,
      (Json.tagKey :: (fieldsOf name).map (·.name)).Nodup := by decide +kernel
  exact all name known

theorem parts_eq_flatMap (pattern : Pattern) :
    pattern.parts = pattern.fieldValues.flatMap FieldValue.parts := by
  cases pattern <;> simp [fieldValues, FieldValue.parts]

/-! ## Reading fields -/

/-- Read the value of a field in its shape. -/
def readPart (shape : Shape) (value : Json) : Read FieldValue :=
  readField (fun _ => ofJson value) (fun _ => listOfJson value) value shape

theorem ofMembers_eq_fillSlots (specs : List (FieldSpec Shape FieldValue))
    (slots : List (Option FieldValue)) (members : List (String × Json)) :
    ofMembers specs slots members = Json.fillSlots readPart specs slots members := by
  induction members generalizing slots with
  | nil => rw [ofMembers, Json.fillSlots]
  | cons member members ih =>
      obtain ⟨key, value⟩ := member
      rw [ofMembers, Json.fillSlots]
      simp only [ih]
      rfl

theorem ofContent_members (name : String) (members : List (String × Json)) :
    ofContent name (.members members) =
      Json.readMembers readPart (fieldsOf name) members >>= build name := by
  rw [ofContent, Json.readMembers, bind_assoc]
  simp only [ofMembers_eq_fillSlots]

theorem ofJson_object (members : List (String × Json)) :
    ofJson (.object members) =
      Json.findTag variantNames none members >>= fun name => ofContent name (.members members) := by
  rw [ofJson]
  rfl

theorem allToJson_eq_map (patterns : List Pattern) : allToJson patterns = patterns.map toJson := by
  induction patterns with
  | nil => rw [allToJson, List.map_nil]
  | cons pattern patterns ih => rw [allToJson, ih, List.map_cons]

theorem listOfItems_eq_mapM (items : List Json) : listOfItems items = items.mapM ofJson := by
  induction items with
  | nil => rw [listOfItems]; rfl
  | cons item items ih => rw [listOfItems, ih, List.mapM_cons]

theorem toJson_ne_null (pattern : Pattern) : pattern.toJson ≠ .null := by
  rw [toJson_eq_tagged]
  exact Json.noConfusion

/-- A written field is read as the value that was written if the patterns in it
are. -/
theorem readPart_toJson {value : FieldValue}
    (reads : ∀ part ∈ value.parts, ofJson part.toJson = .ok part) :
    readPart value.shape value.toJson = .ok value := by
  cases value with
  | text _ | float _ | bool _ => rfl
  | regex regex =>
      change ((TextRegex.ofSource? regex.source).elim _ Except.ok).map FieldValue.regex = _
      rw [TextRegex.ofSource?_source]
      rfl
  | int value => exact congrArg (Except.map FieldValue.int) (Json.readInt64_toInt value)
  | optionalBool value => cases value <;> rfl
  | optionalBinary operator =>
      cases operator with
      | none => rfl
      | some operator =>
          exact congrArg (Except.map FieldValue.optionalBinary) (Json.readOption_of_ne_null
            Json.noConfusion (Json.readName_string operator.ofName?_name))
  | optionalUnary operator =>
      cases operator with
      | none => rfl
      | some operator =>
          exact congrArg (Except.map FieldValue.optionalUnary) (Json.readOption_of_ne_null
            Json.noConfusion (Json.readName_string operator.ofName?_name))
  | pattern part =>
      exact congrArg (Except.map FieldValue.pattern) (reads part List.mem_cons_self)
  | optionalPattern part =>
      cases part with
      | none =>
          rw [readPart, FieldValue.toJson, optionalToJson]
          rfl
      | some part =>
          rw [readPart, FieldValue.toJson, optionalToJson]
          have present : Json.readOption (fun _ => ofJson part.toJson) part.toJson =
              .ok (some part) :=
            Json.readOption_of_ne_null part.toJson_ne_null (reads part List.mem_cons_self)
          exact congrArg (Except.map FieldValue.optionalPattern) present
  | patterns parts =>
      have items : (parts.map toJson).mapM ofJson = .ok parts := Json.mapM_map_of_reads reads
      change (listOfJson (.array (allToJson parts))).map FieldValue.patterns = _
      rw [listOfJson, allToJson_eq_map, listOfItems_eq_mapM, items]
      rfl

/-! ## Reading patterns -/

theorem untagged_fields (pattern : Pattern) :
    ∀ member ∈ pattern.fields, member.1 ≠ Json.tagKey :=
  Json.keys_writeFields (List.nodup_cons.mp (nodup_fieldsOf pattern.mem_variantNames)).1

/-- The written fields of a pattern are read as the pattern if its parts are read
as themselves. -/
theorem ofContent_fields {pattern : Pattern}
    (reads : ∀ part ∈ pattern.parts, ofJson part.toJson = .ok part) :
    ofContent pattern.variantName (.members pattern.fields) = .ok pattern := by
  have values : Json.readMembers readPart (fieldsOf pattern.variantName) pattern.fields =
      .ok pattern.fieldValues := by
    refine Json.readMembers_writeFields pattern.shape_fieldsOf ?_
      (List.nodup_cons.mp (nodup_fieldsOf pattern.mem_variantNames)).2
    intro value isValue
    apply readPart_toJson
    intro part isPart
    apply reads
    rw [parts_eq_flatMap]
    exact List.mem_flatMap_of_mem isValue isPart
  rw [ofContent_members, values]
  change (ofFields? pattern.variantName pattern.fieldValues).elim _ Except.ok = _
  rw [ofFields?_fieldValues]
  rfl

/-- The tag does not count among the fields. -/
theorem ofContent_cons_tag {name : String} (known : name ∈ variantNames) (tag : Json)
    (members : List (String × Json)) :
    ofContent name (.members ((Json.tagKey, tag) :: members)) =
      ofContent name (.members members) := by
  have unknown : Json.tagKey ∉ (fieldsOf name).map (·.name) :=
    (List.nodup_cons.mp (nodup_fieldsOf known)).1
  rw [ofContent_members, ofContent_members, Json.readMembers, Json.fillSlots,
    Json.fillSlot_of_not_mem unknown]
  rfl

/-- A written pattern is read as itself. -/
theorem ofJson_toJson (pattern : Pattern) : ofJson pattern.toJson = .ok pattern := by
  induction pattern using parts_induction with
  | step pattern ih =>
      rw [toJson_eq_tagged, tagged, ofJson_object,
        Json.findTag_cons pattern.mem_variantNames pattern.untagged_fields]
      exact (ofContent_cons_tag pattern.mem_variantNames _ _).trans (ofContent_fields ih)

/-! ## Text -/

theorem fitsWord_fieldValue {value : FieldValue}
    (fits : ∀ part ∈ value.parts, part.toJson.AllLeaves Json.FitsWord) :
    value.toJson.AllLeaves Json.FitsWord := by
  cases value with
  | int value => exact (Json.allLeaves_scalar rfl).mpr (Json.fitsWord_toInt value)
  | optionalBool value => cases value <;> exact (Json.allLeaves_scalar rfl).mpr trivial
  | optionalBinary operator => cases operator <;> exact (Json.allLeaves_scalar rfl).mpr trivial
  | optionalUnary operator => cases operator <;> exact (Json.allLeaves_scalar rfl).mpr trivial
  | pattern part => exact fits part List.mem_cons_self
  | optionalPattern part =>
      cases part with
      | none =>
          rw [FieldValue.toJson, optionalToJson]
          exact (Json.allLeaves_scalar rfl).mpr trivial
      | some part =>
          rw [FieldValue.toJson, optionalToJson]
          exact fits part List.mem_cons_self
  | patterns parts =>
      rw [FieldValue.toJson, allToJson_eq_map, Json.allLeaves_array]
      rintro _ member
      obtain ⟨part, isPart, rfl⟩ := List.mem_map.mp member
      exact fits part isPart
  | _ => exact (Json.allLeaves_scalar rfl).mpr trivial

/-- The integers of a pattern fit 64 bits. -/
theorem fitsWord_toJson (pattern : Pattern) : pattern.toJson.AllLeaves Json.FitsWord := by
  induction pattern using parts_induction with
  | step pattern ih =>
      have fields := Json.allLeaves_writeFields (fieldsOf pattern.variantName)
        fun value isValue => fitsWord_fieldValue fun part isPart =>
          ih part (pattern.parts_eq_flatMap ▸ List.mem_flatMap_of_mem isValue isPart)
      rw [toJson_eq_tagged, tagged, Json.allLeaves_object, List.forall_mem_cons]
      exact ⟨(Json.allLeaves_scalar rfl).mpr trivial, fields⟩

theorem render_ne_empty (pattern : Pattern) : pattern.render ≠ "" := by
  rw [render, toJson_eq_tagged, tagged, Json.render, Json.write, Json.spell]
  intro blank
  simpa using congrArg String.toList blank

/-- Reading the text of a pattern gives the pattern. -/
theorem ofText_render {pattern : Pattern} (finite : pattern.toJson.FiniteFloats)
    (readsBack : pattern.toJson.FloatsReadBack)
    (shallow : pattern.toJson.depth ≤ Draft.maxDepth) : ofText pattern.render = .ok pattern := by
  have readable := Json.readable_of_finiteFloats pattern.fitsWord_toJson finite readsBack
  have parts : ∀ part ∈ pattern.parts, ofJson part.toJson = .ok part :=
    fun part _ => part.ofJson_toJson
  rw [ofText, render, Json.readText_render _ readable]
  rw [toJson_eq_tagged, tagged] at shallow ⊢
  rw [Json.readTagged_ofJson pattern.mem_variantNames pattern.untagged_fields shallow]
  exact ofContent_fields parts

end Pattern

end TreeSieve
