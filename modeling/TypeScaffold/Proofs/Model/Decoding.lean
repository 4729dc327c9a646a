import TypeScaffold.Model.Decode
import TypeScaffold.Model.Encode
import TypeScaffold.Proofs.Validation.Reading

/-!
# Laws of reading a type model

The parts of a type description are read as the members of any other record are: a list item by item,
and what may be null as null or as a type description. So one law for each kind says what a type
description of this kind is read as.
-/

namespace TypeScaffold

open Validation

/-- A property with all its members. -/
def PropertyOf.encode (property : Property) : Json :=
  .object [("name", .text property.name), ("type", property.type.encode),
    ("is_optional", .bool property.optional)]

namespace TypeNode

/-- A type description, or null. -/
def decodeOptional : Json → Checked (Option TypeNode)
  | .null => .ok none
  | json => (decode json).map some

/-! ## Members and items -/

theorem decodeItems_eq_readItems (index : Nat) (items : List Json) :
    decodeItems index items = readItems decode index items := by
  induction items generalizing index with
  | nil => rfl
  | cons item rest inductionHypothesis =>
      rw [decodeItems, readItems, inductionHypothesis]

theorem decodeProperties_eq_readItems (index : Nat) (items : List Json) :
    decodeProperties index items = readItems decodeProperty index items := by
  induction items generalizing index with
  | nil => rfl
  | cons item rest inductionHypothesis =>
      rw [decodeProperties, readItems, inductionHypothesis]

section Members

variable (name : String) (members : List (String × Json))

theorem decodeAt_eq_map : decodeAt name members = (Keyed.get? name members).map decode := by
  induction members with
  | nil => rfl
  | cons member rest inductionHypothesis =>
      by_cases same : member.1 = name <;> simp [decodeAt, Keyed.get?, same, inductionHypothesis]

theorem decodeOptionalAt_eq_map :
    decodeOptionalAt name members = (Keyed.get? name members).map decodeOptional := by
  induction members with
  | nil => rfl
  | cons member rest inductionHypothesis =>
      rw [decodeOptionalAt.eq_def, Keyed.get?]
      by_cases same : member.1 = name
      · simp only [same, if_true]
        rfl
      · simp only [same, if_false, inductionHypothesis]

theorem decodeListAt_eq_map :
    decodeListAt name members = (Keyed.get? name members).map (readList .notList decode) := by
  induction members with
  | nil => rfl
  | cons member rest inductionHypothesis =>
      rw [decodeListAt.eq_def, Keyed.get?]
      by_cases same : member.1 = name
      · simp only [same, if_true, decodeItems_eq_readItems]
        rfl
      · simp only [same, if_false, inductionHypothesis]

theorem decodePropertiesAt_eq_map :
    decodePropertiesAt name members =
      (Keyed.get? name members).map (readList .notList decodeProperty) := by
  induction members with
  | nil => rfl
  | cons member rest inductionHypothesis =>
      rw [decodePropertiesAt.eq_def, Keyed.get?]
      by_cases same : member.1 = name
      · simp only [same, if_true, decodeProperties_eq_readItems]
        rfl
      · simp only [same, if_false, inductionHypothesis]

variable {α : Type} (read : Json → Checked α)

theorem needed_map : needed name ((Keyed.get? name members).map read) = required name members read := by
  rw [required]
  cases Keyed.get? name members <;> rfl

theorem orDefault_map (default : α) :
    orDefault default name ((Keyed.get? name members).map read) =
      withDefault default name members read := by
  rw [withDefault]
  cases Keyed.get? name members <;> rfl

end Members

theorem decodeOptional_eq_ok_iff {json : Json} {result : Option TypeNode} :
    decodeOptional json = .ok result ↔
      (json = .null ∧ none = result) ∨ ∃ node, decode json = .ok node ∧ some node = result := by
  have null : ∀ node, decode .null ≠ .ok node := by
    intro node accepted
    cases accepted
  rw [decodeOptional.eq_def]
  split
  · simp [null]
  · rename_i present
    simp only [Checked.map_eq_ok_iff, eq_false present, false_and, false_or]

theorem closed_eq_ok_iff {names : List String} {members : List (String × Json)}
    {node result : TypeNode} :
    closed names members node = .ok result ↔
      noOthers ("kind" :: names) members = .ok () ∧ node = result := by
  rw [closed, Checked.map_eq_ok_iff]
  constructor
  · rintro ⟨⟨⟩, nothingElse, same⟩
    exact ⟨nothingElse, same⟩
  · rintro ⟨nothingElse, same⟩
    exact ⟨(), nothingElse, same⟩

theorem decodeProperty_eq_ok_iff {json : Json} {property : Property} :
    decodeProperty json = .ok property ↔
      ∃ members, json = .object members ∧
        required "name" members readText = .ok property.name ∧
        required "type" members decode = .ok property.type ∧
        withDefault false "is_optional" members readBoolean = .ok property.optional ∧
        noOthers ["name", "type", "is_optional"] members = .ok () := by
  cases json with
  | object members =>
      rw [decodeProperty, decodeAt_eq_map, needed_map]
      simp only [Checked.bind_eq_ok_iff, Json.object.injEq, exists_eq_left']
      constructor
      · rintro ⟨name, readName, type, readType, optional, readOptional, ⟨⟩, closed, made⟩
        cases made
        exact ⟨readName, readType, readOptional, closed⟩
      · rintro ⟨readName, readType, readOptional, closed⟩
        exact ⟨_, readName, _, readType, _, readOptional, (), closed, rfl⟩
  | _ => simp [decodeProperty]

/-! ## Kinds -/

/-- The members of an object describe a type: its kind is among them, then all that the kind needs, and
nothing else. -/
inductive Describes (members : List (String × Json)) : TypeNode → Prop where
  | primitive {name : String}
      (kind : Keyed.get? "kind" members = some (.text "primitive"))
      (readName : required "name" members readText = .ok name)
      (nothingElse : noOthers ["kind", "name"] members = .ok ()) :
      Describes members (.primitive name)
  | literal {value : Scalar}
      (kind : Keyed.get? "kind" members = some (.text "literal"))
      (readValue : required "value" members Scalar.decode = .ok value)
      (nothingElse : noOthers ["kind", "value"] members = .ok ()) :
      Describes members (.literal value)
  | array {element : Option TypeNode}
      (kind : Keyed.get? "kind" members = some (.text "array"))
      (readElement : withDefault none "element" members decodeOptional = .ok element)
      (nothingElse : noOthers ["kind", "element"] members = .ok ()) :
      Describes members (.array element)
  | tuple {elements : List TypeNode}
      (kind : Keyed.get? "kind" members = some (.text "tuple"))
      (readElements : withDefault [] "elements" members (readList .notList decode) = .ok elements)
      (nothingElse : noOthers ["kind", "elements"] members = .ok ()) :
      Describes members (.tuple elements)
  | union {nodes : List TypeNode}
      (kind : Keyed.get? "kind" members = some (.text "union"))
      (readMembers : withDefault [] "members" members (readList .notList decode) = .ok nodes)
      (nothingElse : noOthers ["kind", "members"] members = .ok ()) :
      Describes members (.union nodes)
  | intersection {nodes : List TypeNode}
      (kind : Keyed.get? "kind" members = some (.text "intersection"))
      (readMembers : withDefault [] "members" members (readList .notList decode) = .ok nodes)
      (nothingElse : noOthers ["kind", "members"] members = .ok ()) :
      Describes members (.intersection nodes)
  | object {properties : List Property} {name : Option String}
      (kind : Keyed.get? "kind" members = some (.text "object"))
      (readProperties :
        withDefault [] "properties" members (readList .notList decodeProperty) = .ok properties)
      (readName : withDefault none "name" members readOptionalText = .ok name)
      (nothingElse : noOthers ["kind", "properties", "name"] members = .ok ()) :
      Describes members (.object properties name)
  | reference {name : String}
      (kind : Keyed.get? "kind" members = some (.text "reference"))
      (readName : required "name" members readText = .ok name)
      (nothingElse : noOthers ["kind", "name"] members = .ok ()) :
      Describes members (.reference name)
  | enumeration {values : List EnumMember} {name : Option String}
      (kind : Keyed.get? "kind" members = some (.text "enum"))
      (readValues :
        withDefault [] "values" members (readList .notList EnumMember.decode) = .ok values)
      (readName : withDefault none "name" members readOptionalText = .ok name)
      (nothingElse : noOthers ["kind", "values", "name"] members = .ok ()) :
      Describes members (.enumeration values name)
  | record {key value : Option TypeNode}
      (kind : Keyed.get? "kind" members = some (.text "record"))
      (readKey : withDefault none "key" members decodeOptional = .ok key)
      (readValue : withDefault none "value" members decodeOptional = .ok value)
      (nothingElse : noOthers ["kind", "key", "value"] members = .ok ()) :
      Describes members (.record key value)
  | function
      (kind : Keyed.get? "kind" members = some (.text "function"))
      (nothingElse : noOthers ["kind"] members = .ok ()) :
      Describes members .function
  | unknown {rawText : Option String}
      (kind : Keyed.get? "kind" members = some (.text "unknown"))
      (readRawText : withDefault none "raw_text" members readOptionalText = .ok rawText)
      (nothingElse : noOthers ["kind", "raw_text"] members = .ok ()) :
      Describes members (.unknown rawText)

theorem describes_of_decode {members : List (String × Json)} {node : TypeNode}
    (decoded : decode (.object members) = .ok node) : Describes members node := by
  unfold decode at decoded
  split at decoded
  · simp at decoded
  · rename_i kind found
    split at decoded <;>
      simp only [Checked.under_eq_ok_iff, Checked.bind_eq_ok_iff, closed_eq_ok_iff,
        decodeOptionalAt_eq_map, decodeListAt_eq_map, decodePropertiesAt_eq_map,
        orDefault_map, refuse_ne_ok] at decoded
    · obtain ⟨_, readName, nothingElse, rfl⟩ := decoded
      exact .primitive found readName nothingElse
    · obtain ⟨_, readValue, nothingElse, rfl⟩ := decoded
      exact .literal found readValue nothingElse
    · obtain ⟨_, readElement, nothingElse, rfl⟩ := decoded
      exact .array found readElement nothingElse
    · obtain ⟨_, readElements, nothingElse, rfl⟩ := decoded
      exact .tuple found readElements nothingElse
    · obtain ⟨_, readMembers, nothingElse, rfl⟩ := decoded
      exact .union found readMembers nothingElse
    · obtain ⟨_, readMembers, nothingElse, rfl⟩ := decoded
      exact .intersection found readMembers nothingElse
    · obtain ⟨_, readProperties, _, readName, nothingElse, rfl⟩ := decoded
      exact .object found readProperties readName nothingElse
    · obtain ⟨_, readName, nothingElse, rfl⟩ := decoded
      exact .reference found readName nothingElse
    · obtain ⟨_, readValues, _, readName, nothingElse, rfl⟩ := decoded
      exact .enumeration found readValues readName nothingElse
    · obtain ⟨_, readKey, _, readValue, nothingElse, rfl⟩ := decoded
      exact .record found readKey readValue nothingElse
    · obtain ⟨nothingElse, rfl⟩ := decoded
      exact .function found nothingElse
    · obtain ⟨_, readRawText, nothingElse, rfl⟩ := decoded
      exact .unknown found readRawText nothingElse

theorem decode_of_describes {members : List (String × Json)} {node : TypeNode}
    (describes : Describes members node) : decode (.object members) = .ok node := by
  unfold decode
  cases describes <;>
    simp only [*, Checked.under_eq_ok_iff, Checked.bind_eq_ok_iff, closed_eq_ok_iff,
      decodeOptionalAt_eq_map, decodeListAt_eq_map, decodePropertiesAt_eq_map,
      orDefault_map, Except.ok.injEq, exists_eq_left', and_self]

/-! ## Writing -/

theorem encodeList_eq_map (nodes : List TypeNode) : encodeList nodes = nodes.map encode := by
  induction nodes with
  | nil => rfl
  | cons node rest inductionHypothesis => rw [encodeList, inductionHypothesis, List.map_cons]

theorem encodeProperties_eq_map (properties : List Property) :
    encodeProperties properties = properties.map PropertyOf.encode := by
  induction properties with
  | nil => rfl
  | cons property rest inductionHypothesis =>
      rw [encodeProperties, inductionHypothesis, List.map_cons, PropertyOf.encode]

end TypeNode

/-! ## Records -/

theorem EnumMember.decode_eq_ok_iff {json : Json} {member : EnumMember} :
    decode json = .ok member ↔
      ∃ members, json = .object members ∧
        required "name" members readText = .ok member.name ∧
        required "value" members EnumValue.decode = .ok member.value ∧
        noOthers ["name", "value"] members = .ok () := by
  simp only [decode, Checked.bind_eq_ok_iff, readRecord_eq_ok_iff]
  constructor
  · rintro ⟨members, isObject, name, readName, value, readValue, ⟨⟩, nothingElse, made⟩
    cases made
    exact ⟨members, isObject, readName, readValue, nothingElse⟩
  · rintro ⟨members, isObject, readName, readValue, nothingElse⟩
    exact ⟨members, isObject, _, readName, _, readValue, (), nothingElse, rfl⟩

theorem Declaration.decode_eq_ok_iff {json : Json} {declaration : Declaration} :
    decode json = .ok declaration ↔
      ∃ members dependencies, json = .object members ∧
        required "name" members readText = .ok declaration.name ∧
        required "type" members TypeNode.decode = .ok declaration.type ∧
        withDefault [] "dependencies" members (readList .notSet readText) = .ok dependencies ∧
        withDefault true "is_exported" members readBoolean = .ok declaration.exported ∧
        noOthers ["name", "type", "dependencies", "is_exported"] members = .ok () ∧
        NameSet.ofList dependencies = declaration.dependencies := by
  simp only [decode, Checked.bind_eq_ok_iff, readRecord_eq_ok_iff]
  constructor
  · rintro ⟨members, isObject, name, readName, type, readType, dependencies, readDependencies,
      exported, readExported, ⟨⟩, nothingElse, made⟩
    cases made
    exact ⟨members, dependencies, isObject, readName, readType, readDependencies, readExported,
      nothingElse, rfl⟩
  · rintro ⟨members, dependencies, isObject, readName, readType, readDependencies, readExported,
      nothingElse, listed⟩
    refine ⟨members, isObject, _, readName, _, readType, dependencies, readDependencies, _,
      readExported, (), nothingElse, ?_⟩
    rw [listed]
    rfl

theorem Model.decode_eq_ok_iff {json : Json} {model : Model} :
    decode json = .ok model ↔
      ∃ members, json = .object members ∧
        withDefault [] "declarations" members (readList .notList Declaration.decode) =
          .ok model.declarations ∧
        withDefault [] "errors" members (readList .notList readText) = .ok model.errors ∧
        noOthers ["declarations", "errors"] members = .ok () := by
  simp only [decode, Checked.bind_eq_ok_iff, readRecord_eq_ok_iff]
  constructor
  · rintro ⟨members, isObject, declarations, readDeclarations, errors, readErrors, ⟨⟩, nothingElse,
      made⟩
    cases made
    exact ⟨members, isObject, readDeclarations, readErrors, nothingElse⟩
  · rintro ⟨members, isObject, readDeclarations, readErrors, nothingElse⟩
    exact ⟨members, isObject, _, readDeclarations, _, readErrors, (), nothingElse, rfl⟩

end TypeScaffold
