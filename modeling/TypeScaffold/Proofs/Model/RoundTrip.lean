import TypeScaffold.Model.Load
import TypeScaffold.Proofs.Model.Completion
import TypeScaffold.Proofs.Model.Decoding
import TypeScaffold.Proofs.Keyed
import TypeScaffold.Proofs.NameSet

/-!
# Reading and writing a type model

Nothing is lost when a model is read: what is written of it completes the value that it was read from.
And what is written is read as the same model again.
-/

namespace TypeScaffold

open Validation

/-! ## Reading what was written -/

theorem Scalar.decode_encode (value : Scalar) : decode value.encode = .ok value := by
  cases value <;> rfl

theorem EnumMember.decode_encode (member : EnumMember) : decode member.encode = .ok member := by
  obtain ⟨name, value⟩ := member
  cases value <;> rfl

namespace TypeNode

mutual

theorem decode_encode : ∀ node : TypeNode, decode (encode node) = .ok node
  | .primitive name => by
      apply decode_of_describes
      exact .primitive rfl (required_written rfl rfl) (noOthers_of_keys rfl)
  | .literal value => by
      apply decode_of_describes
      exact .literal rfl (required_written rfl value.decode_encode) (noOthers_of_keys rfl)
  | .array element => by
      have read := decodeOptional_encodeOptional element
      apply decode_of_describes
      exact .array rfl (withDefault_written rfl read) (noOthers_of_keys rfl)
  | .tuple elements => by
      have each := decode_encodeList elements
      apply decode_of_describes
      exact .tuple rfl (withDefault_writtenList rfl each) (noOthers_of_keys rfl)
  | .union members => by
      have each := decode_encodeList members
      apply decode_of_describes
      exact .union rfl (withDefault_writtenList rfl each) (noOthers_of_keys rfl)
  | .intersection members => by
      have each := decode_encodeList members
      apply decode_of_describes
      exact .intersection rfl (withDefault_writtenList rfl each) (noOthers_of_keys rfl)
  | .object properties name => by
      have each := decodeProperty_encodeProperties properties
      apply decode_of_describes
      exact .object rfl (withDefault_writtenList rfl each) (withDefault_writtenText rfl)
        (noOthers_of_keys rfl)
  | .reference name => by
      apply decode_of_describes
      exact .reference rfl (required_written rfl rfl) (noOthers_of_keys rfl)
  | .enumeration members name => by
      have each := forall₂_map_written EnumMember.decode_encode members
      apply decode_of_describes
      exact .enumeration rfl (withDefault_writtenList rfl each) (withDefault_writtenText rfl)
        (noOthers_of_keys rfl)
  | .record key value => by
      have readKey := decodeOptional_encodeOptional key
      have readValue := decodeOptional_encodeOptional value
      apply decode_of_describes
      exact .record rfl (withDefault_written rfl readKey) (withDefault_written rfl readValue)
        (noOthers_of_keys rfl)
  | .function => by
      apply decode_of_describes
      exact .function rfl (noOthers_of_keys rfl)
  | .unknown rawText => by
      apply decode_of_describes
      exact .unknown rfl (withDefault_writtenText rfl) (noOthers_of_keys rfl)

theorem decodeOptional_encodeOptional :
    ∀ node : Option TypeNode, decodeOptional (encodeOptional node) = .ok node
  | none => rfl
  | some node => decodeOptional_eq_ok_iff.mpr (Or.inr ⟨node, decode_encode node, rfl⟩)

theorem decode_encodeList : ∀ nodes : List TypeNode,
    List.Forall₂ (fun item result => decode item = .ok result) (encodeList nodes) nodes
  | [] => .nil
  | node :: rest => .cons (decode_encode node) (decode_encodeList rest)

theorem decodeProperty_encodeProperties : ∀ properties : List Property,
    List.Forall₂ (fun item result => decodeProperty item = .ok result)
      (encodeProperties properties) properties
  | [] => .nil
  | ⟨name, type, optional⟩ :: rest => by
      refine .cons ?_ (decodeProperty_encodeProperties rest)
      apply decodeProperty_eq_ok_iff.mpr
      exact ⟨_, rfl, required_written rfl rfl, required_written rfl (decode_encode type),
        withDefault_written rfl rfl, noOthers_of_keys rfl⟩

end

end TypeNode

theorem Declaration.decode_encode (declaration : Declaration) :
    decode declaration.encode =
      .ok { declaration with dependencies := NameSet.ofList declaration.dependencies } := by
  have listed := forall₂_map_written (fun _ => rfl : ∀ name, readText (.text name) = .ok name)
    (NameSet.ofList declaration.dependencies)
  apply decode_eq_ok_iff.mpr
  exact ⟨_, _, rfl, required_written rfl rfl, required_written rfl declaration.type.decode_encode,
    withDefault_writtenList rfl listed, withDefault_written rfl rfl, noOthers_of_keys rfl,
    NameSet.ofList_ofList _⟩

/-- The dependencies of all declarations are listed as sets. -/
def Model.ListsSets (model : Model) : Prop :=
  ∀ declaration ∈ model.declarations,
    NameSet.ofList declaration.dependencies = declaration.dependencies

theorem Model.decode_encode {model : Model} (listed : model.ListsSets) :
    decode model.encode = .ok model := by
  have declarations : List.Forall₂ (fun item result => Declaration.decode item = .ok result)
      (model.declarations.map Declaration.encode) model.declarations := by
    rw [List.forall₂_map_left_iff, List.forall₂_same]
    intro declaration member
    rw [Declaration.decode_encode, listed declaration member]
  have errors := forall₂_map_written (fun _ => rfl : ∀ name, readText (.text name) = .ok name)
    model.errors
  apply decode_eq_ok_iff.mpr
  exact ⟨_, rfl, withDefault_writtenList rfl declarations, withDefault_writtenList rfl errors,
    noOthers_of_keys rfl⟩

theorem Model.listsSets_of_decode {json : Json} {model : Model} (decoded : decode json = .ok model) :
    model.ListsSets := by
  obtain ⟨members, _, readDeclarations, _⟩ := decode_eq_ok_iff.mp decoded
  rcases withDefault_eq_ok_iff.mp readDeclarations with ⟨_, none⟩ | ⟨value, _, readValue⟩
  · intro declaration member
    rw [← none] at member
    cases member
  · obtain ⟨items, _, each⟩ := readList_eq_ok_iff.mp readValue
    intro declaration member
    obtain ⟨item, _, read⟩ := exists_item_of_mem each member
    obtain ⟨_, dependencies, _, _, _, _, _, _, listed⟩ := Declaration.decode_eq_ok_iff.mp read
    rw [← listed, NameSet.ofList_ofList]

/-! ## Nothing is lost -/

namespace Model

section Parts

variable {α : Type} {name : String} {members others : List (String × Json)}
  {read : Json → Checked α} {result : α} {shown : Json}

/-- Each of the given members completes that of its name. -/
inductive PartsComplete (members : List (String × Json)) : List (String × Json) → Prop where
  | nil : PartsComplete members []
  | cons {name : String} {shown : Json} {rest : List (String × Json)}
      (part : PartCompletes (.key name) (Keyed.get? name members) (some shown))
      (others : PartsComplete members rest) : PartsComplete members ((name, shown) :: rest)

theorem PartsComplete.part (parts : PartsComplete members others)
    (found : Keyed.get? name others = some shown) :
    PartCompletes (.key name) (Keyed.get? name members) (some shown) := by
  induction parts with
  | nil => cases found
  | @cons other _ _ part _ inductionHypothesis =>
      by_cases same : other = name
      · subst same
        rw [Keyed.get?, if_pos rfl] at found
        cases found
        exact part
      · rw [Keyed.get?, if_neg same] at found
        exact inductionHypothesis found

/-- A closed record is completed member by member. -/
theorem completes_record {names : List String} (nothingElse : noOthers names members = .ok ())
    (keys : Keyed.keys others = names) (parts : PartsComplete members others) :
    Completes (.object members) (.object others) := by
  apply completes_object
  intro name
  cases found : Keyed.get? name others with
  | none =>
      have other : name ∉ names := keys ▸ Keyed.get?_eq_none_iff.mp found
      rw [noOthers_eq_ok_iff.mp nothingElse name other]
      exact .absent (.key name)
  | some shown => exact parts.part found

theorem part_of_required (plain : name ∉ flagNames ∧ name ≠ setName)
    (found : required name members read = .ok result)
    (completes : ∀ value, Keyed.get? name members = some value → read value = .ok result →
      Completes value shown) :
    PartCompletes (.key name) (Keyed.get? name members) (some shown) := by
  obtain ⟨value, there, readValue⟩ := required_eq_ok_iff.mp found
  rw [there]
  exact .plain (isPlain_key plain) (completes value there readValue)

theorem part_of_withDefault {default : α} (plain : name ∉ flagNames ∧ name ≠ setName)
    (found : withDefault default name members read = .ok result)
    (missing : default = result → default? name = some shown)
    (completes : ∀ value, Keyed.get? name members = some value → read value = .ok result →
      Completes value shown) :
    PartCompletes (.key name) (Keyed.get? name members) (some shown) := by
  rcases withDefault_eq_ok_iff.mp found with ⟨absent, isDefault⟩ | ⟨value, there, readValue⟩
  · rw [absent]
    exact .default (missing isDefault)
  · rw [there]
    exact .plain (isPlain_key plain) (completes value there readValue)

theorem part_of_flag {default value : Bool} (isFlag : name ∈ flagNames)
    (found : withDefault default name members readBoolean = .ok value)
    (isDefault : default? name = some (.bool default)) :
    PartCompletes (.key name) (Keyed.get? name members) (some (.bool value)) := by
  rcases withDefault_eq_ok_iff.mp found with ⟨absent, rfl⟩ | ⟨written, there, readValue⟩
  · rw [absent]
    exact .default isDefault
  · rw [there]
    exact .flag isFlag (readBoolean_eq_ok_iff.mp readValue)

end Parts

section Values

variable {α : Type} {name : String} {value : Json} {members : List (String × Json)}

theorem sizeOf_lt_of_get? (found : Keyed.get? name members = some value) :
    sizeOf value < sizeOf (Json.object members) := by
  have inside := List.sizeOf_lt_of_mem (Keyed.mem_of_get? found)
  simp only [Prod.mk.sizeOf_spec, Json.object.sizeOf_spec] at inside ⊢
  omega

theorem sizeOf_lt_of_mem {items : List Json} (member : value ∈ items) :
    sizeOf value < sizeOf (Json.list items) := by
  have inside := List.sizeOf_lt_of_mem member
  simp only [Json.list.sizeOf_spec]
  omega

theorem completes_of_readText {text : String} (read : readText value = .ok text) :
    Completes value (.text text) := by
  rw [readText_eq_ok_iff.mp read]
  exact completes_of_isLeaf rfl

theorem completes_of_readOptionalText {text : Option String}
    (read : readOptionalText value = .ok text) : Completes value (Json.ofText? text) := by
  rw [readOptionalText_eq_ok_iff.mp read]
  apply completes_of_isLeaf
  cases text <;> rfl

theorem completes_of_decodeScalar {scalar : Scalar} (read : Scalar.decode value = .ok scalar) :
    Completes value scalar.encode := by
  have same : value = scalar.encode ∧ value.isLeaf = true := by
    cases value <;> cases read <;> exact ⟨rfl, rfl⟩
  rw [← same.1]
  exact completes_of_isLeaf same.2

theorem completes_of_decodeEnumValue {enumValue : EnumValue}
    (read : EnumValue.decode value = .ok enumValue) : Completes value enumValue.scalar.encode := by
  have same : value = enumValue.scalar.encode ∧ value.isLeaf = true := by
    cases value <;> cases read <;> exact ⟨rfl, rfl⟩
  rw [← same.1]
  exact completes_of_isLeaf same.2

/-- A list is completed item by item. -/
theorem completes_of_readList {problem : Problem} {read : Json → Checked α} {write : α → Json}
    {results : List α} (readValue : readList problem read value = .ok results)
    (each : ∀ item, sizeOf item < sizeOf value → ∀ result, read item = .ok result →
      Completes item (write result)) :
    Completes value (.list (results.map write)) := by
  obtain ⟨items, rfl, reads⟩ := readList_eq_ok_iff.mp readValue
  apply completes_list
  rw [List.forall₂_map_right_iff]
  have inside : List.Forall₂ (fun item result => item ∈ items ∧ read item = .ok result)
      items results := List.forall₂_and_left _ _ |>.mpr ⟨fun _ member => member, reads⟩
  apply inside.imp
  rintro item result ⟨member, readItem⟩
  exact each item (sizeOf_lt_of_mem member) result readItem

end Values

theorem part_of_text {name text : String} {members : List (String × Json)}
    (plain : name ∉ flagNames ∧ name ≠ setName)
    (readName : required name members readText = .ok text) :
    PartCompletes (.key name) (Keyed.get? name members) (some (.text text)) :=
  part_of_required plain readName (fun _ _ => completes_of_readText)

theorem part_of_optionalText {name : String} {text : Option String}
    {members : List (String × Json)} (plain : name ∉ flagNames ∧ name ≠ setName)
    (isDefault : default? name = some .null)
    (readName : withDefault none name members readOptionalText = .ok text) :
    PartCompletes (.key name) (Keyed.get? name members) (some (Json.ofText? text)) := by
  apply part_of_withDefault plain readName
  · rintro rfl
    exact isDefault
  · intro _ _
    exact completes_of_readOptionalText

theorem part_of_kind {kind : String} {members : List (String × Json)}
    (found : Keyed.get? "kind" members = some (.text kind)) :
    PartCompletes (.key "kind") (Keyed.get? "kind" members) (some (.text kind)) := by
  rw [found]
  exact .plain (isPlain_key (by decide)) (completes_of_isLeaf rfl)

/-- A member that is a list is completed if its items are. -/
theorem part_of_list {α : Type} {name : String} {problem : Problem} {read : Json → Checked α}
    {write : α → Json} {results : List α} {members : List (String × Json)}
    (plain : name ∉ flagNames ∧ name ≠ setName) (isDefault : default? name = some (.list []))
    (readResults : withDefault [] name members (readList problem read) = .ok results)
    (each : ∀ item, sizeOf item < sizeOf (Json.object members) → ∀ result,
      read item = .ok result → Completes item (write result)) :
    PartCompletes (.key name) (Keyed.get? name members) (some (.list (results.map write))) := by
  apply part_of_withDefault plain readResults
  · rintro rfl
    exact isDefault
  · intro value there readValue
    apply completes_of_readList readValue
    intro item less
    exact each item (Nat.lt_trans less (sizeOf_lt_of_get? there))

theorem completes_of_decodeEnumMember {value : Json} {member : EnumMember}
    (decoded : EnumMember.decode value = .ok member) : Completes value member.encode := by
  obtain ⟨members, rfl, readName, readValue, nothingElse⟩ :=
    EnumMember.decode_eq_ok_iff.mp decoded
  have namePart := part_of_text (by decide) readName
  have valuePart := part_of_required (by decide) readValue (fun _ _ => completes_of_decodeEnumValue)
  exact completes_record nothingElse rfl (.cons namePart (.cons valuePart .nil))

section Nodes

open TypeNode

theorem completes_of_decodeProperty {value : Json} {property : Property}
    (smaller : ∀ part, sizeOf part < sizeOf value → ∀ node, TypeNode.decode part = .ok node →
      Completes part node.encode)
    (decoded : decodeProperty value = .ok property) : Completes value property.encode := by
  obtain ⟨members, rfl, readName, readType, readOptional, nothingElse⟩ :=
    decodeProperty_eq_ok_iff.mp decoded
  have namePart := part_of_text (by decide) readName
  have typePart := part_of_required (by decide) readType
    (fun part there => smaller part (sizeOf_lt_of_get? there) property.type)
  have optionalPart := part_of_flag (by decide) readOptional rfl
  exact completes_record nothingElse rfl (.cons namePart (.cons typePart (.cons optionalPart .nil)))

variable {members : List (String × Json)}
  (smaller : ∀ part, sizeOf part < sizeOf (Json.object members) → ∀ node,
    TypeNode.decode part = .ok node → Completes part node.encode)

include smaller

theorem part_of_nodes {name : String} {nodes : List TypeNode}
    (plain : name ∉ flagNames ∧ name ≠ setName) (isDefault : default? name = some (.list []))
    (readNodes : withDefault [] name members (readList .notList TypeNode.decode) = .ok nodes) :
    PartCompletes (.key name) (Keyed.get? name members) (some (.list (encodeList nodes))) := by
  rw [encodeList_eq_map]
  exact part_of_list plain isDefault readNodes smaller

theorem part_of_optionalNode {name : String} {node : Option TypeNode}
    (plain : name ∉ flagNames ∧ name ≠ setName) (isDefault : default? name = some .null)
    (readNode : withDefault none name members decodeOptional = .ok node) :
    PartCompletes (.key name) (Keyed.get? name members) (some (encodeOptional node)) := by
  apply part_of_withDefault plain readNode
  · rintro rfl
    exact isDefault
  · intro value there readValue
    rcases decodeOptional_eq_ok_iff.mp readValue with ⟨rfl, rfl⟩ | ⟨present, decoded, rfl⟩
    · exact completes_of_isLeaf rfl
    · exact smaller value (sizeOf_lt_of_get? there) present decoded

theorem completes_of_describes {node : TypeNode} (describes : Describes members node) :
    Completes (.object members) node.encode := by
  cases describes with
  | primitive kind readName nothingElse =>
      have namePart := part_of_text (by decide) readName
      exact completes_record nothingElse rfl (.cons (part_of_kind kind) (.cons namePart .nil))
  | literal kind readValue nothingElse =>
      have valuePart := part_of_required (by decide) readValue
        (fun _ _ => completes_of_decodeScalar)
      exact completes_record nothingElse rfl (.cons (part_of_kind kind) (.cons valuePart .nil))
  | array kind readElement nothingElse =>
      have elementPart := part_of_optionalNode smaller (by decide) rfl readElement
      exact completes_record nothingElse rfl (.cons (part_of_kind kind) (.cons elementPart .nil))
  | tuple kind readElements nothingElse =>
      have elementsPart := part_of_nodes smaller (by decide) rfl readElements
      exact completes_record nothingElse rfl (.cons (part_of_kind kind) (.cons elementsPart .nil))
  | union kind readMembers nothingElse =>
      have membersPart := part_of_nodes smaller (by decide) rfl readMembers
      exact completes_record nothingElse rfl (.cons (part_of_kind kind) (.cons membersPart .nil))
  | intersection kind readMembers nothingElse =>
      have membersPart := part_of_nodes smaller (by decide) rfl readMembers
      exact completes_record nothingElse rfl (.cons (part_of_kind kind) (.cons membersPart .nil))
  | object kind readProperties readName nothingElse =>
      have propertiesPart := part_of_list (by decide) rfl readProperties
        (fun item less property => completes_of_decodeProperty
          (fun part lessThanItem => smaller part (Nat.lt_trans lessThanItem less)))
      have namePart := part_of_optionalText (by decide) rfl readName
      rw [TypeNode.encode, encodeProperties_eq_map]
      exact completes_record nothingElse rfl
        (.cons (part_of_kind kind) (.cons propertiesPart (.cons namePart .nil)))
  | reference kind readName nothingElse =>
      have namePart := part_of_text (by decide) readName
      exact completes_record nothingElse rfl (.cons (part_of_kind kind) (.cons namePart .nil))
  | enumeration kind readValues readName nothingElse =>
      have valuesPart := part_of_list (by decide) rfl readValues
        (fun _ _ _ => completes_of_decodeEnumMember)
      have namePart := part_of_optionalText (by decide) rfl readName
      exact completes_record nothingElse rfl
        (.cons (part_of_kind kind) (.cons valuesPart (.cons namePart .nil)))
  | record kind readKey readValue nothingElse =>
      have keyPart := part_of_optionalNode smaller (by decide) rfl readKey
      have valuePart := part_of_optionalNode smaller (by decide) rfl readValue
      exact completes_record nothingElse rfl
        (.cons (part_of_kind kind) (.cons keyPart (.cons valuePart .nil)))
  | function kind nothingElse =>
      exact completes_record nothingElse rfl (.cons (part_of_kind kind) .nil)
  | unknown kind readRawText nothingElse =>
      have rawTextPart := part_of_optionalText (by decide) rfl readRawText
      exact completes_record nothingElse rfl (.cons (part_of_kind kind) (.cons rawTextPart .nil))

omit smaller in
/-- A type description is completed, at every depth. -/
theorem completes_of_decodeNode (value : Json) (node : TypeNode)
    (decoded : TypeNode.decode value = .ok node) : Completes value node.encode := by
  cases value with
  | object members =>
      apply completes_of_describes _ (describes_of_decode decoded)
      intro part less
      exact completes_of_decodeNode part
  | _ => cases decoded
termination_by sizeOf value

end Nodes

theorem completes_of_decodeDeclaration {value : Json} {declaration : Declaration}
    (decoded : Declaration.decode value = .ok declaration) :
    Completes value declaration.encode := by
  obtain ⟨members, dependencies, rfl, readName, readType, readDependencies, readExported,
    nothingElse, listed⟩ := Declaration.decode_eq_ok_iff.mp decoded
  have namePart := part_of_text (by decide) readName
  have typePart := part_of_required (by decide) readType
    (fun part _ => completes_of_decodeNode part declaration.type)
  have exportedPart := part_of_flag (by decide) readExported rfl
  have setPart : PartCompletes (.key "dependencies") (Keyed.get? "dependencies" members)
      (some (.list ((NameSet.ofList declaration.dependencies).map .text))) := by
    rw [← listed, NameSet.ofList_ofList]
    rcases withDefault_eq_ok_iff.mp readDependencies with ⟨absent, rfl⟩ | ⟨value, there, readValue⟩
    · have empty : NameSet.ofList [] = [] := by simp [NameSet.ofList]
      rw [absent, empty]
      exact .default rfl
    · obtain ⟨items, rfl, each⟩ := readList_eq_ok_iff.mp readValue
      have texts : items = dependencies.map Json.text := by
        rw [← List.forall₂_eq_eq_eq, List.forall₂_map_right_iff]
        exact each.imp (fun _ _ read => readText_eq_ok_iff.mp read)
      rw [there, texts]
      exact .set (NameSet.nodup_ofList dependencies) (fun _ => NameSet.mem_ofList)
  exact completes_record nothingElse rfl
    (.cons namePart (.cons typePart (.cons setPart (.cons exportedPart .nil))))

theorem completes_of_decode {value : Json} {model : Model} (decoded : decode value = .ok model) :
    Completes value model.encode := by
  obtain ⟨members, rfl, readDeclarations, readErrors, nothingElse⟩ := decode_eq_ok_iff.mp decoded
  have declarationsPart := part_of_list (by decide) rfl readDeclarations
    (fun _ _ _ => completes_of_decodeDeclaration)
  have errorsPart : PartCompletes (.key "errors") (Keyed.get? "errors" members)
      (some (.list (model.errors.map .text))) :=
    part_of_list (by decide) rfl readErrors (fun _ _ _ => completes_of_readText)
  exact completes_record nothingElse rfl (.cons declarationsPart (.cons errorsPart .nil))

theorem load_eq_ok_iff {source : String} {value : Json} {model : Model} :
    load source value = .ok model ↔ decode value = .ok model := by
  rw [load]
  cases decode value <;> simp [Except.mapError]

/-- Whatever is loaded, nothing of it is lost, and what is written of the model is loaded as the same
model again. -/
theorem load_is_lossless {source : String} {value : Json} {model : Model}
    (loaded : load source value = .ok model) :
    Completes value model.encode ∧ load source model.encode = .ok model := by
  have decoded := load_eq_ok_iff.mp loaded
  constructor
  · exact completes_of_decode decoded
  · exact load_eq_ok_iff.mpr (decode_encode (listsSets_of_decode decoded))

/-- An invoice whose members come in another order than they are written. Some of them are left out,
the booleans are a number and a word, and a dependency is listed twice. -/
def invoiceSource : Json :=
  .object [
    ("dependencies", .list [.text "Line", .text "Customer", .text "Line"]),
    ("name", .text "Invoice"),
    ("type", .object [("properties", .list [
        .object [("type", .object [("kind", .text "array"),
            ("element", .object [("name", .text "Line"), ("kind", .text "reference")])]),
          ("name", .text "lines"), ("is_optional", .int 0)],
        .object [("name", .text "discount"), ("is_optional", .text "Yes"),
          ("type", .object [("kind", .text "union"), ("members", .list [
            .object [("kind", .text "literal"), ("value", .int 0)],
            .object [("kind", .text "literal"), ("value", .float (.zero false))],
            .object [("kind", .text "literal"), ("value", .bool false)]])])]]),
      ("kind", .text "object")])]

def invoice : Declaration where
  name := "Invoice"
  type := .object [⟨"lines", .array (some (.reference "Line")), false⟩,
    ⟨"discount", .union [.literal (.int 0), .literal (.float (.zero false)), .literal (.bool false)],
      true⟩] none
  dependencies := ["Customer", "Line"]
  exported := true

theorem invoice_loads_without_loss :
    let source := Json.object [("declarations", .list [invoiceSource])]
    let model : Model := ⟨[invoice], []⟩
    load valueSource source = .ok model ∧ Completes source model.encode ∧
      load valueSource model.encode = .ok model := by
  intro source model
  have listed : NameSet.ofList ["Line", "Customer", "Line"] = invoice.dependencies := by
    apply NameSet.ofList_eq_of_pairwise (by decide) (by decide)
    intro name
    simp only [invoice, List.mem_cons, List.not_mem_nil]
    tauto
  have decoded : Declaration.decode invoiceSource = .ok invoice := by
    apply Declaration.decode_eq_ok_iff.mpr
    exact ⟨_, ["Line", "Customer", "Line"], rfl, rfl, rfl, rfl, rfl, rfl, listed⟩
  have loaded : load valueSource source = .ok model := by
    apply load_eq_ok_iff.mpr
    apply decode_eq_ok_iff.mpr
    exact ⟨_, rfl, withDefault_writtenList rfl (.cons decoded .nil), rfl, rfl⟩
  exact ⟨loaded, load_is_lossless loaded⟩

end Model

end TypeScaffold
