import TypeScaffold.Model.Basic
import TypeScaffold.Validation.Reading

/-!
# Reading a type model

The readers of the type model. All its records are closed. A type description is read by its kind,
and the kind is a step of the path to every fault inside it.
-/

namespace TypeScaffold

open Validation

namespace Scalar

/-- A literal value keeps the kind in which it is written. -/
def decode : Json → Checked Scalar
  | .bool value => .ok (.bool value)
  | .int value => .ok (.int value)
  | .float value => .ok (.float value)
  | .text value => .ok (.text value)
  | _ => (refuse .notBoolean).under "bool"

end Scalar

namespace EnumValue

/-- The value of an enumeration member keeps the kind in which it is written. -/
def decode : Json → Checked EnumValue
  | .int value => .ok (.int value)
  | .float value => .ok (.float value)
  | .text value => .ok (.text value)
  | _ => (refuse .notInteger).under "int"

end EnumValue

def EnumMember.decode (json : Json) : Checked EnumMember := do
  let members ← readRecord "EnumMember" json
  let name ← required "name" members readText
  let value ← required "value" members EnumValue.decode
  noOthers ["name", "value"] members
  return ⟨name, value⟩

namespace TypeNode

/-- What a record needs under a name, where nothing else is asked of it. -/
def needed {α : Type} (name : String) : Option (Checked α) → Checked α
  | some result => result.under name
  | none => (refuse .missing).under name

/-- What a record may have under a name. -/
def orDefault {α : Type} (default : α) (name : String) : Option (Checked α) → Checked α
  | some result => result.under name
  | none => .ok default

/-- The result for a kind of type description whose record has the given names besides the kind. -/
def closed (names : List String) (members : List (String × Json)) (node : TypeNode) :
    Checked TypeNode :=
  (noOthers ("kind" :: names) members).map (fun _ => node)

mutual

def decode : Json → Checked TypeNode
  | .object members =>
      match Keyed.get? "kind" members with
      | none => refuse .noKind
      | some kind =>
          match kind with
          | .text "primitive" => Checked.under "primitive" do
              let name ← required "name" members readText
              closed ["name"] members (.primitive name)
          | .text "literal" => Checked.under "literal" do
              let value ← required "value" members Scalar.decode
              closed ["value"] members (.literal value)
          | .text "array" => Checked.under "array" do
              let element ← orDefault none "element" (decodeOptionalAt "element" members)
              closed ["element"] members (.array element)
          | .text "tuple" => Checked.under "tuple" do
              let elements ← orDefault [] "elements" (decodeListAt "elements" members)
              closed ["elements"] members (.tuple elements)
          | .text "union" => Checked.under "union" do
              let nodes ← orDefault [] "members" (decodeListAt "members" members)
              closed ["members"] members (.union nodes)
          | .text "intersection" => Checked.under "intersection" do
              let nodes ← orDefault [] "members" (decodeListAt "members" members)
              closed ["members"] members (.intersection nodes)
          | .text "object" => Checked.under "object" do
              let properties ← orDefault [] "properties" (decodePropertiesAt "properties" members)
              let name ← withDefault none "name" members readOptionalText
              closed ["properties", "name"] members (.object properties name)
          | .text "reference" => Checked.under "reference" do
              let name ← required "name" members readText
              closed ["name"] members (.reference name)
          | .text "enum" => Checked.under "enum" do
              let values ← withDefault [] "values" members (readList .notList EnumMember.decode)
              let name ← withDefault none "name" members readOptionalText
              closed ["values", "name"] members (.enumeration values name)
          | .text "record" => Checked.under "record" do
              let key ← orDefault none "key" (decodeOptionalAt "key" members)
              let value ← orDefault none "value" (decodeOptionalAt "value" members)
              closed ["key", "value"] members (.record key value)
          | .text "function" => Checked.under "function" (closed [] members .function)
          | .text "unknown" => Checked.under "unknown" do
              let rawText ← withDefault none "raw_text" members readOptionalText
              closed ["raw_text"] members (.unknown rawText)
          | other => refuse (.unknownKind other.plain)
  | _ => refuse .notNode
termination_by structural json => json

/-- The type descriptions of a list from a position on. -/
def decodeItems (index : Nat) : List Json → Checked (List TypeNode)
  | [] => .ok []
  | item :: rest => do
      let first ← (decode item).under (toString index)
      let others ← decodeItems (index + 1) rest
      return first :: others
termination_by structural items => items

def decodeProperty : Json → Checked Property
  | .object members => do
      let name ← required "name" members readText
      let type ← needed "type" (decodeAt "type" members)
      let optional ← withDefault false "is_optional" members readBoolean
      noOthers ["name", "type", "is_optional"] members
      return ⟨name, type, optional⟩
  | _ => refuse (.notRecord "Property")
termination_by structural json => json

/-- The properties of a list from a position on. -/
def decodeProperties (index : Nat) : List Json → Checked (List Property)
  | [] => .ok []
  | item :: rest => do
      let first ← (decodeProperty item).under (toString index)
      let others ← decodeProperties (index + 1) rest
      return first :: others
termination_by structural items => items

/-- The type description under a name. -/
def decodeAt (name : String) : List (String × Json) → Option (Checked TypeNode)
  | [] => none
  | (key, value) :: rest => if key = name then some (decode value) else decodeAt name rest
termination_by structural members => members

/-- The type description or null under a name. -/
def decodeOptionalAt (name : String) :
    List (String × Json) → Option (Checked (Option TypeNode))
  | [] => none
  | (key, value) :: rest =>
      if key = name then
        some (match value with
          | .null => .ok none
          | value => (decode value).map some)
      else
        decodeOptionalAt name rest
termination_by structural members => members

/-- The list of type descriptions under a name. -/
def decodeListAt (name : String) : List (String × Json) → Option (Checked (List TypeNode))
  | [] => none
  | (key, value) :: rest =>
      if key = name then
        some (match value with
          | .list items => decodeItems 0 items
          | _ => refuse .notList)
      else
        decodeListAt name rest
termination_by structural members => members

def decodePropertiesAt (name : String) : List (String × Json) → Option (Checked (List Property))
  | [] => none
  | (key, value) :: rest =>
      if key = name then
        some (match value with
          | .list items => decodeProperties 0 items
          | _ => refuse .notList)
      else
        decodePropertiesAt name rest
termination_by structural members => members

end

end TypeNode

/-- A declaration. Its dependencies become a set. -/
def Declaration.decode (json : Json) : Checked Declaration := do
  let members ← readRecord "Declaration" json
  let name ← required "name" members readText
  let type ← required "type" members TypeNode.decode
  let dependencies ← withDefault [] "dependencies" members (readList .notSet readText)
  let exported ← withDefault true "is_exported" members readBoolean
  noOthers ["name", "type", "dependencies", "is_exported"] members
  return ⟨name, type, NameSet.ofList dependencies, exported⟩

def Model.decode (json : Json) : Checked Model := do
  let members ← readRecord "ParseResult" json
  let declarations ← withDefault [] "declarations" members (readList .notList Declaration.decode)
  let errors ← withDefault [] "errors" members (readList .notList readText)
  noOthers ["declarations", "errors"] members
  return ⟨declarations, errors⟩

end TypeScaffold
