import TypeScaffold.Model.Basic

/-!
# Writing a type model

The type model as JSON with all its members filled in. Reading gives the model back.
-/

namespace TypeScaffold

/-- The value of a literal. -/
def Scalar.encode : Scalar → Json
  | .bool value => .bool value
  | .int value => .int value
  | .float value => .float value
  | .text value => .text value

def EnumMember.encode (member : EnumMember) : Json :=
  .object [("name", .text member.name), ("value", member.value.scalar.encode)]

namespace TypeNode

mutual

def encode : TypeNode → Json
  | .primitive name => .object [("kind", .text "primitive"), ("name", .text name)]
  | .literal value => .object [("kind", .text "literal"), ("value", value.encode)]
  | .array element => .object [("kind", .text "array"), ("element", encodeOptional element)]
  | .tuple elements => .object [("kind", .text "tuple"), ("elements", .list (encodeList elements))]
  | .union members => .object [("kind", .text "union"), ("members", .list (encodeList members))]
  | .intersection members =>
      .object [("kind", .text "intersection"), ("members", .list (encodeList members))]
  | .object properties name =>
      .object [("kind", .text "object"), ("properties", .list (encodeProperties properties)),
        ("name", Json.ofText? name)]
  | .reference name => .object [("kind", .text "reference"), ("name", .text name)]
  | .enumeration members name =>
      .object [("kind", .text "enum"), ("values", .list (members.map EnumMember.encode)),
        ("name", Json.ofText? name)]
  | .record key value =>
      .object [("kind", .text "record"), ("key", encodeOptional key),
        ("value", encodeOptional value)]
  | .function => .object [("kind", .text "function")]
  | .unknown rawText =>
      .object [("kind", .text "unknown"), ("raw_text", Json.ofText? rawText)]
termination_by structural node => node

/-- A type description, or null. -/
def encodeOptional : Option TypeNode → Json
  | none => .null
  | some node => encode node
termination_by structural node => node

/-- Type descriptions in order. -/
def encodeList : List TypeNode → List Json
  | [] => []
  | node :: rest => encode node :: encodeList rest
termination_by structural nodes => nodes

def encodeProperties : List Property → List Json
  | [] => []
  | ⟨name, type, optional⟩ :: rest =>
      .object [("name", .text name), ("type", encode type), ("is_optional", .bool optional)] ::
        encodeProperties rest
termination_by structural properties => properties

end

end TypeNode

/-- A declaration, its dependencies in order. -/
def Declaration.encode (declaration : Declaration) : Json :=
  .object [("name", .text declaration.name), ("type", declaration.type.encode),
    ("dependencies", .list ((NameSet.ofList declaration.dependencies).map Json.text)),
    ("is_exported", .bool declaration.exported)]

def Model.encode (model : Model) : Json :=
  .object [("declarations", .list (model.declarations.map Declaration.encode)),
    ("errors", .list (model.errors.map Json.text))]

end TypeScaffold
