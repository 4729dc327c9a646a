import TypeScaffold.Model.Choice
import TypeScaffold.Model.Resolve
import TypeScaffold.Validator.Basic

/-!
# Validators of types

Every type has a validator. For a union the first rule that applies decides: no member, `undefined`
beside one other member, `null` beside one other member, texts only, objects with a discriminator,
and last the plain union.
-/

namespace TypeScaffold

namespace Validator

def ofPrimitive (name : String) : Validator :=
  match Builtin.ofPrimitive? name with
  | some kind => .builtin kind
  | none => .gap (.unrecognized name)

/-- The validator of a type that is known by its text at most. -/
def ofRawText : Option String → Validator
  | none | some "" => .unspecified
  | some rawText => .gap (.described rawText)

def ofEnumeration (members : List EnumMember) : Validator :=
  match members with
  | [] => .builtin .never
  | _ =>
      match members.mapM (fun member => member.value.text?) with
      | some options => .choice options
      | none => .union (members.map (fun member => .literal member.value.scalar))

/-- The validator of a union with the given members, whose own validators come with them. -/
def ofUnion (members : List TypeNode) (validators : List Validator) : Validator :=
  match members with
  | [] => .builtin .never
  | _ =>
      match TypeNode.optionalCore? members validators with
      | some core => core.asOptional
      | none =>
          match TypeNode.nullableCore? members validators with
          | some core => .nullable core
          | none =>
              match TypeNode.textChoices? members with
              | some options => .choice options
              | none =>
                  match TypeNode.discriminator? members with
                  | some key => .discriminated key validators
                  | none => .union validators

/-- The validator that asks for all the given ones, joined from the left. -/
def all : List Validator → Validator
  | [] => .object []
  | first :: rest => rest.foldl .both first

mutual

/-- The validator of a type. -/
def ofNode : TypeNode → Validator
  | .primitive name => ofPrimitive name
  | .literal value => .literal value
  | .array none => .array .unspecified
  | .array (some element) => .array (ofNode element)
  | .tuple elements => .tuple (ofNodes elements)
  | .union members => ofUnion members (ofNodes members)
  | .intersection members => all (ofNodes members)
  | .object properties _ => .object (ofProperties properties)
  | .reference name => .reference name
  | .enumeration members _ => ofEnumeration members
  | .record (some key) (some value) => .record (ofNode key) (ofNode value)
  | .record _ _ => .record (.builtin .string) .unspecified
  | .function => .gap .function
  | .unknown rawText => ofRawText rawText
termination_by structural node => node

def ofNodes : List TypeNode → List Validator
  | [] => []
  | node :: rest => ofNode node :: ofNodes rest
termination_by structural nodes => nodes

/-- The fields for properties in order. -/
def ofProperties : List Property → List (String × Validator)
  | [] => []
  | ⟨name, type, marked⟩ :: rest =>
      (name, if marked then (ofNode type).asOptional else ofNode type) :: ofProperties rest
termination_by structural properties => properties

end

end Validator

end TypeScaffold
