import TypeScaffold.Model.Choice
import TypeScaffold.Model.Resolve
import TypeScaffold.Naming

/-!
# Initial values

The expression with which a field of a type starts. A reference to a declaration that has a store is
the constant of that store; other declarations are followed by name, along every path at most once,
so that circles end at the constant's name.
-/

namespace TypeScaffold

/-- An expression for an initial value. -/
inductive Initial where
  /-- The value `undefined`. -/
  | absent
  /-- The initial value of a built-in type. -/
  | builtin (code : String)
  | literal (value : Scalar)
  | list (items : List Initial)
  | object (entries : List (String × Initial))
  /-- The constant that a store exports for the declaration of this name. -/
  | constant (name : String)

instance : Inhabited Initial :=
  ⟨.absent⟩

namespace Initial

mutual

/-- The source text of an initial value. -/
def code : Initial → String
  | .absent => "undefined"
  | .builtin code => code
  | .literal value => value.code
  | .list items => "[" ++ ", ".intercalate (itemCodes items) ++ "]"
  | .object [] => r"{}"
  | .object (entry :: entries) =>
      r"{ " ++ ", ".intercalate (entryCodes (entry :: entries)) ++ r" }"
  | .constant name => Naming.defaultState name
termination_by structural value => value

/-- The source texts of items. -/
def itemCodes : List Initial → List String
  | [] => []
  | item :: rest => code item :: itemCodes rest
termination_by structural items => items

/-- The source texts of entries. -/
def entryCodes : List (String × Initial) → List String
  | [] => []
  | (name, value) :: rest => (name ++ ": " ++ code value) :: entryCodes rest
termination_by structural entries => entries

end

/-- The initial value of a built-in type. -/
def ofPrimitive (name : String) : Initial :=
  match name with
  | "string" => .builtin "''"
  | "number" => .builtin "0"
  | "boolean" => .builtin "false"
  | "bigint" => .builtin "BigInt(0)"
  | "Date" | "date" => .builtin "new Date()"
  | "null" => .builtin "null"
  | _ => .absent

mutual

/-- The initial value of a type, given that of references. -/
def ofNode (reference : String → Initial) : TypeNode → Initial
  | .primitive name => ofPrimitive name
  | .literal value => .literal value
  | .enumeration [] _ => .absent
  | .enumeration (member :: _) _ => .literal member.value.scalar
  | .array _ => .list []
  | .tuple elements => .list (ofNodes reference elements)
  | .record _ _ => .object []
  | .object properties _ => .object (ofProperties reference properties)
  | .union members => ofFirstPresent reference members
  | .intersection members =>
      if members.all TypeNode.isObject then
        .object (Keyed.ofList (ofObjects reference members))
      else
        .object []
  | .reference name => reference name
  | .function | .unknown _ => .absent
termination_by structural node => node

/-- The initial values of types in order. -/
def ofNodes (reference : String → Initial) : List TypeNode → List Initial
  | [] => []
  | node :: rest => ofNode reference node :: ofNodes reference rest
termination_by structural nodes => nodes

/-- The initial value of the first type that is neither `null` nor `undefined`. -/
def ofFirstPresent (reference : String → Initial) : List TypeNode → Initial
  | [] => .absent
  | node :: rest =>
      if node.isEmptyValue then ofFirstPresent reference rest else ofNode reference node
termination_by structural nodes => nodes

/-- The initial values of properties in order; an optional one is absent. -/
def ofProperties (reference : String → Initial) : List Property → List (String × Initial)
  | [] => []
  | ⟨name, type, optional⟩ :: rest =>
      (name, if optional || type.unwrapOptional?.isSome then .absent else ofNode reference type) ::
        ofProperties reference rest
termination_by structural properties => properties

/-- The initial values of the properties of objects in order. -/
def ofObjects (reference : String → Initial) : List TypeNode → List (String × Initial)
  | [] => []
  | node :: rest =>
      match node with
      | .object properties _ => ofProperties reference properties ++ ofObjects reference rest
      | _ => ofObjects reference rest
termination_by structural nodes => nodes

end

/-- The initial value of a declared type; `unvisited` holds the names that may still be followed. -/
def ofReference (arena : Keyed Declaration) (unvisited : List String) (name : String) : Initial :=
  match arena.get? name with
  | none => .constant name
  | some target =>
      if target.hasStore then
        .constant name
      else if _unvisited : name ∈ unvisited then
        ofNode (ofReference arena (unvisited.erase name)) target.type
      else
        .constant name
termination_by unvisited.length
decreasing_by
  have shorter := List.length_erase_of_mem _unvisited
  have positive := List.length_pos_of_mem _unvisited
  omega

/-- The initial value of a type among declarations. -/
def ofType (arena : Keyed Declaration) (node : TypeNode) : Initial :=
  ofNode (ofReference arena arena.keys) node

/-- The initial value of a field: absent if it is optional or if its type is not known. -/
def ofField (arena : Keyed Declaration) (optional : Bool) : Option TypeNode → Initial
  | none => .absent
  | some node => if optional then .absent else ofType arena node

end Initial

end TypeScaffold
