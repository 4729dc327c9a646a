import TypeScaffold.Json.Value
import TypeScaffold.NameSet

/-!
# The type model

A type model is a list of named declarations. A type refers to another declaration by its name only,
so the declarations may refer to one another in circles while each type is a finite tree.
-/

namespace TypeScaffold

open Decimal

/-- A value that a literal type stands for. -/
inductive Scalar where
  | bool (value : Bool)
  | int (value : Int)
  | float (value : Double)
  | text (value : String)
  deriving DecidableEq

/-- The value of a member of an enumeration, which is never a boolean. -/
inductive EnumValue where
  | int (value : Int)
  | float (value : Double)
  | text (value : String)
  deriving DecidableEq

/-- A named value of an enumeration. -/
structure EnumMember where
  name : String
  value : EnumValue
  deriving DecidableEq

/-- A named part of an object with its type; `optional` is the question mark behind its name. -/
structure PropertyOf (T : Type) where
  name : String
  type : T
  optional : Bool

/-- The description of a type. What is missing in an array or a record is not known. -/
inductive TypeNode where
  /-- A built-in type such as `string`, `number` or `Date`. -/
  | primitive (name : String)
  /-- The type of a single value. -/
  | literal (value : Scalar)
  | array (element : Option TypeNode)
  | tuple (elements : List TypeNode)
  | union (members : List TypeNode)
  | intersection (members : List TypeNode)
  /-- An object with its properties in order, and its declared name if it has one. -/
  | object (properties : List (PropertyOf TypeNode)) (name : Option String)
  /-- The declaration of a name. -/
  | reference (name : String)
  | enumeration (members : List EnumMember) (name : Option String)
  | record (key value : Option TypeNode)
  | function
  /-- A type that is known at most by its text. -/
  | unknown (rawText : Option String)

instance : Inhabited TypeNode :=
  ⟨.function⟩

/-- A property of an object type. -/
abbrev Property := PropertyOf TypeNode

/-- A named type, with the names of the declarations that it refers to. -/
structure Declaration where
  name : String
  type : TypeNode
  dependencies : List String
  exported : Bool

/-- The declarations of one source, and what could not be read of it. -/
structure Model where
  declarations : List Declaration
  errors : List String

/-- The value as a literal may write it. -/
def EnumValue.scalar : EnumValue → Scalar
  | .int value => .int value
  | .float value => .float value
  | .text value => .text value

def EnumValue.text? : EnumValue → Option String
  | .text value => some value
  | _ => none

/-- Source text of the value: a boolean word, a quoted text, or a decimal numeral. A whole number is
written with all its digits and without a point. -/
def Scalar.code : Scalar → String
  | .bool true => "true"
  | .bool false => "false"
  | .int value => toString value
  | .float value =>
      match value.toInt? with
      | some whole => toString whole
      | none => value.text
  | .text value => Text.doubleQuoted value

def TypeNode.isObject : TypeNode → Bool
  | .object _ _ => true
  | _ => false

def TypeNode.isArray : TypeNode → Bool
  | .array _ => true
  | _ => false

def TypeNode.isFunction : TypeNode → Bool
  | .function => true
  | _ => false

def TypeNode.isPrimitive (name : String) : TypeNode → Bool
  | .primitive other => other == name
  | _ => false

def Declaration.isObjectRoot (declaration : Declaration) : Bool :=
  declaration.type.isObject

/-- Whether a store is made for the declaration: it is an exported object. -/
def Declaration.hasStore (declaration : Declaration) : Bool :=
  declaration.exported && declaration.isObjectRoot

/-- The declarations by name. Of several with one name the last holds, in the place of the first. -/
def Model.arena (model : Model) : Keyed Declaration :=
  Keyed.ofList (model.declarations.map (fun declaration => (declaration.name, declaration)))

end TypeScaffold
