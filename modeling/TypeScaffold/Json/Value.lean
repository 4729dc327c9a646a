import TypeScaffold.Decimal.Shortest
import TypeScaffold.Keyed
import TypeScaffold.Text.Shown

/-!
# JSON values

Whole numbers written without point and exponent are integers of any size, other numbers are
doubles. The members of an object keep their order.
-/

namespace TypeScaffold

open Decimal

/-- A JSON value. -/
inductive Json where
  | null
  | bool (value : Bool)
  | int (value : Int)
  | float (value : Double)
  | text (value : String)
  | list (items : List Json)
  | object (members : List (String × Json))

namespace Json

instance : Inhabited Json :=
  ⟨.null⟩

/-- The value under a name, if this is an object that has it. -/
def get? (name : String) : Json → Option Json
  | .object members => Keyed.get? name members
  | _ => none

def ofText? : Option String → Json
  | some value => .text value
  | none => .null

mutual

/-- How a message shows a value. -/
def shown : Json → String
  | .null => "None"
  | .bool true => "True"
  | .bool false => "False"
  | .int value => toString value
  | .float value => value.text
  | .text value => Text.shown value
  | .list items => "[" ++ ", ".intercalate (shownItems items) ++ "]"
  | .object members => r"{" ++ ", ".intercalate (shownMembers members) ++ r"}"

/-- The items of a list, each as a message shows it. -/
def shownItems : List Json → List String
  | [] => []
  | item :: rest => shown item :: shownItems rest

/-- The members of an object, each as a message shows it. -/
def shownMembers : List (String × Json) → List String
  | [] => []
  | (name, value) :: rest => (Text.shown name ++ ": " ++ shown value) :: shownMembers rest

end

/-- How a value is named where it stands alone: a text is not quoted. -/
def plain : Json → String
  | .text value => value
  | value => value.shown

end Json

end TypeScaffold
