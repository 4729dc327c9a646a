import TypeScaffold.Diagnostic
import TypeScaffold.Model.Choice
import TypeScaffold.Model.Resolve
import TypeScaffold.Text.Casing

/-!
# Widgets

A widget is one input of a form: what it edits, how it is labelled, and which control it shows. A
control is found for primitives, closed choices and text literals; what else there is can be edited
as raw JSON only.
-/

namespace TypeScaffold

/-- The controls of a form. -/
inductive Control where
  | text
  | number
  | boolean
  | date
  /-- One of the listed texts. -/
  | choice (options : List String)
  /-- A text that cannot be changed. -/
  | fixed (value : String)
  /-- The value as raw JSON. -/
  | json
  deriving DecidableEq, Repr

def Control.ofPrimitive (name : String) : Control :=
  match name with
  | "number" => .number
  | "boolean" => .boolean
  | "Date" | "date" => .date
  | _ => .text

/-- The control for a type, if there is one besides raw JSON. -/
def Control.ofNode? : TypeNode → Option Control
  | .primitive name => some (.ofPrimitive name)
  | .literal (.text value) => some (.fixed value)
  | node => node.textOptions?.map .choice

/-- What a widget edits: a field of the state, an item of an array, a property of an item, or a
property of an object in an item. -/
inductive Binding where
  | field (name : String)
  | item (array : String)
  | itemProperty (array name : String)
  | nestedProperty (array object name : String)
  deriving DecidableEq, Repr

/-- The place of what a widget edits in the form of a declaration. -/
def Binding.place (owner : String) : Binding → FormPlace
  | .field name => .field owner name
  | .item array => .items array
  | .itemProperty array name => .itemProperty array name
  | .nestedProperty array object name => .nestedProperty array object name

/-- One input of a form. Only fields of the state say whether they are required. -/
structure Widget where
  label : Option String
  binding : Binding
  required : Option Bool
  control : Control
  deriving DecidableEq, Repr

/-- The reports about a widget. -/
def Widget.diagnostics (owner : String) (widget : Widget) : List Diagnostic :=
  if widget.control = .json then [.jsonEditor (widget.binding.place owner)] else []

/-- The widget for a type, which edits raw JSON if there is nothing better. -/
def Widget.ofNode (label : Option String) (binding : Binding) (required : Option Bool)
    (node : Option TypeNode) : Widget :=
  ⟨label, binding, required, (node.bind Control.ofNode?).getD .json⟩

end TypeScaffold
