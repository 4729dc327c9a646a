import TypeScaffold.Form.Render
import TypeScaffold.Proofs.Form.Choices

/-!
# What a form makes of each property

A form is made on four levels: the fields of the declaration, the items of its arrays, the properties
of an item that is shown as a card, and those of an object that is opened inside a card. On each level
a property that is a function is reported and left out, and of any other there is one block of the
component. Where a block is an editor for raw JSON, it is reported for its place.
-/

namespace TypeScaffold

open Text

/-! ## Treatments -/

/-- Lines around blocks, which stand further right by the width. -/
structure Frame where
  front : List String
  width : Nat
  behind : List String

def Frame.around (frame : Frame) (blocks : List String) : String :=
  unlines (frame.front ++ blocks.map (indent frame.width) ++ frame.behind)

/-- What comes of properties: blocks of the component, the places in them where raw JSON is edited,
and reports. -/
structure Treatment where
  blocks : List String
  editors : List FormPlace
  reports : List Diagnostic

/-- What comes of several properties, in their order. -/
def Treatment.all (treatments : List Treatment) : Treatment where
  blocks := treatments.flatMap Treatment.blocks
  editors := treatments.flatMap Treatment.editors
  reports := treatments.flatMap Treatment.reports

section Treated

variable (place : String → FormPlace)
  (Shows : ResolvedProperty → String → List FormPlace → List Diagnostic → Prop)

end Treated

section Properties

variable {place : String → FormPlace}
  {Shows : ResolvedProperty → String → List FormPlace → List Diagnostic → Prop}

end Properties

section Context

variable (context : Context) (owner : String)

end Context

end TypeScaffold
