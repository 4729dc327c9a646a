import TypeScaffold.Proofs.Form.Treatment
import TypeScaffold.Proofs.Generation.Accounting
import TypeScaffold.Proofs.Generation.FormReliance
import TypeScaffold.Proofs.Text.Endings

/-!
# Nothing is lost in a form

The blocks of a form are those of the properties that are no functions, and its reports are those of
all properties. A report is about a function or about an editor for raw JSON, and its wording tells
which, so the editors can be counted by the messages.
-/

namespace TypeScaffold

open Text

/-! ## Reports -/

/-- Forms report functions and editors for raw JSON. -/
inductive Diagnostic.IsOfForm : Diagnostic → Prop
  | function (place : FormPlace) : IsOfForm (.functionField place)
  | editor (place : FormPlace) : IsOfForm (.jsonEditor place)

theorem Widget.isOfForm_of_mem_diagnostics {owner : String} {widget : Widget} :
    ∀ report ∈ widget.diagnostics owner, report.IsOfForm := by
  rw [Widget.diagnostics]
  split
  · exact List.forall_mem_singleton.mpr (.editor _)
  · exact List.forall_mem_nil _

theorem NestedPart.isOfForm_of_mem_diagnostics {owner array object : String} {part : NestedPart} :
    ∀ report ∈ part.diagnostics owner array object, report.IsOfForm := by
  cases part with
  | function name => exact List.forall_mem_singleton.mpr (.function _)
  | widget input => exact input.isOfForm_of_mem_diagnostics

theorem CardPart.isOfForm_of_mem_diagnostics {owner array : String} {part : CardPart} :
    ∀ report ∈ part.diagnostics owner array, report.IsOfForm := by
  cases part with
  | function name => exact List.forall_mem_singleton.mpr (.function _)
  | widget input => exact input.isOfForm_of_mem_diagnostics
  | object name label parts =>
      intro report member
      obtain ⟨nested, _, there⟩ := List.mem_flatMap.mp member
      exact nested.isOfForm_of_mem_diagnostics report there

theorem FormField.isOfForm_of_mem_diagnostics {owner : String} {field : FormField} :
    ∀ report ∈ field.diagnostics owner, report.IsOfForm := by
  cases field with
  | widget input => exact input.isOfForm_of_mem_diagnostics
  | array block =>
      rw [diagnostics]
      cases block.items with
      | row widget => exact widget.isOfForm_of_mem_diagnostics
      | card parts =>
          intro report member
          obtain ⟨part, _, there⟩ := List.mem_flatMap.mp member
          exact part.isOfForm_of_mem_diagnostics report there

/-! ## The fields of a form -/

namespace Form

/-- The reports about a property of a declaration. -/
def reports (context : Context) (owner : String) (property : Property) : List Diagnostic :=
  if property.resolve.node.isFunction then [.functionField (.field owner property.name)]
  else (FormField.ofProperty context property.resolve).diagnostics owner

variable {context : Context} {owner : String}

end Form

end TypeScaffold
