import TypeScaffold.Form.Markup
import TypeScaffold.Form.Shell

/-!
# The text of a form
-/

namespace TypeScaffold

/-- The labels of a form's buttons where the component is given none. -/
structure FormOptions where
  submitLabel : String
  cancelLabel : String
  deriving DecidableEq, Repr

/-- The labels of the buttons unless others are asked for. -/
def FormOptions.standard : FormOptions :=
  ⟨"Submit", "Cancel"⟩

instance : Inhabited FormOptions :=
  ⟨.standard⟩

namespace Form

def shell (options : FormOptions) (form : Form) : FormShell where
  propsName := Naming.props form.name
  schemaName := Naming.schema form.name
  componentName := Naming.component form.name
  submitLabel := Text.singleQuoted options.submitLabel
  cancelLabel := Text.singleQuoted options.cancelLabel
  selectors := form.selectors
  storeName := Naming.store form.name
  fieldNames := form.fieldNames
  lazySchema := form.lazySchema
  resetName := Naming.reset form.name
  fields := form.fields.map FormField.markup

def code (options : FormOptions) (form : Form) : String :=
  (form.shell options).code

end Form

end TypeScaffold
