import TypeScaffold.Form.Shell
import TypeScaffold.Keyed
import TypeScaffold.Store.Shell
import TypeScaffold.Text.Path

/-!
# Filling a shell by name

The module of a store and the component of a form can be filled with values that are given by name.
The first name that is needed and missing is refused; what a branch that is not taken would need is
not missed.
-/

namespace TypeScaffold

/-- A value that fills a place of a shell. -/
inductive ShellValue where
  | text (value : String)
  | flag (value : Bool)
  | texts (values : List String)

/-- Why a shell cannot be filled. -/
inductive ShellError where
  | unknownShell (name : String)
  | undefined (name : String)
  deriving DecidableEq, Repr

/-- The wording of a shell that cannot be filled. -/
def ShellError.message : ShellError → String
  | .unknownShell name => name
  | .undefined name => "'" ++ name ++ "' is undefined"

/-- The values that fill a shell, by name. -/
abbrev ShellContext := Keyed ShellValue

namespace ShellContext

/-- A text that must be there. -/
def text (context : ShellContext) (name : String) : Except ShellError String :=
  match context.get? name with
  | some (.text value) => .ok value
  | _ => .error (.undefined name)

/-- A flag that must be there. -/
def flag (context : ShellContext) (name : String) : Except ShellError Bool :=
  match context.get? name with
  | some (.flag value) => .ok value
  | _ => .error (.undefined name)

/-- A list of texts that must be there. -/
def texts (context : ShellContext) (name : String) : Except ShellError (List String) :=
  match context.get? name with
  | some (.texts values) => .ok values
  | _ => .error (.undefined name)

/-- The texts for the module of a store, in the order in which they are needed. -/
def storeShell (context : ShellContext) : Except ShellError StoreShell := do
  let stateName ← context.text "state_name"
  let stateFields ← context.text "state_fields"
  let actionsName ← context.text "actions_name"
  let actionSignatures ← context.text "action_signatures"
  let defaultName ← context.text "default_name"
  let defaultFields ← context.text "default_fields"
  let storeName ← context.text "store_name"
  let persist ← context.flag "persist"
  let storeBody ← context.text "store_body"
  let storageKey ← if persist then some <$> context.text "storage_key" else pure none
  return ⟨stateName, stateFields, actionsName, actionSignatures, defaultName, defaultFields,
    storeName, storeBody, storageKey⟩

/-- The texts for the component of a form, in the order in which they are needed. -/
def formShell (context : ShellContext) : Except ShellError FormShell := do
  let propsName ← context.text "props_name"
  let schemaName ← context.text "schema_name"
  let componentName ← context.text "component_name"
  let submitLabel ← context.text "submit_label"
  let cancelLabel ← context.text "cancel_label"
  let selectors ← context.texts "selectors"
  let storeName ← context.text "store_name"
  let fieldNames ← context.texts "field_names"
  let lazySchema ← context.flag "lazy_schema"
  let resetName ← context.text "reset_name"
  let fields ← context.texts "fields"
  return ⟨propsName, schemaName, componentName, submitLabel, cancelLabel, selectors, storeName,
    fieldNames, lazySchema, resetName, fields⟩

/-- Fill the shell of the given name, which is a path of one step. -/
def fill (context : ShellContext) (name : String) : Except ShellError String :=
  match Text.Path.steps name with
  | ["store.ts.j2"] => context.storeShell.map StoreShell.code
  | ["form.tsx.j2"] => context.formShell.map FormShell.code
  | _ => .error (.unknownShell name)

end ShellContext

end TypeScaffold
