import TypeScaffold.Form.Render
import TypeScaffold.Store.Render
import TypeScaffold.Validation.Reading

/-!
# Options from values

Readers for the options of a single store or form. What is missing is as in the standard options,
and members that are not known do not matter.
-/

namespace TypeScaffold

open Validation

def StoreOptions.decode (json : Json) : Checked StoreOptions := do
  let members ← readRecord "StoreOptions" json
  let persist ← withDefault standard.persist "persist" members readBoolean
  let storageKey ← withDefault standard.storageKey "storage_key" members readOptionalText
  return ⟨persist, storageKey⟩

def StoreOptions.encode (options : StoreOptions) : Json :=
  .object [("persist", .bool options.persist),
    ("storage_key", Json.ofText? options.storageKey)]

def FormOptions.decode (json : Json) : Checked FormOptions := do
  let members ← readRecord "FormOptions" json
  let submitLabel ← withDefault standard.submitLabel "submit_label" members readText
  let cancelLabel ← withDefault standard.cancelLabel "cancel_label" members readText
  return ⟨submitLabel, cancelLabel⟩

def FormOptions.encode (options : FormOptions) : Json :=
  .object [("submit_label", .text options.submitLabel), ("cancel_label", .text options.cancelLabel)]

end TypeScaffold
