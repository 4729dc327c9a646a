import TypeScaffold.Form.Render
import TypeScaffold.Generation.Artifact
import TypeScaffold.Json.Pretty
import TypeScaffold.Json.Settings
import TypeScaffold.Store.Render

/-!
# Settings

What a run generates and how. Settings come from a value, from a text of JSON or from variables of
the environment, and are saved as a text of JSON.
-/

namespace TypeScaffold

open Validation

/-- The settings of a run. With a storage key every store is kept under it; without one each store
has its own. -/
structure Settings where
  persist : Bool
  storageKey : Option String
  submitLabel : String
  cancelLabel : String
  targets : List ArtifactKind
  deriving DecidableEq, Repr

namespace Settings

/-- The settings where nothing is set. -/
def standard : Settings :=
  ⟨StoreOptions.standard.persist, StoreOptions.standard.storageKey,
    FormOptions.standard.submitLabel, FormOptions.standard.cancelLabel, ArtifactKind.all⟩

instance : Inhabited Settings :=
  ⟨standard⟩

/-- How stores are kept. -/
def storeOptions (settings : Settings) : StoreOptions :=
  ⟨settings.persist, settings.storageKey⟩

/-- How the buttons of forms are labelled. -/
def formOptions (settings : Settings) : FormOptions :=
  ⟨settings.submitLabel, settings.cancelLabel⟩

def wants (settings : Settings) (kind : ArtifactKind) : Bool :=
  settings.targets.contains kind

/-- Settings from a value; what is missing is as in the standard settings, and members that are not
known do not matter. -/
def decode (json : Json) : Checked Settings := do
  let members ← readRecord "GeneratorConfig" json
  let persist ← withDefault standard.persist "persist" members readBoolean
  let storageKey ← withDefault standard.storageKey "storage_key" members readOptionalText
  let submitLabel ← withDefault standard.submitLabel "submit_label" members readText
  let cancelLabel ← withDefault standard.cancelLabel "cancel_label" members readText
  let targets ←
    withDefault standard.targets "targets" members (readList .notList ArtifactKind.decode)
  return ⟨persist, storageKey, submitLabel, cancelLabel, targets⟩

def encode (settings : Settings) : Json :=
  .object [("persist", .bool settings.persist),
    ("storage_key", Json.ofText? settings.storageKey),
    ("submit_label", .text settings.submitLabel),
    ("cancel_label", .text settings.cancelLabel),
    ("targets", .list (settings.targets.map (fun kind => .text kind.name)))]

/-! ## Saving and loading -/

def save (settings : Settings) : String :=
  settings.encode.pretty

/-- Why a text is no settings. -/
inductive LoadError where
  | malformed (fault : Json.SettingsFault)
  | invalid (fault : Fault)
  deriving DecidableEq, Repr

/-- The wording of a text that is no settings. -/
def LoadError.message : LoadError → String
  | .malformed fault =>
      ": Invalid JSON: " ++ fault.message ++ " at line " ++ toString fault.line ++ " column " ++
        toString fault.column
  | .invalid fault => fault.textMessage

def load (text : String) : Except LoadError Settings :=
  match Json.readSettings (String.ofList (Text.normalizeLineEnds text.toList)) with
  | .error fault => .error (.malformed fault)
  | .ok json => (decode json).mapError .invalid

/-! ## The environment -/

/-- The variables of the environment that set something. An empty one counts as not set. -/
structure Environment where
  persist : Option String
  storageKey : Option String
  submitLabel : Option String
  cancelLabel : Option String
  targets : Option String

/-- The words that switch persistence off. -/
def offWords : List String :=
  ["0", "false", "no", "off"]

/-- The text of a variable that is set and not empty. -/
def given? (text : Option String) : Option String :=
  text.filter (· ≠ "")

/-- A word without blanks around it, in lower case. -/
def plainWord (text : String) : String :=
  Text.lower (Text.trim text)

/-- The kinds that a list separated by commas names; blank entries do not count. -/
def targetsOfList (text : String) : Checked (List ArtifactKind) :=
  let words := (text.splitOn ",").filter (fun word => Text.trim word ≠ "")
  (readItems ArtifactKind.decode 0
    (words.map (fun word => .text (plainWord word)))).under "targets"

def ofEnvironment (environment : Environment) : Checked Settings := do
  let targets ←
    match given? environment.targets with
    | some text => targetsOfList text
    | none => .ok standard.targets
  return {
    persist :=
      match given? environment.persist with
      | some text => !offWords.contains (plainWord text)
      | none => standard.persist
    storageKey := given? environment.storageKey
    submitLabel := (given? environment.submitLabel).getD standard.submitLabel
    cancelLabel := (given? environment.cancelLabel).getD standard.cancelLabel
    targets := targets }

end Settings

end TypeScaffold
