import TypeScaffold.Json.Document
import TypeScaffold.Model.Decode
import TypeScaffold.Text.Lines
import TypeScaffold.Text.Path
import TypeScaffold.Text.Utf8

/-!
# Loading a type model

A type model comes from a decoded value or from the octets of a file. What does not fit is refused
here, so that nothing behind this point meets a broken model.
-/

namespace TypeScaffold

/-- Why a type model cannot be loaded. -/
inductive LoadCause where
  | fileNotFound
  | malformed (fault : Json.DocumentFault)
  | invalid (fault : Validation.Fault)
  deriving DecidableEq, Repr

/-- The refusal of a type model, with the name of where it came from. -/
structure LoadError where
  source : String
  cause : LoadCause
  deriving DecidableEq, Repr

def LoadCause.message : LoadCause → String
  | .fileNotFound => "file not found"
  | .malformed fault =>
      "invalid JSON (" ++ fault.message ++ " at line " ++ toString fault.line ++ ")"
  | .invalid fault => fault.message

/-- The wording of a refusal. -/
def LoadError.message (error : LoadError) : String :=
  "Cannot load IR from " ++ error.source ++ ": " ++ error.cause.message

/-- Why the file of a type model cannot be loaded. -/
inductive FileError where
  | encoding (fault : Text.Utf8.Fault)
  | load (error : LoadError)
  deriving DecidableEq, Repr

namespace Model

/-- The model that a value describes. -/
def load (source : String) (json : Json) : Except LoadError Model :=
  (decode json).mapError (fun fault => ⟨source, .invalid fault⟩)

/-- The name of the source of a model that comes as a value. -/
def valueSource : String :=
  "<mapping>"

def loadText (source text : String) : Except LoadError Model :=
  match Json.readDocument text with
  | .error fault => .error ⟨source, .malformed fault⟩
  | .ok json => load source json

/-- The model in the file at a path; the content is `none` if there is no such file. -/
def loadFile (path : String) (content : Option (List UInt8)) : Except FileError Model :=
  let source := Text.Path.shortest path
  match content with
  | none => .error (.load ⟨source, .fileNotFound⟩)
  | some octets =>
      match Text.Utf8.decode octets with
      | .error fault => .error (.encoding fault)
      | .ok text =>
          (loadText source (String.ofList (Text.normalizeLineEnds text.toList))).mapError .load

end Model

/-- No declaration has the name; the names that there are come with it. -/
structure NotDeclared where
  name : String
  available : List String
  deriving DecidableEq, Repr

def NotDeclared.message (missing : NotDeclared) : String :=
  "Declaration not found: " ++ missing.name ++
    (if missing.available.isEmpty then ""
    else " (available: " ++ ", ".intercalate missing.available ++ ")")

/-- The first declaration of a name. -/
def Model.find (model : Model) (name : String) : Except NotDeclared Declaration :=
  match model.declarations.find? (fun declaration => declaration.name == name) with
  | some declaration => .ok declaration
  | none => .error ⟨name, model.declarations.map Declaration.name⟩

end TypeScaffold
