import TypeScaffold.Validation.Reading

/-!
# Artifacts

The kinds of generated text, and a generated text with what it was made from.
-/

namespace TypeScaffold

open Validation

/-- The kinds of artifact. -/
inductive ArtifactKind where
  | schema
  | store
  | form
  deriving DecidableEq, Repr

namespace ArtifactKind

/-- All kinds, in the order in which they are generated. -/
def all : List ArtifactKind :=
  [.schema, .store, .form]

def name : ArtifactKind → String
  | .schema => "schema"
  | .store => "store"
  | .form => "form"

def heading : ArtifactKind → String
  | .schema => "Schema"
  | .store => "Store"
  | .form => "Form"

def ofName? (name : String) : Option ArtifactKind :=
  all.find? (fun kind => kind.name == name)

/-- The kind that a value names. -/
def decode : Json → Checked ArtifactKind
  | .text name =>
      match ofName? name with
      | some kind => .ok kind
      | none => refuse .notTarget
  | _ => refuse .notTarget

end ArtifactKind

/-- A generated text: the declaration it was made for, its kind, the name that it exports, and the
text. -/
structure Artifact where
  declaration : String
  kind : ArtifactKind
  identifier : String
  content : String
  deriving DecidableEq, Repr

/-- An artifact from a value, whose other members do not matter. -/
def Artifact.decode (json : Json) : Checked Artifact := do
  let members ← readRecord "GeneratedArtifact" json
  let declaration ← required "declaration" members readText
  let kind ← required "kind" members ArtifactKind.decode
  let identifier ← required "identifier" members readText
  let content ← required "content" members readText
  return ⟨declaration, kind, identifier, content⟩

def Artifact.encode (artifact : Artifact) : Json :=
  .object [("declaration", .text artifact.declaration), ("kind", .text artifact.kind.name),
    ("identifier", .text artifact.identifier), ("content", .text artifact.content)]

end TypeScaffold
