import TypeScaffold.Generation.Artifact

/-!
# Reports

Everything that a run has made: its artifacts in order and the wordings of its diagnostics.
-/

namespace TypeScaffold

open Validation

/-- The result of a run. -/
structure Report where
  artifacts : List Artifact
  warnings : List String
  deriving DecidableEq, Repr

/-- A value that names no kind of artifact. -/
structure UnknownKind where
  value : Json

/-- The wording of a value that names no kind. -/
def UnknownKind.message (unknown : UnknownKind) : String :=
  unknown.value.shown ++ " is not a valid ArtifactKind"

/-- The kind that a value names, where any value may be asked for. -/
def ArtifactKind.ofValue (value : Json) : Except UnknownKind ArtifactKind :=
  match ArtifactKind.decode value with
  | .ok kind => .ok kind
  | .error _ => .error ⟨value⟩

namespace Report

def ofKind (report : Report) (kind : ArtifactKind) : List Artifact :=
  report.artifacts.filter (fun artifact => artifact.kind == kind)

/-- The text of a module with all artifacts of a kind. -/
def moduleText (report : Report) (kind : ArtifactKind) : String :=
  "\n\n".intercalate ((report.ofKind kind).map Artifact.content)

/-- The number of artifacts of each kind and the number of warnings, under their headings. -/
def summary (report : Report) : List (String × String) :=
  ArtifactKind.all.map (fun kind => (kind.heading, toString (report.ofKind kind).length)) ++
    [("Warnings", toString report.warnings.length)]

/-- A report from values: each artifact is read alone, and then the warnings. -/
def ofValues (artifacts : List Json) (warnings : Json) : Checked Report := do
  let artifacts ← artifacts.mapM Artifact.decode
  let warnings ← (readList .notList readText warnings).under "warnings"
  return ⟨artifacts, warnings⟩

end Report

end TypeScaffold
