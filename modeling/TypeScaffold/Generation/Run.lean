import TypeScaffold.Generation.Report
import TypeScaffold.Settings
import TypeScaffold.Validator.Schema

/-!
# Runs

A run generates the wanted artifacts of every declaration of a model, dependencies first. The
generators of one declaration do not see each other's results, and no run sees another.
-/

namespace TypeScaffold

namespace Generation

/-- The artifacts of a declaration and the reports about them. -/
structure Yield where
  artifacts : List Artifact
  diagnostics : List Diagnostic

/-- What two generators yield one after the other. -/
def Yield.append (first second : Yield) : Yield :=
  ⟨first.artifacts ++ second.artifacts, first.diagnostics ++ second.diagnostics⟩

/-- What generators yield one after the other. -/
def Yield.concat : List Yield → Yield
  | [] => ⟨[], []⟩
  | first :: rest => first.append (concat rest)

/-- The yield of a generator that has made a text, if anything, for a declaration. -/
def Yield.ofOutcome (declaration : String) (kind : ArtifactKind) (identifier : String)
    (outcome : Outcome String) : Yield :=
  ⟨(outcome.result.map (fun content => ⟨declaration, kind, identifier, content⟩)).toList,
    outcome.diagnostics⟩

/-- The artifact of one kind of a declaration. -/
def generateKind (settings : Settings) (context : Context) (declaration : Declaration) :
    ArtifactKind → Yield
  | .schema =>
      .ofOutcome declaration.name .schema (Naming.schema declaration.name)
        ((Schema.build context declaration).map Schema.code)
  | .store =>
      .ofOutcome declaration.name .store (Naming.store declaration.name)
        ((Store.build context declaration).map (Store.code settings.storeOptions))
  | .form =>
      .ofOutcome declaration.name .form (Naming.component declaration.name)
        ((Form.build context declaration).map (Form.code settings.formOptions))

/-- The wanted artifacts of a declaration. -/
def generate (settings : Settings) (context : Context) (declaration : Declaration) : Yield :=
  .concat ((ArtifactKind.all.filter settings.wants).map (generateKind settings context declaration))

/-- The artifacts of all declarations of a model. What could not be read of the source is reported
first. -/
def run (settings : Settings) (model : Model) : Except Circle Report :=
  model.ordered.map (fun declarations =>
    let yielded :=
      Yield.concat (declarations.map (generate settings (Context.ofModel model)))
    ⟨yielded.artifacts,
      Diagnostic.messages (model.errors.map Diagnostic.sourceError ++ yielded.diagnostics)⟩)

end Generation

end TypeScaffold
