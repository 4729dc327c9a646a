import TypeScaffold.Model.Basic

/-!
# Dependency graphs

Every question of order and recursion is asked of a graph of names. A name may depend on names that
the graph does not have.
-/

namespace TypeScaffold

/-- The names of a graph in order, each with the names that it depends on. -/
abbrev Graph := Keyed (List String)

namespace Graph

/-- The names that a name depends on. -/
def dependencies (graph : Graph) (name : String) : List String :=
  (Keyed.get? name graph).getD []

def has (graph : Graph) (name : String) : Bool :=
  graph.keys.contains name

/-- The names that the graph has, and those that are depended upon. -/
def mentioned (graph : Graph) : List String :=
  graph.keys ++ graph.flatMap Prod.snd

/-- The graph without the dependencies between two of the given names. -/
def cutAmong (graph : Graph) (names : List String) : Graph :=
  graph.map (fun (name, dependencies) =>
    (name, dependencies.filter (fun dependency =>
      !(names.contains name && names.contains dependency))))

end Graph

/-- The graph of the declared names. Of several declarations with one name the last counts. -/
def Model.graph (model : Model) : Graph :=
  Keyed.ofList
    (model.declarations.map (fun declaration => (declaration.name, declaration.dependencies)))

end TypeScaffold
