import TypeScaffold.Graph.Basic

/-!
# Reachability

The names that dependencies lead to, and from them the names that lead back to themselves and the
names that exported declarations need.
-/

namespace TypeScaffold

namespace Graph

/-- The names of `domain` that are pending or that lead on from pending ones. Each step takes one
name out of the domain. -/
def gather (next : String → List String) (domain pending : List String) : List String :=
  match _found : pending.find? domain.contains with
  | none => []
  | some name => name :: gather next (domain.erase name) (next name ++ pending)
termination_by domain.length
decreasing_by
  have member : name ∈ domain := List.contains_iff_mem.mp (List.find?_some _found)
  have shorter := List.length_erase_of_mem member
  have positive := List.length_pos_of_mem member
  omega

/-- The given names and all that they depend on, directly or not. -/
def reach (graph : Graph) (names : List String) : List String :=
  gather graph.dependencies (names ++ graph.mentioned).eraseDups names

/-- The names of the graph that depend on themselves, directly or not. -/
def recursiveNames (graph : Graph) : List String :=
  NameSet.ofList
    (graph.keys.filter (fun name => (graph.reach (graph.dependencies name)).contains name))

/-- The graph without the dependencies between names that depend on themselves. Every circle
consists of such names only. -/
def withoutCircles (graph : Graph) : Graph :=
  graph.cutAmong graph.recursiveNames

end Graph

/-- The names that exported declarations depend on, directly or not. -/
def Model.neededNames (model : Model) : List String :=
  NameSet.ofList
    (model.graph.reach
      ((model.declarations.filter Declaration.exported).flatMap Declaration.dependencies))

end TypeScaffold
